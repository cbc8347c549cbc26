import FirewallExporter.Json.Printer
import FirewallExporter.Json.Shape
import FirewallExporter.Server.Site

/-!
# Lines on the wire

The exporter opens no connections of its own. It is joined by a pipe to a program that does, and the
two exchange JSON objects, one on a line:

- the other side asks for a page with `method` and `path`, and gets `status`, `content_type` and
  `body`;
- before it answers, the exporter may send requests for the firewall, with `method`, `url`,
  `headers` and `body`. Each is answered by one line with the `status` and the `body` of the
  response, the octets in Base64. A response without a body could not be read, and a line without a
  status says that there was no response.
-/

namespace FirewallExporter.Server

open Json (Value Shape)

/-- A request for a page. -/
structure PageRequest where
  method : String
  path : String
deriving DecidableEq, Repr

def pageRequestShape : Shape PageRequest :=
  .record (.cons "method" .text <| .cons "path" .text .nil) fun (method, path, ()) ↦ ⟨method, path⟩

/-- The request on a line. -/
def PageRequest.ofLine? (line : String) : Option PageRequest :=
  pageRequestShape.read? (Utf8.encode line)

/-- The line for an answer. -/
def Answer.line (a : Answer) : String :=
  Value.render (.object [("status", .number (.int a.status)),
    ("content_type", a.contentType.elim .null .string), ("body", .string a.body)])

/-- The line for a request to the firewall. -/
def requestLine (r : Request) : String :=
  Value.render (.object [("method", .string r.method.name), ("url", .string r.url),
    ("headers", .object (r.headers.map fun (name, value) ↦ (name, .string value))),
    ("body", .string r.body)])

def outcomeShape : Shape (Int × Value) :=
  .record (.cons "status" .int <| .cons "body" .free .nil) fun (status, body, ()) ↦ (status, body)

/-- The body that a value writes in Base64. -/
def bodyOf? : Value → Option (List UInt8)
  | .string s => Base64.decode? s.toList
  | _ => none

/-- The outcome on a line. A line that says nothing about a response stands for none. -/
def outcomeOfLine (line : String) : Outcome :=
  match outcomeShape.read? (Utf8.encode line) with
  | some (.ofNat (n + 1), body) => .answered ⟨n + 1, bodyOf? body⟩
  | _ => .refused

end FirewallExporter.Server
