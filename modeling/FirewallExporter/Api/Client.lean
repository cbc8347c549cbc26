import FirewallExporter.Api.Dialogue
import FirewallExporter.Api.Endpoint
import FirewallExporter.Api.FetchError
import FirewallExporter.Json.Shape
import FirewallExporter.Text.Base64

/-!
# The client

A call resolves an endpoint name, sends its request until something answers, and judges the first
response. `Client.judge` gives the order of the tests: a body that cannot be read, then the status,
then the decoding.
-/

namespace FirewallExporter

/-- Where the firewall is and how to log in. -/
structure Client where
  endpoints : SortedTable String String
  base : String
  key : String
  secret : String

/-- What a typed call asks for. -/
structure Query (α : Type) where
  endpoint : Endpoint
  method : Method
  body : Option String
  /-- Read a body of a successful response. -/
  decode : List UInt8 → Option (Except Unparsable α)

namespace Client

/-! ## Requests -/

/-- The credentials for HTTP basic authentication. -/
def authorization (c : Client) : String :=
  "Basic " ++ String.ofList (Base64.encode (Utf8.encode (c.key ++ ":" ++ c.secret)))

/-- The headers of every request; a posted body is announced as JSON. -/
def headers (c : Client) (method : Method) : List (String × String) :=
  [("accept", "application/json"), ("accept-encoding", "gzip, deflate, br"),
    ("authorization", c.authorization)] ++
  (if method = .post then [("content-type", "application/json;charset=utf-8")] else []) ++
  [("user-agent", "prometheus-opnsense-exporter/0.4.0")]

def request (c : Client) (method : Method) (path : String) (body : Option String) : Request where
  method := method
  base := c.base
  path := path
  headers := c.headers method
  body := body.getD ""

/-! ## Calls -/

/-- How often a short call is tried. -/
def shortAttempts : Nat := 3

/-- A long-running call is tried once. -/
def longAttempts : Nat := 1

/-- Send a request until it is answered, at most `attempts` times. -/
def sendUpTo (r : Request) : (attempts : Nat) → Dialogue (Option Response)
  | 0 => .done none
  | n + 1 => .send r fun o ↦
    match o.response? with
    | some response => .done (some response)
    | none => sendUpTo r n

/-- The verdict on a response: its body must be readable, its status successful, and the body must
decode. -/
def judge {α : Type} (decode : List UInt8 → Option (Except Unparsable α)) (r : Response) :
    Except FetchFault α :=
  match r.body with
  | none => .error (.unreadableBody r.status)
  | some body =>
    if 200 ≤ r.status ∧ r.status ≤ 299 then
      match decode body with
      | none => .error (.undecodable r.status)
      | some (.error cause) => .error (.unparsable cause)
      | some (.ok a) => .ok a
    else .error (.rejected r.status (Utf8.decodeLossy body))

/-- The verdict after `attempts` attempts of which the last may have brought a response. -/
def conclude {α : Type} (attempts : Nat) (decode : List UInt8 → Option (Except Unparsable α)) :
    Option Response → Except FetchFault α
  | none => .error (.noResponse attempts)
  | some r => judge decode r

/-- Call an endpoint by name. A name that is not mapped sends nothing. -/
def call {α : Type} (c : Client) (attempts : Nat) (method : Method) (endpoint : String)
    (body : Option String) (decode : List UInt8 → Option (Except Unparsable α)) :
    Dialogue (Except FetchError α) :=
  match c.endpoints.get? endpoint with
  | none => .done (.error ⟨endpoint, .unknownEndpoint⟩)
  | some path =>
    (sendUpTo (c.request method path body) attempts).bind fun response ↦
      .done ((conclude attempts decode response).mapError (⟨endpoint, ·⟩))

/-- A typed call. -/
def fetch {α : Type} (c : Client) (q : Query α) : Dialogue (Except FetchError α) :=
  c.call shortAttempts q.method q.endpoint.name q.body q.decode

/-- Ask the firewall to check for firmware updates. This takes long and is never repeated. -/
def triggerFirmwareCheck (c : Client) : Dialogue (Except FetchError Unit) :=
  c.call longAttempts .post Endpoint.firmware.name (some "\x7b\x7d")
    fun bytes ↦ (Json.Shape.free.read? bytes).map fun _ ↦ .ok ()

end Client

namespace Query

/-- A query that reads a shape and converts what it read. -/
def ofShape {ρ α : Type} (endpoint : Endpoint) (method : Method) (body : Option String)
    (shape : Json.Shape ρ) (convert : ρ → Except Unparsable α) : Query α where
  endpoint := endpoint
  method := method
  body := body
  decode bytes := (shape.read? bytes).map convert

/-- The body that asks a search for all its rows. -/
def searchAll : String :=
  "\x7b\"current\":1,\"rowCount\":-1,\"sort\":\x7b\x7d,\"searchPhrase\":\"\"\x7d"

/-- The same, without resolving names. -/
def searchUnresolved : String :=
  "\x7b\"current\":1,\"rowCount\":-1,\"sort\":\x7b\x7d,\"searchPhrase\":\"\",\"resolve\":\"no\"\x7d"

end Query

end FirewallExporter
