import FirewallExporter.Json.Reader
import FirewallExporter.Json.Value

/-!
# Shapes

A `Shape α` describes the documents that are read as an `α`. Decoding is tolerant in one way and
strict in every other: members that a record does not name are skipped and named ones may be
missing, but a member that is present must have its type, and may be present only once. A record
may also be written as an array of its fields in order, the last ones left out.

Decoding is one function on shapes, so that what holds of it holds of every reply.
-/

namespace FirewallExporter.Json

mutual

/-- What is read at one place of a document. -/
inductive Shape : Type → Type 1
  | text : Shape String
  | int : Shape Int
  | double : Shape Double
  | flag : Shape Bool
  /-- Any value. -/
  | free : Shape Value
  | list {α : Type} (item : Shape α) : Shape (List α)
  /-- An object with arbitrary keys; the last of repeated ones counts. -/
  | table {α : Type} (item : Shape α) : Shape (SortedTable String α)
  | record {β α : Type} (fields : Fields β) (build : β → α) : Shape α

/-- The fields of a record in order. -/
inductive Fields : Type → Type 1
  | nil : Fields Unit
  | cons {α β : Type} (name : String) (shape : Shape α) (rest : Fields β) : Fields (α × β)

end

/-! ## Missing fields -/

mutual

/-- What a missing field stands for. -/
def Shape.default : {α : Type} → Shape α → α
  | _, .text => ""
  | _, .int => 0
  | _, .double => Double.zero false
  | _, .flag => false
  | _, .free => .null
  | _, .list _ => []
  | _, .table _ => []
  | _, .record fields build => build fields.default

def Fields.default : {β : Type} → Fields β → β
  | _, .nil => ()
  | _, .cons _ shape rest => (shape.default, rest.default)

end

def Fields.names : {β : Type} → Fields β → List String
  | _, .nil => []
  | _, .cons name _ rest => name :: rest.names

/-! ## Decoding -/

/-- The members of an object with their keys decoded. -/
def keyed? (members : List (List Piece × Document)) : Option (List (String × Document)) :=
  members.mapM fun (k, d) ↦ (textOf? k).map fun cs ↦ (String.ofList cs, d)

/-- The members of a record, written as an object or as an array of the fields in order. -/
def members? (names : List String) : Document → Option (List (String × Document))
  | .object members => keyed? members
  | .array items => if items.length ≤ names.length then some (names.zip items) else none
  | _ => none

mutual

/-- Read a document inside `depth` containers. -/
def Shape.decode : {α : Type} → Shape α → (depth : Nat) → Document → Option α
  | _, .text, _, d => match d with
    | .string s => (textOf? s).map String.ofList
    | _ => none
  | _, .int, _, d => match d with
    | .number n => n.integer?.filter isInt64
    | _ => none
  | _, .double, _, d => match d with
    | .number n => if n.double.isFinite then some n.double else none
    | _ => none
  | _, .flag, _, d => match d with
    | .bool b => some b
    | _ => none
  | _, .free, depth, d => d.value? depth
  | _, .list item, depth, d => match d with
    | .array items => items.mapM (item.decode (depth + 1))
    | _ => none
  | _, .table item, depth, d => match d with
    | .object members => do
      let entries ← keyed? members
      let decoded ← entries.mapM fun e ↦ (item.decode (depth + 1) e.2).map fun v ↦ (e.1, v)
      some (SortedTable.ofList decoded)
    | _ => none
  | _, .record fields build, depth, d =>
    (members? fields.names d).bind fun members ↦ (fields.decode (depth + 1) members).map build

/-- Read each field from the members with its name. -/
def Fields.decode : {β : Type} → Fields β → (depth : Nat) → List (String × Document) → Option β
  | _, .nil, _, _ => some ()
  | _, .cons name shape rest, depth, members =>
    (match members.filter fun (m : String × Document) ↦ m.1 == name with
      | [] => some shape.default
      | [m] => shape.decode depth m.2
      | _ => none).bind fun v ↦ (rest.decode depth members).map fun vs ↦ (v, vs)

end

/-- Read the octets of a body. -/
def Shape.read? {α : Type} (shape : Shape α) (bytes : List UInt8) : Option α :=
  readBytes? bytes >>= shape.decode 0

end FirewallExporter.Json
