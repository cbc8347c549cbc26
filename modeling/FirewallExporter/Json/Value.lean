import FirewallExporter.Json.Document
import FirewallExporter.Table

/-!
# Free-form JSON values

Some fields may hold any value. Such a value is read with the numbers decided, the strings decoded,
and the members of an object in key order, a repeated one counting by its last value. It may not be
nested deeper than `maxDepth` containers, counted from the outermost one of the document, and every
number must be finite.
-/

namespace FirewallExporter.Json

/-- A number of a free-form value: a whole number that fits in 64 bits, signed or unsigned, or
else the nearest floating-point value. -/
inductive Number
  | int (n : Int)
  | double (v : Double)
deriving DecidableEq, Repr

/-- The number that a numeral writes, if it is finite. -/
def Numeral.number? (n : Numeral) : Option Number :=
  match n.integer?.filter fits64 with
  | some i => some (.int i)
  | none => if n.double.isFinite then some (.double n.double) else none

/-- The number as a 64-bit signed integer, if it is one as written. -/
def Number.int64? : Number → Option Int
  | .int n => if n ≤ maxInt64 then some n else none
  | .double _ => none

/-- The floating-point value of a number. -/
def Number.toDouble : Number → Double
  | .int n => Double.ofInt n
  | .double v => v

/-- A free-form value. -/
inductive Value
  | null
  | bool (b : Bool)
  | number (n : Number)
  | string (s : String)
  | array (items : List Value)
  | object (members : List (String × Value))
deriving Repr, Inhabited

/-- The number of containers that may enclose each other. -/
def maxDepth : Nat := 127

mutual

/-- The value of a document inside `depth` containers. -/
def Document.value? (depth : Nat) : Document → Option Value
  | .null => some .null
  | .bool b => some (.bool b)
  | .number n => n.number?.map .number
  | .string s => (textOf? s).map fun cs ↦ .string (String.ofList cs)
  | .array items =>
    if depth < maxDepth then (values? (depth + 1) items).map .array else none
  | .object members =>
    if depth < maxDepth then
      (entries? (depth + 1) members).map fun es ↦ .object (SortedTable.ofList es)
    else none

def values? (depth : Nat) : List Document → Option (List Value)
  | [] => some []
  | d :: ds => do
    let v ← d.value? depth
    let vs ← values? depth ds
    some (v :: vs)

def entries? (depth : Nat) : List (List Piece × Document) → Option (List (String × Value))
  | [] => some []
  | (k, d) :: rest => do
    let key ← textOf? k
    let v ← d.value? depth
    let es ← entries? depth rest
    some ((String.ofList key, v) :: es)

end

end FirewallExporter.Json
