import FirewallExporter.Json.Document
import FirewallExporter.Text.Utf8

/-!
# Reading JSON

The grammar of JSON, strictly: four characters of white space, no control character inside a string,
no leading zeros, nothing after the value. Every function takes the characters that are left and
gives back what it read and the characters after it.

A body is octets, and octets that are no UTF-8 are tolerated inside strings, as long as nobody wants
the text of the string. For the reader a NUL stands for them: a NUL has no other place in a
document.
-/

namespace FirewallExporter.Json

/-! ## Tokens -/

/-- The white space of JSON. -/
def isSpace (c : Char) : Bool := c == ' ' || c == '\t' || c == '\n' || c == '\r'

def skipSpace (cs : List Char) : List Char := cs.dropWhile isSpace

/-- The character for a one-letter escape. -/
def escape? : Char → Option Char
  | '"' => some '"'
  | '\\' => some '\\'
  | '/' => some '/'
  | 'b' => some '\x08'
  | 'f' => some '\x0c'
  | 'n' => some '\n'
  | 'r' => some '\r'
  | 't' => some '\t'
  | _ => none

/-- The rest of a string after its opening quote, and what follows the closing one. -/
def readString : List Char → Option (List Piece × List Char)
  | [] => none
  | '"' :: rest => some ([], rest)
  | '\x00' :: rest => (readString rest).map fun (s, rest) ↦ (.stray :: s, rest)
  | '\\' :: 'u' :: a :: b :: c :: d :: rest => do
    let u := (((← hexValue? a) * 16 + (← hexValue? b)) * 16 + (← hexValue? c)) * 16 +
      (← hexValue? d)
    let (s, rest) ← readString rest
    some (.unit u :: s, rest)
  | '\\' :: e :: rest => do
    let c ← escape? e
    let (s, rest) ← readString rest
    some (.char c :: s, rest)
  | c :: rest =>
    if c.toNat < 0x20 ∨ c = '\\' then none
    else (readString rest).map fun (s, rest) ↦ (.char c :: s, rest)

/-- The digits before the point: a zero alone, or digits that do not start with one. -/
def readWhole (cs : List Char) : Option (List Char × List Char) :=
  match spanDigits cs with
  | ([], _) => none
  | (d :: ds, rest) => if d = '0' ∧ ds ≠ [] then none else some (d :: ds, rest)

/-- A point and the digits after it, if a point follows. -/
def readFraction (cs : List Char) : Option (Option (List Char) × List Char) :=
  match cs with
  | '.' :: rest =>
    match spanDigits rest with
    | ([], _) => none
    | (ds, rest) => some (some ds, rest)
  | cs => some (none, cs)

/-- The exponent, if a letter for it follows. -/
def readExponent (cs : List Char) : Option (Option (Option Char × List Char) × List Char) :=
  match cs with
  | [] => some (none, [])
  | e :: rest =>
    if e = 'e' ∨ e = 'E' then
      let (sign, rest) := match rest with
        | '+' :: rest => (some '+', rest)
        | '-' :: rest => (some '-', rest)
        | rest => (none, rest)
      match spanDigits rest with
      | ([], _) => none
      | (ds, rest) => some (some (sign, ds), rest)
    else some (none, e :: rest)

/-- A number without its sign. -/
def readUnsigned (negative : Bool) (cs : List Char) : Option (Numeral × List Char) := do
  let (whole, rest) ← readWhole cs
  let (fraction, rest) ← readFraction rest
  let (exponent, rest) ← readExponent rest
  some (⟨negative, whole, fraction, exponent⟩, rest)

def readNumeral : List Char → Option (Numeral × List Char)
  | '-' :: rest => readUnsigned true rest
  | cs => readUnsigned false cs

/-! ## Values -/

mutual

/-- A value that starts at the first character. Each level of nesting costs two units of fuel. -/
def readValue : Nat → List Char → Option (Document × List Char)
  | 0, _ => none
  | fuel + 1, cs =>
    match cs with
    | 'n' :: 'u' :: 'l' :: 'l' :: rest => some (.null, rest)
    | 't' :: 'r' :: 'u' :: 'e' :: rest => some (.bool true, rest)
    | 'f' :: 'a' :: 'l' :: 's' :: 'e' :: rest => some (.bool false, rest)
    | '"' :: rest => (readString rest).map fun (s, rest) ↦ (.string s, rest)
    | '[' :: rest =>
      match skipSpace rest with
      | ']' :: rest => some (.array [], rest)
      | rest => (readItems fuel rest).map fun (items, rest) ↦ (.array items, rest)
    | '{' :: rest =>
      match skipSpace rest with
      | '}' :: rest => some (.object [], rest)
      | rest => (readMembers fuel rest).map fun (members, rest) ↦ (.object members, rest)
    | cs => (readNumeral cs).map fun (n, rest) ↦ (.number n, rest)

/-- One or more items up to the closing bracket. -/
def readItems : Nat → List Char → Option (List Document × List Char)
  | 0, _ => none
  | fuel + 1, cs => do
    let (item, rest) ← readValue fuel cs
    match skipSpace rest with
    | ']' :: rest => some ([item], rest)
    | ',' :: rest => do
      let (items, rest) ← readItems fuel (skipSpace rest)
      some (item :: items, rest)
    | _ => none

/-- One or more members up to the closing brace. -/
def readMembers : Nat → List Char → Option (List (List Piece × Document) × List Char)
  | 0, _ => none
  | fuel + 1, cs =>
    match cs with
    | '"' :: rest => do
      let (key, rest) ← readString rest
      match skipSpace rest with
      | ':' :: rest => do
        let (value, rest) ← readValue fuel (skipSpace rest)
        match skipSpace rest with
        | '}' :: rest => some ([(key, value)], rest)
        | ',' :: rest => do
          let (members, rest) ← readMembers fuel (skipSpace rest)
          some ((key, value) :: members, rest)
        | _ => none
      | _ => none
    | _ => none

end

/-- A whole document: one value with white space around it. -/
def read? (cs : List Char) : Option Document :=
  match readValue (2 * cs.length + 2) (skipSpace cs) with
  | some (d, rest) => if skipSpace rest = [] then some d else none
  | none => none

/-! ## Bodies -/

/-- What the reader sees of a character, or of octets that are no character. A NUL that is really
there becomes another control character, which is refused like any other. -/
def mark : Option Char → Char
  | none => '\x00'
  | some c => if c = '\x00' then '\x01' else c

/-- What the reader sees of the octets of a body. -/
def bodyChars (bytes : List UInt8) : List Char := (Utf8.decode bytes).map mark

/-- A document from the octets of a body. -/
def readBytes? (bytes : List UInt8) : Option Document := read? (bodyChars bytes)

end FirewallExporter.Json
