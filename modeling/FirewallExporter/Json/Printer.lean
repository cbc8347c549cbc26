import FirewallExporter.Json.Value
import FirewallExporter.Number.Shortest

/-!
# Writing JSON

Values in pure ASCII and without white space. A character outside ASCII is written as `\u` and four
digits, one above `U+FFFF` as a pair of surrogates.
-/

namespace FirewallExporter.Json

/-- A code unit as `\u` and four hexadecimal digits. -/
def unitEscape (u : Nat) : List Char :=
  ['\\', 'u', Nat.digitChar (u / 4096 % 16), Nat.digitChar (u / 256 % 16),
    Nat.digitChar (u / 16 % 16), Nat.digitChar (u % 16)]

/-- A character inside a string of an ASCII document. -/
def asciiEscape (c : Char) : List Char :=
  let n := c.toNat
  if c = '"' ∨ c = '\\' then ['\\', c]
  else if 0x20 ≤ n ∧ n < 0x7F then [c]
  else if n < 0x10000 then unitEscape n
  else unitEscape (0xD800 + (n - 0x10000) / 0x400) ++ unitEscape (0xDC00 + (n - 0x10000) % 0x400)

def asciiString (s : String) : List Char := '"' :: (s.toList.flatMap asciiEscape ++ ['"'])

/-- A floating-point number always has a point, so that it is read back as one. -/
def Number.chars : Number → List Char
  | .int n => (toString n).toList
  | .double v => if '.' ∈ v.chars then v.chars else v.chars ++ ['.', '0']

mutual

/-- The text of a value. -/
def Value.chars : Value → List Char
  | .null => ['n', 'u', 'l', 'l']
  | .bool true => ['t', 'r', 'u', 'e']
  | .bool false => ['f', 'a', 'l', 's', 'e']
  | .number n => n.chars
  | .string s => asciiString s
  | .array items => '[' :: (itemsChars items ++ [']'])
  | .object members => '\x7b' :: (membersChars members ++ ['\x7d'])

/-- The items of an array, separated by commas. -/
def itemsChars : List Value → List Char
  | [] => []
  | [v] => v.chars
  | v :: vs => v.chars ++ ',' :: itemsChars vs

/-- The members of an object, separated by commas. -/
def membersChars : List (String × Value) → List Char
  | [] => []
  | [(k, v)] => asciiString k ++ ':' :: v.chars
  | (k, v) :: rest => asciiString k ++ ':' :: (v.chars ++ ',' :: membersChars rest)

end

def Value.render (v : Value) : String := String.ofList v.chars

end FirewallExporter.Json
