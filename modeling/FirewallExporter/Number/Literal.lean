import FirewallExporter.Number.Double
import FirewallExporter.Text.Blank

/-!
# Numbers in texts

Whole numbers, floating-point literals and measurements with a unit, as they stand in texts.

- `numberIn?`: digits in a base, of any length.
- `readInt`: an optional sign and ASCII digits, within the 64-bit range. Digits are read from the
  left, so of a bad character and an overflow the one that comes first is reported.
- `readDouble`: a decimal literal with optional fraction and exponent, or a name for infinity or
  not-a-number. It is rounded, never refused for its size.
- `readWithUnit?`: a literal followed by its unit.

None of them skips white space on its own; `parseInt` and `parseDouble` trim first.
-/

namespace FirewallExporter

open FirewallExporter.Text

/-! ## Digits -/

/-- The value of an ASCII digit. -/
def digitValue? (c : Char) : Option Nat :=
  if '0' ≤ c ∧ c ≤ '9' then some (c.toNat - '0'.toNat) else none

/-- The value of a hexadecimal digit. -/
def hexValue? (c : Char) : Option Nat :=
  if '0' ≤ c ∧ c ≤ '9' then some (c.toNat - '0'.toNat)
  else if 'a' ≤ c ∧ c ≤ 'f' then some (c.toNat - 'a'.toNat + 10)
  else if 'A' ≤ c ∧ c ≤ 'F' then some (c.toNat - 'A'.toNat + 10)
  else none

/-- The value of a digit in a base up to sixteen. -/
def digitIn? (base : Nat) (c : Char) : Option Nat := (hexValue? c).filter (· < base)

/-- The number that one or more digits write in a base up to sixteen. -/
def numberIn? (base : Nat) (cs : List Char) : Option Nat :=
  if cs = [] then none else cs.foldlM (fun n c ↦ (digitIn? base c).map (n * base + ·)) 0

/-! ## Whole numbers -/

/-- Why a text is no integer. -/
inductive IntFault
  | empty
  | invalidDigit
  | tooLarge
  | tooSmall
deriving DecidableEq, Repr

def IntFault.message : IntFault → String
  | empty => "cannot parse integer from empty string"
  | invalidDigit => "invalid digit found in string"
  | tooLarge => "number too large to fit in target type"
  | tooSmall => "number too small to fit in target type"

/-- Read digits from the left onto `acc`, never beyond `limit`. -/
def readDigits (limit : Nat) (beyond : IntFault) : Nat → List Char → Except IntFault Nat
  | acc, [] => .ok acc
  | acc, c :: cs =>
    match digitValue? c with
    | none => .error .invalidDigit
    | some d =>
      if limit < acc * 10 + d then .error beyond else readDigits limit beyond (acc * 10 + d) cs

/-- A 64-bit signed integer. A lone sign is an invalid digit. -/
def readInt : List Char → Except IntFault Int
  | [] => .error .empty
  | '+' :: c :: cs => (readDigits maxInt64.toNat .tooLarge 0 (c :: cs)).map Int.ofNat
  | '-' :: c :: cs => (readDigits minInt64.natAbs .tooSmall 0 (c :: cs)).map fun n ↦ -(n : Int)
  | c :: cs => (readDigits maxInt64.toNat .tooLarge 0 (c :: cs)).map Int.ofNat

/-- An unsigned integer up to `limit`; a minus sign is an invalid digit. -/
def readNat (limit : Nat) : List Char → Except IntFault Nat
  | [] => .error .empty
  | '+' :: c :: cs => readDigits limit .tooLarge 0 (c :: cs)
  | c :: cs => readDigits limit .tooLarge 0 (c :: cs)

/-- An integer with white space around it. -/
def parseInt (text : String) : Except IntFault Int := readInt (trim text.toList)

/-! ## Floating-point literals -/

/-- Why a text is no floating-point literal. -/
inductive DoubleFault
  | empty
  | invalid
deriving DecidableEq, Repr

def DoubleFault.message : DoubleFault → String
  | empty => "cannot parse float from empty string"
  | invalid => "invalid float literal"

/-- The number that a list of digits writes. -/
def digitsValue (cs : List Char) : Nat :=
  cs.foldl (fun n c ↦ n * 10 + (c.toNat - '0'.toNat)) 0

/-- Split off the leading digits. -/
def spanDigits (cs : List Char) : List Char × List Char := cs.span Char.isDigit

/-- What may follow the digits: nothing, or an exponent. -/
def readExponent? : List Char → Option Int
  | [] => some 0
  | e :: cs =>
    if e = 'e' ∨ e = 'E' then
      let (negative, ds) := match cs with
        | '-' :: ds => (true, ds)
        | '+' :: ds => (false, ds)
        | ds => (false, ds)
      if ds ≠ [] ∧ ds.all Char.isDigit then
        some (if negative then -(digitsValue ds : Int) else digitsValue ds)
      else none
    else none

/-- Digits with at most one point among them, at least one digit, and an optional exponent. -/
def readDecimal? (negative : Bool) (cs : List Char) : Option Double :=
  let (whole, rest) := spanDigits cs
  let (fraction, rest) := match rest with
    | '.' :: rest => spanDigits rest
    | rest => ([], rest)
  if whole = [] ∧ fraction = [] then none
  else (readExponent? rest).map fun e ↦
    Double.ofDecimal negative (digitsValue (whole ++ fraction)) (e - fraction.length)

/-- A literal without its sign. The names are read in either case. -/
def readUnsigned? (negative : Bool) (cs : List Char) : Option Double :=
  let name := cs.map Char.toLower
  if name = ['i', 'n', 'f'] ∨ name = ['i', 'n', 'f', 'i', 'n', 'i', 't', 'y'] then
    some (.infinity negative)
  else if name = ['n', 'a', 'n'] then some .nan
  else readDecimal? negative cs

def readDouble : List Char → Except DoubleFault Double
  | [] => .error .empty
  | c :: cs =>
    let value := if c = '-' then readUnsigned? true cs
      else if c = '+' then readUnsigned? false cs
      else readUnsigned? false (c :: cs)
    match value with
    | some v => .ok v
    | none => .error .invalid

/-- A literal with white space around it. -/
def parseDouble (text : String) : Except DoubleFault Double := readDouble (trim text.toList)

/-! ## Measurements -/

/-- The value of a measurement such as `12.3 ms`: a literal, then the unit, with white space
around either of them. -/
def readWithUnit? (unit : String) (text : String) : Option Double :=
  match stripSuffix? unit.toList (trim text.toList) with
  | none => none
  | some number => (readDouble (trimEnd number)).toOption

end FirewallExporter
