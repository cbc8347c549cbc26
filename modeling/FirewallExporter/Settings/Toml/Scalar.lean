import FirewallExporter.Json.Reader
import FirewallExporter.Settings.Tree

/-!
# TOML scalars

Strings in their four forms, integers in four bases, floating-point numbers, booleans, and dates
and times. A date or time becomes its text.
-/

namespace FirewallExporter.Settings.Toml

/-! ## Characters -/

/-- White space within a line. -/
def isLineBlank (c : Char) : Bool := c == ' ' || c == '\t'

def skipBlanks (cs : List Char) : List Char := cs.dropWhile isLineBlank

/-- A character that may stand in a comment or a string: no control character but the tab. -/
def isPlain (c : Char) : Bool := c == '\t' || (0x20 ≤ c.toNat && c.toNat != 0x7F)

/-- A character of a bare key. -/
def isBareKeyChar (c : Char) : Bool := c.isAlphanum || c == '_' || c == '-'

/-- The rest of a comment. The line break, or the end, must follow. -/
def readComment (cs : List Char) : Option (List Char) :=
  match cs.dropWhile isPlain with
  | [] => some []
  | '\n' :: rest => some ('\n' :: rest)
  | '\r' :: '\n' :: rest => some ('\r' :: '\n' :: rest)
  | _ => none

/-! ## Strings -/

/-- The character of a code point, which must not be a surrogate. -/
def scalar? (n : Nat) : Option Char :=
  if n < 0xD800 ∨ (0xDFFF < n ∧ n < 0x110000) then some (Char.ofNat n) else none

/-- A character given by `n` hexadecimal digits. -/
def readCodePoint (n : Nat) (cs : List Char) : Option (Char × List Char) :=
  if n ≤ cs.length then (numberIn? 16 (cs.take n) >>= scalar?).map fun c ↦ (c, cs.drop n) else none

/-- An escape after its backslash. -/
def readEscape : List Char → Option (Char × List Char)
  | 'b' :: rest => some ('\x08', rest)
  | 't' :: rest => some ('\t', rest)
  | 'n' :: rest => some ('\n', rest)
  | 'f' :: rest => some ('\x0c', rest)
  | 'r' :: rest => some ('\r', rest)
  | 'e' :: rest => some ('\x1b', rest)
  | '"' :: rest => some ('"', rest)
  | '\\' :: rest => some ('\\', rest)
  | 'x' :: rest => readCodePoint 2 rest
  | 'u' :: rest => readCodePoint 4 rest
  | 'U' :: rest => readCodePoint 8 rest
  | _ => none

/-- Read characters of a string; every step takes at least one. -/
def readBasicFrom : Nat → List Char → Option (List Char × List Char)
  | 0, _ => none
  | _, [] => none
  | _ + 1, '"' :: rest => some ([], rest)
  | fuel + 1, '\\' :: rest => do
    let (c, rest) ← readEscape rest
    let (s, rest) ← readBasicFrom fuel rest
    some (c :: s, rest)
  | fuel + 1, c :: rest =>
    if isPlain c then (readBasicFrom fuel rest).map fun (s, rest) ↦ (c :: s, rest) else none

/-- A string in double quotes, after the first of them. -/
def readBasic (cs : List Char) : Option (List Char × List Char) := readBasicFrom (cs.length + 1) cs

/-- A string in single quotes, after the first of them. -/
def readLiteral : List Char → Option (List Char × List Char)
  | [] => none
  | '\'' :: rest => some ([], rest)
  | c :: rest =>
    if isPlain c then (readLiteral rest).map fun (s, rest) ↦ (c :: s, rest) else none

/-- Up to two quotes right before the three that close a string belong to it. -/
def readQuotes (q : Char) (cs : List Char) : List Char × List Char :=
  let n := (cs.takeWhile (· == q)).length
  (List.replicate (min n 2) q, cs.drop (min n 2))

/-- What follows a line break, if the characters start with one. -/
def readBreak? : List Char → Option (List Char)
  | '\n' :: rest => some rest
  | '\r' :: '\n' :: rest => some rest
  | _ => none

/-- Skip white space and line breaks. -/
def skipBreaks : List Char → List Char
  | '\r' :: '\n' :: rest => skipBreaks rest
  | c :: rest => if isLineBlank c || c == '\n' then skipBreaks rest else c :: rest
  | [] => []

/-- Whether a character may stand before others in a string over several lines. A carriage return
belongs to a line break. -/
def isMultiline (c : Char) (after : List Char) : Bool :=
  isPlain c || c == '\n' || (c == '\r' && after.head? == some '\n')

/-- A string over several lines, after its opening quotes and the first line break. A backslash at
the end of a line takes the line break and the white space after it. -/
def readMultiBasic : Nat → List Char → Option (List Char × List Char)
  | 0, _ => none
  | _, [] => none
  | _ + 1, '"' :: '"' :: '"' :: rest => some (readQuotes '"' rest)
  | fuel + 1, '\\' :: rest =>
    match readBreak? (skipBlanks rest) with
    | some rest => readMultiBasic fuel (skipBreaks rest)
    | none => do
      let (c, rest) ← readEscape rest
      let (s, rest) ← readMultiBasic fuel rest
      some (c :: s, rest)
  | fuel + 1, c :: rest =>
    if isMultiline c rest then (readMultiBasic fuel rest).map fun (s, rest) ↦ (c :: s, rest)
    else none

/-- The same without escapes. -/
def readMultiLiteral : List Char → Option (List Char × List Char)
  | [] => none
  | '\'' :: '\'' :: '\'' :: rest => some (readQuotes '\'' rest)
  | c :: rest =>
    if isMultiline c rest then (readMultiLiteral rest).map fun (s, rest) ↦ (c :: s, rest)
    else none

/-- Skip a line break right after opening quotes. -/
def skipFirstBreak (cs : List Char) : List Char := (readBreak? cs).getD cs

/-- A string of any form, if one starts here. -/
def readString? (cs : List Char) : Option (Option (List Char × List Char)) :=
  match cs with
  | '"' :: '"' :: '"' :: rest => some (readMultiBasic (rest.length + 1) (skipFirstBreak rest))
  | '"' :: rest => some (readBasic rest)
  | '\'' :: '\'' :: '\'' :: rest => some (readMultiLiteral (skipFirstBreak rest))
  | '\'' :: rest => some (readLiteral rest)
  | _ => none

/-! ## Numbers -/

/-- Digits with single underscores between them, without the underscores. -/
def plainDigits? (isDigit : Char → Bool) : List Char → Option (List Char)
  | [] => none
  | [c] => if isDigit c then some [c] else none
  | c :: '_' :: rest => if isDigit c then (plainDigits? isDigit rest).map (c :: ·) else none
  | c :: rest => if isDigit c then (plainDigits? isDigit rest).map (c :: ·) else none

/-- The number that digits in a base write, perhaps with underscores between them. -/
def digitsIn? (base : Nat) (cs : List Char) : Option Nat :=
  plainDigits? (fun c ↦ (digitIn? base c).isSome) cs >>= numberIn? base

/-- Digits of a decimal number, which start with a zero only when it stands alone. -/
def wholeDigits? (cs : List Char) : Option (List Char) :=
  (plainDigits? Char.isDigit cs).filter fun ds ↦ ds.length == 1 || ds.head? != some '0'

/-- The sign of a number and what follows it. -/
def splitSign : List Char → Bool × List Char
  | '-' :: rest => (true, rest)
  | '+' :: rest => (false, rest)
  | rest => (false, rest)

/-- A 64-bit integer. Only decimal ones have a sign. -/
def integer? (cs : List Char) : Option Int :=
  let value : Option Int := match cs with
    | '0' :: 'x' :: ds => (digitsIn? 16 ds).map Int.ofNat
    | '0' :: 'o' :: ds => (digitsIn? 8 ds).map Int.ofNat
    | '0' :: 'b' :: ds => (digitsIn? 2 ds).map Int.ofNat
    | cs =>
      let (negative, ds) := splitSign cs
      (wholeDigits? ds).map fun ds ↦
        if negative then -(digitsValue ds : Int) else digitsValue ds
  value.filter isInt64

/-- The exponent of a floating-point number, without its letter. -/
def exponent? (cs : List Char) : Option Int :=
  let (negative, ds) := splitSign cs
  (plainDigits? Char.isDigit ds).map fun ds ↦
    if negative then -(digitsValue ds : Int) else digitsValue ds

/-- A floating-point number: it has a fraction, an exponent, or a name. Only the name writes an
infinite one. -/
def real? (cs : List Char) : Option Double :=
  let (negative, rest) := splitSign cs
  if rest = ['i', 'n', 'f'] then some (.infinity negative)
  else if rest = ['n', 'a', 'n'] then some .nan
  else
    let (mantissa, tail) := rest.span fun c ↦ c != 'e' && c != 'E'
    let (whole, point) := mantissa.span (· != '.')
    let fraction? : Option (List Char) := match point with
      | [] => some []
      | _ :: ds => plainDigits? Char.isDigit ds
    let power? : Option Int := match tail with
      | [] => some 0
      | _ :: cs => exponent? cs
    if point = [] ∧ tail = [] then none
    else do
      let whole ← wholeDigits? whole
      let fraction ← fraction?
      let power ← power?
      let v := Double.ofDecimal negative (digitsValue (whole ++ fraction)) (power - fraction.length)
      if v.isFinite then some v else none

/-! ## Dates and times -/

/-- A number of exactly `n` digits. -/
def fixed? (n : Nat) (cs : List Char) : Option Nat :=
  if cs.length = n ∧ cs.all Char.isDigit then some (digitsValue cs) else none

/-- The number of days of a month. -/
def daysIn (year month : Nat) : Nat :=
  if month = 2 then
    if (year % 4 = 0 ∧ year % 100 ≠ 0) ∨ year % 400 = 0 then 29 else 28
  else if month = 4 ∨ month = 6 ∨ month = 9 ∨ month = 11 then 30 else 31

/-- A date such as `1979-05-27`. -/
def isDate (cs : List Char) : Bool :=
  match fixed? 4 (cs.take 4), cs.drop 4 with
  | some year, '-' :: rest =>
    match fixed? 2 (rest.take 2), rest.drop 2 with
    | some month, '-' :: rest =>
      match fixed? 2 rest with
      | some day => 1 ≤ month && month ≤ 12 && 1 ≤ day && day ≤ daysIn year month
      | none => false
    | _, _ => false
  | _, _ => false

/-- The fraction of a second with its point: cut to nine digits, and without zeros at its end unless
one stands alone. -/
def fraction? : List Char → Option (List Char)
  | [] => some []
  | _ :: ds =>
    if ds ≠ [] ∧ ds.all Char.isDigit then
      let kept := Text.dropEndWhile (· == '0') (ds.take 9)
      some ('.' :: (if kept = [] then ['0'] else kept))
    else none

/-- Numbers of two digits with colons between them. -/
def clock? (cs : List Char) : Option (List Nat) := (Text.split ':' cs).mapM (fixed? 2)

/-- A time such as `07:32` or `07:32:00.5`. Without seconds there is no fraction. -/
def time? (cs : List Char) : Option (List Char) :=
  let (clock, point) := cs.span (· != '.')
  match clock? clock with
  | some [hour, minute] => if hour ≤ 23 ∧ minute ≤ 59 ∧ point = [] then some clock else none
  | some [hour, minute, second] =>
    if hour ≤ 23 ∧ minute ≤ 59 ∧ second ≤ 60 then (fraction? point).map (clock ++ ·) else none
  | _ => none

/-- The offset of a time zone. No offset at all counts as one to the east. -/
def offset? : List Char → Option (List Char)
  | ['Z'] => some ['Z']
  | ['z'] => some ['Z']
  | [] => none
  | sign :: rest =>
    match clock? rest with
    | some [hour, minute] =>
      if (sign = '+' ∨ sign = '-') ∧ hour ≤ 23 ∧ minute ≤ 59 then
        some ((if hour = 0 ∧ minute = 0 then '+' else sign) :: rest)
      else none
    | _ => none

/-- A time with an offset after it, or without one. -/
def zonedTime? (cs : List Char) : Option (List Char) :=
  let (clock, zone) := cs.span fun c ↦ c.isDigit || c == ':' || c == '.'
  match time? clock with
  | none => none
  | some t => if zone = [] then some t else (offset? zone).map (t ++ ·)

/-- A date, a time, or both with an optional offset, as text. -/
def moment? (cs : List Char) : Option (List Char) :=
  if isDate (cs.take 10) then
    match cs.drop 10 with
    | [] => some cs
    | c :: rest =>
      if c = 'T' ∨ c = 't' ∨ c = ' ' then (zonedTime? rest).map (cs.take 10 ++ 'T' :: ·) else none
  else time? cs

/-! ## Scalars -/

/-- A character of a scalar that is no string. -/
def isScalarChar (c : Char) : Bool :=
  c.isAlphanum || c == '+' || c == '-' || c == '.' || c == '_' || c == ':'

/-- The characters of a scalar. A date may be followed by a space and a time. -/
def spanScalar (cs : List Char) : List Char × List Char :=
  let (word, rest) := cs.span isScalarChar
  match rest with
  | ' ' :: d :: tail =>
    if isDate word && d.isDigit then
      let (more, rest) := (d :: tail).span isScalarChar
      (word ++ ' ' :: more, rest)
    else (word, rest)
  | rest => (word, rest)

/-- The value of a scalar that is no string. -/
def scalarValue? (word : List Char) : Option Tree :=
  if word = "true".toList then some (.flag true)
  else if word = "false".toList then some (.flag false)
  else match integer? word with
    | some n => some (.int n)
    | none =>
      match real? word with
      | some v => some (.real v)
      | none => (moment? word).map fun cs ↦ .text (String.ofList cs)

def readScalar (cs : List Char) : Option (Tree × List Char) :=
  match readString? cs with
  | some string => string.map fun (s, rest) ↦ (.text (String.ofList s), rest)
  | none =>
    let (word, rest) := spanScalar cs
    (scalarValue? word).map fun v ↦ (v, rest)

end FirewallExporter.Settings.Toml
