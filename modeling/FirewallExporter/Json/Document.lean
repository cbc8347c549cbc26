import FirewallExporter.Number.Literal

/-!
# JSON documents

The tree of a document as it is written. Numbers keep their digits and strings their escapes, since
what these mean depends on who reads them: an integer field refuses `1.0`, and an escape that is
half a surrogate pair, or octets that are no UTF-8, matter only in a string that somebody uses.
-/

namespace FirewallExporter.Json

/-- A number as it is written. -/
structure Numeral where
  negative : Bool
  /-- The digits before the point; a zero stands alone. -/
  whole : List Char
  /-- The digits after the point, if there is one. -/
  fraction : Option (List Char)
  /-- The sign and the digits of the exponent, if there is one. -/
  exponent : Option (Option Char × List Char)
deriving DecidableEq, Repr

namespace Numeral

/-- The whole number that is written, if the numeral has neither fraction nor exponent. Minus zero
is not a whole number. -/
def integer? (n : Numeral) : Option Int :=
  match n.fraction, n.exponent with
  | none, none =>
    let v := digitsValue n.whole
    if n.negative then (if v = 0 then none else some (-(v : Int))) else some v
  | _, _ => none

/-- The power of ten in the exponent. -/
def exponentValue (n : Numeral) : Int :=
  match n.exponent with
  | none => 0
  | some (some '-', ds) => -(digitsValue ds : Int)
  | some (_, ds) => digitsValue ds

/-! ### As a floating-point value

The digits are taken into a significand of 64 bits, which is rounded, and the power of ten is then
multiplied into it or divided out of it, which rounds again. A number with few digits and a small
power has its nearest value; with more of either, the result may lie a little beside it.
-/

/-- Take digits into a significand as long as it fits in 64 bits: the significand, and the digits
that are left. -/
def takeDigits (significand : Nat) : List Char → Nat × List Char
  | [] => (significand, [])
  | d :: ds =>
    let next := significand * 10 + (d.toNat - '0'.toNat)
    if next ≤ maxNat64 then takeDigits next ds else (significand, d :: ds)

/-- The significand and the power of ten that goes with it. Digits before the point that do not fit
each count as a power of ten, and digits after it that do not fit are dropped. -/
def scientific (n : Numeral) : Nat × Int :=
  let fraction := n.fraction.getD []
  let (m, excess) := takeDigits 0 n.whole
  let (m, dropped) := takeDigits m fraction
  (m, n.exponentValue + excess.length - (fraction.length - dropped.length : Nat))

/-- The value nearest to `10 ^ k`, for `k` up to 308. -/
def power (k : Nat) : Double := .ofNat (Nat.pow 10 k)

/-- The floating-point value, infinite when the number is too large. A power of ten below `-308` is
divided out in two steps, and one below `-616` leaves nothing of any significand. -/
def double (n : Numeral) : Double :=
  let (m, e) := n.scientific
  let f := Double.ofNat m
  let magnitude : Double :=
    if m = 0 then f
    else if 308 < e then .infinity false
    else if 0 ≤ e then f * power e.toNat
    else if -308 ≤ e then f / power e.natAbs
    else if -616 ≤ e then f / power 308 / power (e.natAbs - 308)
    else .zero false
  if n.negative then magnitude.neg else magnitude

/-- The number as it is written. -/
def chars (n : Numeral) : List Char :=
  (if n.negative then ['-'] else []) ++ n.whole ++
    (match n.fraction with
      | none => []
      | some ds => '.' :: ds) ++
    (match n.exponent with
      | none => []
      | some (sign, ds) => 'e' :: (sign.toList ++ ds))

end Numeral

/-- A piece of a string: a character, a code unit written as `\u` and four digits, or octets that
are no character. -/
inductive Piece
  | char (c : Char)
  | unit (u : Nat)
  | stray
deriving DecidableEq, Repr

/-- The text of a string. A pair of surrogate units makes one character; a lone surrogate makes
none, and neither do stray octets, and then there is no text. -/
def textOf? : List Piece → Option (List Char)
  | [] => some []
  | .stray :: _ => none
  | .char c :: rest => (textOf? rest).map (c :: ·)
  | .unit u :: rest =>
    if u < 0xD800 ∨ 0xDFFF < u then (textOf? rest).map (Char.ofNat u :: ·)
    else match rest with
      | .unit v :: rest =>
        if u ≤ 0xDBFF ∧ 0xDC00 ≤ v ∧ v ≤ 0xDFFF then
          (textOf? rest).map (Char.ofNat (0x10000 + (u - 0xD800) * 0x400 + (v - 0xDC00)) :: ·)
        else none
      | _ => none

/-- A JSON document. Members stand in the order in which they are written, repeated ones too. -/
inductive Document
  | null
  | bool (b : Bool)
  | number (n : Numeral)
  | string (s : List Piece)
  | array (items : List Document)
  | object (members : List (List Piece × Document))
deriving Repr

end FirewallExporter.Json
