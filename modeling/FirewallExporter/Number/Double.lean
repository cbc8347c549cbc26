import FirewallExporter.Number.Range

/-!
# Binary floating-point values

Sample values are 64-bit binary floating-point numbers. They are kept exactly, as a sign, a natural
number and a power of two, so that every operation here is a statement about whole numbers and
reduces in the kernel.

`Double.ofRatio` is the one place where rounding happens: a quotient goes to the nearest value, a
tie to the even significand, and what is too large to infinity. Products and quotients of values
are exact fractions that are rounded there.
-/

namespace FirewallExporter

/-- A 64-bit binary floating-point value. `finite s m e` stands for `m * 2 ^ e`, negated when `s`
holds. The functions of this library only build canonical values: `m < 2 ^ 53`, `-1074 ≤ e ≤ 971`,
and `2 ^ 52 ≤ m` unless `e = -1074`. -/
inductive Double
  | nan
  | infinity (negative : Bool)
  | finite (negative : Bool) (significand : Nat) (exponent : Int)
deriving DecidableEq, Repr, Inhabited

namespace Double

/-- One more than the greatest significand, `2 ^ 53`. -/
def significandLimit : Nat := 9007199254740992

/-- The least significand with all of its bits, `2 ^ 52`. -/
def leastNormal : Nat := 4503599627370496

/-! ## Rounding -/

/-- The fraction `num / (den * 2 ^ e)` as numerator and denominator. -/
def scaled (num den : Nat) : Int → Nat × Nat
  | .ofNat e => (num, den * Nat.pow 2 e)
  | .negSucc e => (num * Nat.pow 2 (e + 1), den)

/-- The natural number nearest to `num / den`; a tie goes to the even one. -/
def roundHalfEven (num den : Nat) : Nat :=
  let q := num / den
  let r := num % den
  if 2 * r < den then q
  else if den < 2 * r then q + 1
  else if q % 2 = 0 then q else q + 1

/-- The exponent of the binary grid on which `num / den` is rounded: the least one from `-1074` on
for which the whole part of the scaled fraction has at most 53 bits. -/
def gridExponent (num den : Nat) : Int :=
  let guess : Int := max (-1074) ((num.log2 : Int) - (den.log2 : Int) - 53)
  let (n, d) := scaled num den guess
  if n / d < significandLimit then guess else guess + 1

def zero (negative : Bool) : Double := finite negative 0 (-1074)

/-- The value nearest to `num / den`, with the given sign. -/
def ofRatio (negative : Bool) (num den : Nat) : Double :=
  if num = 0 then zero negative
  else
    let e := gridExponent num den
    let (n, d) := scaled num den e
    let m := roundHalfEven n d
    let (m, e) := if m = significandLimit then (leastNormal, e + 1) else (m, e)
    if 971 < e then infinity negative else finite negative m e

/-- The value nearest to a whole number. -/
def ofInt (n : Int) : Double := ofRatio (n < 0) n.natAbs 1

def ofNat (n : Nat) : Double := ofRatio false n 1

/-- The value 1 for yes and 0 for no. -/
def ofBool (b : Bool) : Double := ofNat (if b then 1 else 0)

/-- The number of decimal digits of `n`, none for zero. -/
def decimalLength (n : Nat) : Nat := if n = 0 then 0 else (Nat.toDigits 10 n).length

/-- The value nearest to `digits * 10 ^ exponent`. What lies far outside the range of finite values
is settled by its number of digits alone. -/
def ofDecimal (negative : Bool) (digits : Nat) (exponent : Int) : Double :=
  let size := (decimalLength digits : Int) + exponent
  if digits = 0 ∨ size < -330 then zero negative
  else if 320 < size then infinity negative
  else match exponent with
    | .ofNat e => ofRatio negative (digits * Nat.pow 10 e) 1
    | .negSucc e => ofRatio negative digits (Nat.pow 10 (e + 1))

/-! ## Arithmetic -/

/-- The value with the other sign. -/
def neg : Double → Double
  | nan => nan
  | infinity s => infinity !s
  | finite s m e => finite (!s) m e

/-- The value nearest to `num / den * 2 ^ e`. -/
def ofScaled (negative : Bool) (num den : Nat) (e : Int) : Double :=
  let (n, d) := scaled num den (-e)
  ofRatio negative n d

/-- The product, rounded. -/
def mul : Double → Double → Double
  | nan, _ => nan
  | _, nan => nan
  | infinity s, infinity t => infinity (s != t)
  | infinity s, finite t n _ => if n = 0 then nan else infinity (s != t)
  | finite s m _, infinity t => if m = 0 then nan else infinity (s != t)
  | finite s m e, finite t n f => ofScaled (s != t) (m * n) 1 (e + f)

/-- The quotient, rounded. Division by zero gives infinity, and of zero by zero nothing defined. -/
def div : Double → Double → Double
  | nan, _ => nan
  | _, nan => nan
  | infinity _, infinity _ => nan
  | infinity s, finite t _ _ => infinity (s != t)
  | finite s _ _, infinity t => zero (s != t)
  | finite s m e, finite t n f =>
    if n = 0 then (if m = 0 then nan else infinity (s != t))
    else ofScaled (s != t) m n (e - f)

instance : Mul Double := ⟨mul⟩

instance : Div Double := ⟨div⟩

/-! ## Whole numbers out of values -/

/-- The absolute value of `m * 2 ^ e`, rounded toward zero. -/
def wholePart (m : Nat) : Int → Nat
  | .ofNat e => m * Nat.pow 2 e
  | .negSucc e => m / Nat.pow 2 (e + 1)

/-- Rounded toward zero and held within the 64-bit integers; what is not a number gives zero. -/
def truncate : Double → Int
  | nan => 0
  | infinity true => minInt64
  | infinity false => maxInt64
  | finite true m e => max minInt64 (-(wholePart m e : Int))
  | finite false m e => min maxInt64 (wholePart m e)

/-- Rounded to the nearest whole number, a half away from zero. -/
def roundHalfAway? : Double → Option Int
  | finite s m e =>
    let n : Nat := match e with
      | .ofNat e => m * Nat.pow 2 e
      | .negSucc e => (m + Nat.pow 2 e) / Nat.pow 2 (e + 1)
    some (if s then -(n : Int) else n)
  | _ => none

/-! ## Comparison with zero -/

def isZero : Double → Bool
  | finite _ m _ => m == 0
  | _ => false

/-- The greater of the value and zero; what is not a number counts as less than zero. -/
def clampNegative : Double → Double
  | nan => zero false
  | infinity true => zero false
  | finite true _ _ => zero false
  | v => v

/-- Neither infinite nor undefined. -/
def isFinite : Double → Bool
  | finite .. => true
  | _ => false

end Double

end FirewallExporter
