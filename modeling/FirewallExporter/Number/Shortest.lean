import FirewallExporter.Number.Double

/-!
# The shortest decimal text

A finite value is written with the fewest significant digits that still identify it, and among the
texts of that length with the one nearest to it. The digits are found on one decimal grid after
another: on the grid with `k` digits only the two neighbours of the value need a look.

The notation is positional for every exponent.
-/

namespace FirewallExporter.Double

/-! ## Comparing fractions -/

/-- A non-negative fraction `num * 2 ^ twos * 10 ^ tens`, the exponents of either sign. -/
structure Scaled where
  num : Nat
  twos : Int
  tens : Int

/-- A power with the negative exponents cut off; the other side of a comparison takes those. -/
def Scaled.power (base : Nat) (e : Int) : Nat := Nat.pow base e.toNat

/-- `a < b` as fractions, cross-multiplied into natural numbers. -/
def Scaled.lt (a b : Scaled) : Bool :=
  a.num * power 2 (a.twos - b.twos) * power 10 (a.tens - b.tens) <
    b.num * power 2 (b.twos - a.twos) * power 10 (b.tens - a.tens)

/-- `a ≤ b` as fractions. -/
def Scaled.le (a b : Scaled) : Bool := !(b.lt a)

/-! ## The interval of a value -/

/-- Every real number in the interval rounds to `m * 2 ^ e`. The ends lie halfway to the
neighbouring values; below a power of two the neighbour is twice as near. Both ends belong to the
interval when `m` is even, because ties go to the even significand. -/
structure Interval where
  low : Scaled
  high : Scaled
  closed : Bool

def interval (m : Nat) (e : Int) : Interval where
  low := if m = leastNormal ∧ -1074 < e then ⟨4 * m - 1, e - 2, 0⟩ else ⟨2 * m - 1, e - 1, 0⟩
  high := ⟨2 * m + 1, e - 1, 0⟩
  closed := m % 2 == 0

def Interval.contains (i : Interval) (x : Scaled) : Bool :=
  if i.closed then i.low.le x && x.le i.high else i.low.lt x && x.lt i.high

/-! ## The digits -/

/-- The whole part of `m * 2 ^ e / 10 ^ p`. -/
def gridFloor (m : Nat) (e p : Int) : Nat :=
  (m * Nat.pow 2 e.toNat * Nat.pow 10 (-p).toNat) / (Nat.pow 2 (-e).toNat * Nat.pow 10 p.toNat)

/-- Whether the value lies at least halfway from `d * 10 ^ p` to `(d + 1) * 10 ^ p`. -/
def upperHalf (m : Nat) (e p : Int) (d : Nat) : Bool :=
  Scaled.le ⟨2 * d + 1, 0, p⟩ ⟨m, e + 1, 0⟩

/-- The point of the grid `10 ^ p` that identifies the value and is nearest to it, if one does. A
tie goes up. -/
def onGrid? (m : Nat) (e p : Int) : Option Nat :=
  let d := gridFloor m e p
  let i := interval m e
  let down := i.contains ⟨d, 0, p⟩
  let up := i.contains ⟨d + 1, 0, p⟩
  if up && (!down || upperHalf m e p d) then some (d + 1)
  else if down then some d
  else none

/-- The number of digits before the decimal point, negative when zeros follow the point. A negative
power of two is an exact decimal, since `2 ^ -k = 5 ^ k * 10 ^ -k`. -/
def magnitude (m : Nat) : Int → Int
  | .ofNat e => decimalLength (m * Nat.pow 2 e)
  | .negSucc e => (decimalLength (m * Nat.pow 5 (e + 1)) : Int) - (e + 1)

/-- The first grid, from one digit on, with a point that identifies the value. Seventeen digits
always do. -/
def shortestFrom (m : Nat) (e : Int) : Nat → Int → Nat × Int
  | 0, p => (gridFloor m e p, p)
  | fuel + 1, p =>
    match onGrid? m e p with
    | some d => (d, p)
    | none => shortestFrom m e fuel (p - 1)

/-- Drop one zero at the end, which a carry into a new digit leaves there. -/
def dropZero : Nat × Int → Nat × Int
  | (d, p) => if d % 10 = 0 then (d / 10, p + 1) else (d, p)

/-- The decimal `d * 10 ^ p` that writes `m * 2 ^ e` with the fewest digits. -/
def shortest (m : Nat) (e : Int) : Nat × Int := dropZero (shortestFrom m e 17 (magnitude m e - 1))

/-! ## The text -/

/-- The decimal digits of a natural number. -/
def natChars (n : Nat) : List Char := Nat.toDigits 10 n

/-- `d * 10 ^ p` in positional notation, with a point only where digits follow it. -/
def positional (d : Nat) (p : Int) : List Char :=
  let digits := natChars d
  match p with
  | .ofNat p => digits ++ List.replicate p '0'
  | .negSucc p =>
    let places := p + 1
    if digits.length ≤ places then
      '0' :: '.' :: (List.replicate (places - digits.length) '0' ++ digits)
    else
      digits.take (digits.length - places) ++ '.' :: digits.drop (digits.length - places)

/-- The text of a value as samples show it. -/
def chars : Double → List Char
  | nan => ['N', 'a', 'N']
  | infinity s => (if s then ['-'] else []) ++ ['i', 'n', 'f']
  | finite s m e =>
    (if s then ['-'] else []) ++
      (if m = 0 then ['0'] else positional (shortest m e).1 (shortest m e).2)

def text (v : Double) : String := String.ofList v.chars

end FirewallExporter.Double
