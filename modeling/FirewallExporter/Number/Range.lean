/-!
# The ranges of 64-bit integers

The bounds are written out, so that a comparison with one of them is decided by the numerals alone.
-/

namespace FirewallExporter

/-- The least signed integer of 64 bits, `-2 ^ 63`. -/
def minInt64 : Int := -9223372036854775808

/-- The greatest signed integer of 64 bits, `2 ^ 63 - 1`. -/
def maxInt64 : Int := 9223372036854775807

/-- The greatest unsigned integer of 64 bits, `2 ^ 64 - 1`. -/
def maxNat64 : Nat := 18446744073709551615

/-- Whether a whole number is a signed integer of 64 bits. -/
def isInt64 (n : Int) : Bool := minInt64 ≤ n && n ≤ maxInt64

/-- Whether a whole number fits in 64 bits, signed or unsigned. -/
def fits64 (n : Int) : Bool := minInt64 ≤ n && n ≤ maxNat64

end FirewallExporter
