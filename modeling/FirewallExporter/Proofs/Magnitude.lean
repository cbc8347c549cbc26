import FirewallExporter.Json.Value
import FirewallExporter.Proofs.Rounding

/-!
# How large a floating-point value is

A finite value stands for a rational number, and cutting it to a 64-bit integer is cutting that
number toward zero and holding it within the range (`Double.truncate_eq`).

A rounded number may be a little off, yet it stays on the same side of every value. That is enough
to say what becomes of the whole numbers that need more than 53 bits: those beyond the 64-bit
integers stay beyond them, because 2 ^ 63 is a value.
-/

namespace FirewallExporter

/-! ## Cutting -/

/-- A rational number without its fraction. -/
def towardZero (q : ℚ) : ℤ := if 0 ≤ q then ⌊q⌋ else ⌈q⌉

/-- The nearest 64-bit integer. -/
def clamp64 (n : ℤ) : ℤ := max minInt64 (min maxInt64 n)

@[simp] theorem towardZero_intCast (n : ℤ) : towardZero n = n := by
  simp [towardZero]

theorem towardZero_of_nonneg {q : ℚ} (hq : 0 ≤ q) : towardZero q = ⌊q⌋₊ := by
  rw [towardZero, if_pos hq, Int.natCast_floor_eq_floor hq]

theorem towardZero_neg (q : ℚ) : towardZero (-q) = -towardZero q := by
  rcases lt_trichotomy q 0 with hq | rfl | hq
  · rw [towardZero, towardZero, if_pos (by linarith), if_neg (by linarith), Int.floor_neg]
  · simp [towardZero]
  · rw [towardZero, towardZero, if_neg (by linarith), if_pos hq.le, Int.ceil_neg]

theorem clamp64_of_isInt64 {n : ℤ} (h : isInt64 n = true) : clamp64 n = n := by
  simp only [isInt64, Bool.and_eq_true, decide_eq_true_eq] at h
  rw [clamp64, min_eq_right h.2, max_eq_right h.1]

namespace Double

/-- The number that a finite value stands for; the others stand for none and count as 0. -/
def value : Double → ℚ
  | finite negative m e => if negative then -(m * 2 ^ e) else m * 2 ^ e
  | _ => 0

theorem wholePart_eq_floor (m : ℕ) (e : ℤ) : wholePart m e = ⌊(m : ℚ) * 2 ^ e⌋₊ := by
  cases e with
  | ofNat e =>
    rw [wholePart, Int.ofNat_eq_natCast, zpow_natCast]
    exact_mod_cast (Nat.floor_natCast (m * 2 ^ e)).symm
  | negSucc e =>
    rw [wholePart, zpow_negSucc, ← div_eq_mul_inv]
    exact_mod_cast (Nat.floor_div_eq_div (K := ℚ) m (2 ^ (e + 1))).symm

/-- Cutting a finite value is cutting its number and holding it within the 64-bit integers. -/
theorem truncate_eq {v : Double} (h : v.isFinite = true) :
    v.truncate = clamp64 (towardZero v.value) := by
  match v with
  | finite negative m e =>
    have hfloor : towardZero ((m : ℚ) * 2 ^ e) = wholePart m e := by
      rw [towardZero_of_nonneg (by positivity), wholePart_eq_floor]
    cases negative with
    | false =>
      simp only [value, Bool.false_eq_true, if_false, hfloor]
      simp only [truncate, clamp64, minInt64, maxInt64]
      omega
    | true =>
      simp only [value, if_true, towardZero_neg, hfloor]
      simp only [truncate, clamp64, minInt64, maxInt64]
      omega

/-- What is too large is cut to the end of the range. -/
theorem AtLeast.truncate_eq {v : Double} {s : Bool} (h : v.AtLeast s (2 ^ 63)) :
    v.truncate = if s then minInt64 else maxInt64 := by
  match v with
  | infinity negative =>
    obtain rfl := h
    cases negative <;> rfl
  | finite negative m e =>
    obtain ⟨rfl, hsize⟩ := h
    have hwhole : 2 ^ 63 ≤ wholePart m e := by
      rw [wholePart_eq_floor]
      apply Nat.le_floor
      exact_mod_cast hsize
    cases negative with
    | false =>
      simp only [truncate, minInt64, maxInt64, Bool.false_eq_true, if_false]
      omega
    | true =>
      simp only [truncate, minInt64, maxInt64, if_true]
      omega

end Double

namespace Json.Number

/-! ## Numbers of a free-form value -/

/-- The rational number that a number stands for. -/
def value : Number → ℚ
  | int n => n
  | double v => v.value

/-- A number as it comes out of a document. -/
def Valid : Number → Prop
  | int n => fits64 n = true
  | double v => v.isFinite = true

/-- A number is cut toward zero and held within the 64-bit integers. -/
theorem cut_eq {x : Number} (h : x.Valid) :
    x.int64?.getD x.toDouble.truncate = clamp64 (towardZero x.value) := by
  match x with
  | double v => exact Double.truncate_eq h
  | int n =>
    rw [int64?, value, towardZero_intCast]
    split_ifs with hn
    · exact (clamp64_of_isInt64 (by simp_all [Valid, fits64, isInt64])).symm
    · have hlarge : (Double.ofInt n).AtLeast (decide (n < 0)) (2 ^ 63) := by
        have habs : 2 ^ 63 ≤ n.natAbs := by
          simp only [maxInt64] at hn
          omega
        exact Double.atLeast_ofRatio_one _ (Double.isValue_two_pow (by decide))
          (by exact_mod_cast habs)
      rw [Option.getD_none, toDouble, hlarge.truncate_eq, clamp64]
      simp only [maxInt64, minInt64] at hn ⊢
      split_ifs <;> simp_all <;> omega

end Json.Number

theorem Json.Numeral.valid_of_number? {n : Numeral} {x : Number} (h : n.number? = some x) :
    x.Valid := by
  rw [number?] at h
  cases hint : n.integer?.filter fits64 with
  | some i =>
    rw [hint] at h
    obtain rfl := Option.some.inj h
    exact (Option.filter_eq_some_iff.mp hint).2
  | none =>
    rw [hint] at h
    dsimp only at h
    split_ifs at h with hfinite
    obtain rfl := Option.some.inj h
    exact hfinite

end FirewallExporter
