import Mathlib
import FirewallExporter.Number.Double

/-!
# Rounding keeps order

`Double.ofRatio` takes a fraction to a nearest value. What is needed of that is the order: a
fraction that reaches a value is not rounded below it, and one that does not exceed a value is not
rounded above it (`Double.atLeast_ofRatio`, `Double.atMost_ofRatio`). Products and quotients are
rounded fractions, so the same holds of them.

A fraction is rounded on a grid of the multiples of a power of two. A value is a point of this grid,
or it has too many places for it. In the second case the value is less than all numbers that have 53
bits on the grid, and the fraction is one of those (`Double.isPoint_or_lt`).
-/

namespace FirewallExporter.Double

/-! ## Bounds -/

/-- A number that is a finite value. -/
def IsValue (q : ℚ) : Prop :=
  ∃ (m : ℕ) (e : ℤ), m < 2 ^ 53 ∧ -1074 ≤ e ∧ e ≤ 971 ∧ q = m * 2 ^ e

/-- The value has this sign and at least this size. An infinite value has any size. -/
def AtLeast (negative : Bool) (q : ℚ) : Double → Prop
  | nan => False
  | infinity s => s = negative
  | finite s m e => s = negative ∧ q ≤ m * 2 ^ e

/-- The value has this sign and at most this size. -/
def AtMost (negative : Bool) (q : ℚ) : Double → Prop
  | finite s m e => s = negative ∧ m * 2 ^ e ≤ q
  | _ => False

/-- The value has this sign, if it has one. -/
def HasSign (negative : Bool) : Double → Prop
  | nan => True
  | infinity s | finite s _ _ => s = negative

theorem IsValue.nonneg {q : ℚ} (h : IsValue q) : 0 ≤ q := by
  obtain ⟨m, e, -, -, -, rfl⟩ := h
  positivity

theorem IsValue.lt_zpow {q : ℚ} (h : IsValue q) : q < 2 ^ (1024 : ℤ) := by
  obtain ⟨m, e, hm, -, he, rfl⟩ := h
  have hm : (m : ℚ) < 2 ^ (53 : ℤ) := by exact_mod_cast hm
  calc (m : ℚ) * 2 ^ e < 2 ^ (53 : ℤ) * 2 ^ e := by gcongr
    _ = 2 ^ (53 + e) := (zpow_add₀ two_ne_zero ..).symm
    _ ≤ 2 ^ (1024 : ℤ) := zpow_le_zpow_right₀ one_le_two (by omega)

theorem isValue_mul_pow {m k : ℕ} (hm : m < 2 ^ 53) (hk : k ≤ 971) : IsValue (m * 2 ^ k) :=
  ⟨m, k, hm, by omega, by omega, by rw [zpow_natCast]⟩

theorem isValue_natCast {m : ℕ} (hm : m < 2 ^ 53) : IsValue m := by
  simpa using isValue_mul_pow hm (Nat.zero_le 971)

theorem isValue_two_pow {k : ℕ} (hk : k ≤ 971) : IsValue (2 ^ k) := by
  simpa using isValue_mul_pow (m := 1) (by decide) hk

/-! ## The nearest whole number -/

theorem le_roundHalfEven {num den k : ℕ} (h : (k : ℚ) ≤ num / den) : k ≤ roundHalfEven num den := by
  have hfloor : k ≤ num / den := by
    rw [← Nat.floor_div_eq_div (K := ℚ)]
    exact Nat.le_floor h
  refine hfloor.trans ?_
  simp only [roundHalfEven]
  split_ifs <;> omega

theorem roundHalfEven_le {num den k : ℕ} (hden : den ≠ 0) (h : (num : ℚ) / den ≤ k) :
    roundHalfEven num den ≤ k := by
  have hpos : (0 : ℚ) < den := by exact_mod_cast Nat.pos_of_ne_zero hden
  have hnum : num ≤ den * k := by
    rw [div_le_iff₀ hpos, mul_comm] at h
    exact_mod_cast h
  have hdivision := Nat.div_add_mod num den
  rcases (Nat.div_le_of_le_mul hnum).eq_or_lt with heq | hlt
  · -- The quotient is a whole number, so nothing is rounded.
    rw [heq] at hdivision
    have hmod : num % den = 0 := by omega
    simp only [roundHalfEven, hmod, heq]
    rw [if_pos (by omega)]
  · simp only [roundHalfEven]
    split_ifs <;> omega

/-! ## The grid -/

theorem scaled_div (num den : ℕ) (e : ℤ) :
    ((scaled num den e).1 : ℚ) / (scaled num den e).2 = num / den / 2 ^ e := by
  cases e with
  | ofNat e =>
    rw [scaled, Int.ofNat_eq_natCast, zpow_natCast, div_div, Nat.pow_eq]
    push_cast
    rfl
  | negSucc e =>
    rw [scaled, zpow_negSucc, div_inv_eq_mul, Nat.pow_eq]
    push_cast
    ring

theorem scaled_snd_ne_zero {num den : ℕ} (hden : den ≠ 0) (e : ℤ) :
    (scaled num den e).2 ≠ 0 := by
  cases e with
  | ofNat e => exact Nat.mul_ne_zero hden (by simp)
  | negSucc e => exact hden

/-- A fraction exceeds the power of two that the lengths of its parts suggest. -/
theorem zpow_log2_lt {num den : ℕ} (hnum : num ≠ 0) (hden : den ≠ 0) :
    (2 : ℚ) ^ ((num.log2 : ℤ) - den.log2 - 1) < num / den := by
  have hlower : (2 : ℚ) ^ num.log2 ≤ num := by exact_mod_cast Nat.log2_self_le hnum
  have hupper : (den : ℚ) < 2 ^ (den.log2 + 1) := by exact_mod_cast Nat.lt_log2_self
  have hpos : (0 : ℚ) < den := by exact_mod_cast Nat.pos_of_ne_zero hden
  rw [lt_div_iff₀ hpos]
  calc (2 : ℚ) ^ ((num.log2 : ℤ) - den.log2 - 1) * den
      < 2 ^ ((num.log2 : ℤ) - den.log2 - 1) * 2 ^ (den.log2 + 1) := by gcongr
    _ = 2 ^ num.log2 := by
      rw [← zpow_natCast, ← zpow_natCast, ← zpow_add₀ two_ne_zero]
      congr 1
      push_cast
      ring
    _ ≤ num := hlower

/-- The grid is no coarser than 53 bits of the fraction require. -/
theorem gridExponent_spec {num den : ℕ} (hnum : num ≠ 0) (hden : den ≠ 0) :
    gridExponent num den = -1074 ∨
      (2 : ℚ) ^ (52 : ℤ) * 2 ^ gridExponent num den ≤ num / den := by
  obtain ⟨guess, hguess⟩ : ∃ guess : ℤ, max (-1074) ((num.log2 : ℤ) - den.log2 - 53) = guess :=
    ⟨_, rfl⟩
  have hgrid : gridExponent num den =
      if (scaled num den guess).1 / (scaled num den guess).2 < significandLimit then guess
      else guess + 1 := by
    rw [← hguess]
    rfl
  rw [hgrid, ← zpow_add₀ two_ne_zero]
  split_ifs with hsmall
  · rcases le_total ((num.log2 : ℤ) - den.log2 - 53) (-1074) with hle | hge
    · exact .inl (by omega)
    · refine .inr (le_trans ?_ (zpow_log2_lt hnum hden).le)
      exact zpow_le_zpow_right₀ one_le_two (by omega)
  · have hwhole : ((2 ^ 53 : ℕ) : ℚ) ≤ num / den / 2 ^ guess := by
      rw [← scaled_div]
      refine le_trans ?_ Nat.cast_div_le
      exact_mod_cast not_lt.mp hsmall
    rw [le_div_iff₀ (by positivity)] at hwhole
    refine .inr (le_trans (le_of_eq ?_) hwhole)
    rw [Nat.cast_pow, Nat.cast_ofNat, ← zpow_natCast, ← zpow_add₀ two_ne_zero]
    congr 1
    push_cast
    ring

/-- A value is a point of the grid, or it is less than the points with 53 bits. -/
theorem isPoint_or_lt {num den : ℕ} {q : ℚ} (hnum : num ≠ 0) (hden : den ≠ 0) (hq : IsValue q) :
    (∃ k : ℕ, q = k * 2 ^ gridExponent num den) ∨
      q < 2 ^ (52 : ℤ) * 2 ^ gridExponent num den ∧
        (2 : ℚ) ^ (52 : ℤ) * 2 ^ gridExponent num den ≤ num / den := by
  obtain ⟨m, e, hm, he, -, rfl⟩ := hq
  have hspec := gridExponent_spec hnum hden
  generalize gridExponent num den = g at hspec ⊢
  rcases le_or_gt g e with hle | hlt
  · obtain ⟨k, hk⟩ := Int.eq_ofNat_of_zero_le (sub_nonneg.mpr hle)
    refine .inl ⟨m * 2 ^ k, ?_⟩
    rw [Nat.cast_mul, Nat.cast_pow, Nat.cast_ofNat, mul_assoc, ← zpow_natCast,
      ← zpow_add₀ two_ne_zero, ← hk, sub_add_cancel]
  · refine .inr ⟨?_, hspec.resolve_left (by omega)⟩
    have hm : (m : ℚ) < 2 ^ (53 : ℤ) := by exact_mod_cast hm
    calc (m : ℚ) * 2 ^ e < 2 ^ (53 : ℤ) * 2 ^ e := by gcongr
      _ = 2 ^ (53 + e) := (zpow_add₀ two_ne_zero ..).symm
      _ ≤ 2 ^ (52 + g) := zpow_le_zpow_right₀ one_le_two (by omega)
      _ = 2 ^ (52 : ℤ) * 2 ^ g := zpow_add₀ two_ne_zero ..

/-! ## Fractions -/

/-- The point of the grid to which a fraction is rounded. -/
def nearest (num den : ℕ) : ℚ :=
  roundHalfEven (scaled num den (gridExponent num den)).1
    (scaled num den (gridExponent num den)).2 * 2 ^ gridExponent num den

section

variable {num den : ℕ} {q : ℚ}

theorem point_le_nearest {k : ℕ} (h : k * 2 ^ gridExponent num den ≤ (num / den : ℚ)) :
    k * 2 ^ gridExponent num den ≤ nearest num den := by
  have hk : k ≤ roundHalfEven _ _ := le_roundHalfEven <| by
    rwa [scaled_div num den (gridExponent num den), le_div_iff₀ (by positivity)]
  rw [nearest]
  gcongr

theorem le_nearest (hnum : num ≠ 0) (hden : den ≠ 0) (hq : IsValue q) (h : q ≤ num / den) :
    q ≤ nearest num den := by
  rcases isPoint_or_lt hnum hden hq with ⟨k, rfl⟩ | ⟨hlt, hle⟩
  · exact point_le_nearest h
  · exact hlt.le.trans (point_le_nearest (k := 2 ^ 52) (by exact_mod_cast hle))

theorem nearest_le (hnum : num ≠ 0) (hden : den ≠ 0) (hq : IsValue q) (h : num / den ≤ q) :
    nearest num den ≤ q := by
  rcases isPoint_or_lt hnum hden hq with ⟨k, rfl⟩ | ⟨hlt, hle⟩
  · have hk : roundHalfEven _ _ ≤ k := roundHalfEven_le (scaled_snd_ne_zero hden _) <| by
      rwa [scaled_div num den (gridExponent num den), div_le_iff₀ (by positivity)]
    rw [nearest]
    gcongr
  · exact absurd (hle.trans h) (not_le.mpr hlt)

/-- A fraction becomes its nearest point, or infinite where that point is too large. -/
theorem exists_ofRatio_eq (negative : Bool) (hnum : num ≠ 0) (hden : den ≠ 0) :
    ∃ (m : ℕ) (e : ℤ), m * 2 ^ e = nearest num den ∧ (971 < e → 2 ^ (1024 : ℤ) ≤ nearest num den) ∧
      ofRatio negative num den = if 971 < e then infinity negative else finite negative m e := by
  have hspec := gridExponent_spec hnum hden
  have hpoint : 2 ^ 52 * 2 ^ gridExponent num den ≤ (num / den : ℚ) →
      2 ^ 52 * 2 ^ gridExponent num den ≤ nearest num den := fun h ↦ by
    exact_mod_cast point_le_nearest (k := 2 ^ 52) (by exact_mod_cast h)
  simp only [ofRatio, if_neg hnum]
  rw [nearest] at hpoint ⊢
  generalize gridExponent num den = g at hspec hpoint ⊢
  generalize roundHalfEven _ _ = m at hpoint ⊢
  by_cases hcarry : m = significandLimit
  · subst hcarry
    have hlimit : (significandLimit : ℚ) * 2 ^ g = 2 ^ (53 + g) := by
      rw [zpow_add₀ two_ne_zero, significandLimit]
      norm_num
    refine ⟨leastNormal, g + 1, ?_, fun hlarge ↦ ?_, by rw [if_pos rfl]⟩
    · rw [zpow_add₀ two_ne_zero, leastNormal, significandLimit]
      push_cast
      ring
    · rw [hlimit]
      exact zpow_le_zpow_right₀ one_le_two (by omega)
  · refine ⟨m, g, rfl, fun hlarge ↦ ?_, by rw [if_neg hcarry]⟩
    refine le_trans ?_ (hpoint (by exact_mod_cast hspec.resolve_left (by omega)))
    rw [← zpow_natCast, ← zpow_add₀ two_ne_zero]
    exact zpow_le_zpow_right₀ one_le_two (by omega)

/-- A fraction that reaches a value is not rounded below it. -/
theorem atLeast_ofRatio (negative : Bool) (hden : den ≠ 0) (hq : IsValue q) (h : q ≤ num / den) :
    (ofRatio negative num den).AtLeast negative q := by
  by_cases hnum : num = 0
  · rw [hnum, Nat.cast_zero, zero_div] at h
    rw [ofRatio, if_pos hnum]
    exact ⟨rfl, by simpa using h⟩
  · obtain ⟨m, e, hme, -, hround⟩ := exists_ofRatio_eq negative hnum hden
    rw [hround]
    split_ifs
    · rfl
    · exact ⟨rfl, hme ▸ le_nearest hnum hden hq h⟩

/-- A fraction that does not exceed a value is not rounded above it. -/
theorem atMost_ofRatio (negative : Bool) (hden : den ≠ 0) (hq : IsValue q) (h : num / den ≤ q) :
    (ofRatio negative num den).AtMost negative q := by
  by_cases hnum : num = 0
  · rw [ofRatio, if_pos hnum]
    exact ⟨rfl, by simpa using hq.nonneg⟩
  · obtain ⟨m, e, hme, hoverflow, hround⟩ := exists_ofRatio_eq negative hnum hden
    have hnearest := nearest_le hnum hden hq h
    rw [hround]
    split_ifs with hlarge
    · exact absurd (hnearest.trans_lt hq.lt_zpow) (not_lt.mpr (hoverflow hlarge))
    · exact ⟨rfl, hme ▸ hnearest⟩

theorem atLeast_ofRatio_one (negative : Bool) (hq : IsValue q) (h : q ≤ num) :
    (ofRatio negative num 1).AtLeast negative q :=
  atLeast_ofRatio negative one_ne_zero hq (by rwa [Nat.cast_one, div_one])

theorem atMost_ofRatio_one (negative : Bool) (hq : IsValue q) (h : num ≤ q) :
    (ofRatio negative num 1).AtMost negative q :=
  atMost_ofRatio negative one_ne_zero hq (by rwa [Nat.cast_one, div_one])

/-! ## Products and quotients -/

theorem exists_ofScaled_eq (negative : Bool) (num den : ℕ) (e : ℤ) (hden : den ≠ 0) :
    ∃ n d : ℕ, d ≠ 0 ∧ (n / d : ℚ) = num / den * 2 ^ e ∧
      ofScaled negative num den e = ofRatio negative n d :=
  ⟨(scaled num den (-e)).1, (scaled num den (-e)).2, scaled_snd_ne_zero hden _,
    by rw [scaled_div, zpow_neg, div_inv_eq_mul], rfl⟩

theorem atLeast_ofScaled (negative : Bool) {e : ℤ} (hden : den ≠ 0) (hq : IsValue q)
    (h : q ≤ num / den * 2 ^ e) : (ofScaled negative num den e).AtLeast negative q := by
  obtain ⟨n, d, hd, hvalue, hscaled⟩ := exists_ofScaled_eq negative num den e hden
  rw [hscaled]
  exact atLeast_ofRatio negative hd hq (h.trans_eq hvalue.symm)

theorem atMost_ofScaled (negative : Bool) {e : ℤ} (hden : den ≠ 0) (hq : IsValue q)
    (h : num / den * 2 ^ e ≤ q) : (ofScaled negative num den e).AtMost negative q := by
  obtain ⟨n, d, hd, hvalue, hscaled⟩ := exists_ofScaled_eq negative num den e hden
  rw [hscaled]
  exact atMost_ofRatio negative hd hq (hvalue.trans_le h)

end

section

variable {v w : Double} {s t : Bool} {a b q : ℚ}

theorem AtLeast.mul (hv : v.AtLeast s a) (hw : w.AtLeast t b) (ha : 0 < a) (hb : 0 < b)
    (hq : IsValue q) (h : q ≤ a * b) : (v * w).AtLeast (s != t) q := by
  have hne {m : ℕ} {e : ℤ} {c : ℚ} (hc : 0 < c) (h : c ≤ m * 2 ^ e) : m ≠ 0 := by
    rintro rfl
    rw [Nat.cast_zero, zero_mul] at h
    exact absurd h (not_le.mpr hc)
  change (Double.mul v w).AtLeast _ _
  match v, w with
  | infinity _, infinity _ =>
    obtain rfl := hv
    obtain rfl := hw
    rfl
  | infinity _, finite _ n f =>
    obtain rfl := hv
    obtain ⟨rfl, hn⟩ := hw
    rw [Double.mul, if_neg (hne hb hn)]
    rfl
  | finite _ m e, infinity _ =>
    obtain ⟨rfl, hm⟩ := hv
    obtain rfl := hw
    rw [Double.mul, if_neg (hne ha hm)]
    rfl
  | finite _ m e, finite _ n f =>
    obtain ⟨rfl, hm⟩ := hv
    obtain ⟨rfl, hn⟩ := hw
    rw [Double.mul]
    refine atLeast_ofScaled _ one_ne_zero hq ?_
    calc q ≤ a * b := h
      _ ≤ m * 2 ^ e * (n * 2 ^ f) := by gcongr
      _ = (m * n : ℕ) / (1 : ℕ) * 2 ^ (e + f) := by
        rw [zpow_add₀ two_ne_zero]
        push_cast
        ring

theorem AtMost.mul (hv : v.AtMost s a) (hw : w.AtMost t b) (ha : 0 ≤ a) (hq : IsValue q)
    (h : a * b ≤ q) : (v * w).AtMost (s != t) q := by
  change (Double.mul v w).AtMost _ _
  match v, w with
  | finite _ m e, finite _ n f =>
    obtain ⟨rfl, hm⟩ := hv
    obtain ⟨rfl, hn⟩ := hw
    rw [Double.mul]
    refine atMost_ofScaled _ one_ne_zero hq ?_
    calc ((m * n : ℕ) : ℚ) / (1 : ℕ) * 2 ^ (e + f) = m * 2 ^ e * (n * 2 ^ f) := by
          rw [zpow_add₀ two_ne_zero]
          push_cast
          ring
      _ ≤ a * b := by gcongr
      _ ≤ q := h

theorem AtLeast.div (hv : v.AtLeast s a) (hw : w.AtMost t b) (ha : 0 < a) (hq : IsValue q)
    (h : q * b ≤ a) : (v / w).AtLeast (s != t) q := by
  change (Double.div v w).AtLeast _ _
  match v, w with
  | infinity _, finite _ n f =>
    obtain rfl := hv
    obtain ⟨rfl, -⟩ := hw
    rfl
  | finite _ m e, finite _ n f =>
    obtain ⟨rfl, hm⟩ := hv
    obtain ⟨rfl, hn⟩ := hw
    rw [Double.div]
    split_ifs with hn0 hm0
    · rw [hm0, Nat.cast_zero, zero_mul] at hm
      exact absurd hm (not_le.mpr ha)
    · rfl
    · have hpos : (0 : ℚ) < n := by exact_mod_cast Nat.pos_of_ne_zero hn0
      refine atLeast_ofScaled _ hn0 hq ?_
      rw [zpow_sub₀ two_ne_zero, div_mul_div_comm, le_div_iff₀ (by positivity)]
      calc q * (n * 2 ^ f) ≤ q * b := mul_le_mul_of_nonneg_left hn hq.nonneg
        _ ≤ a := h
        _ ≤ m * 2 ^ e := hm

theorem AtMost.div (hv : v.AtMost s a) (hw : w.AtLeast t b) (hb : 0 < b) (hq : IsValue q)
    (h : a ≤ q * b) : (v / w).AtMost (s != t) q := by
  change (Double.div v w).AtMost _ _
  match v, w with
  | finite _ m e, infinity _ =>
    obtain ⟨rfl, -⟩ := hv
    obtain rfl := hw
    exact ⟨rfl, by simpa using hq.nonneg⟩
  | finite _ m e, finite _ n f =>
    obtain ⟨rfl, hm⟩ := hv
    obtain ⟨rfl, hn⟩ := hw
    have hn0 : n ≠ 0 := by
      rintro rfl
      rw [Nat.cast_zero, zero_mul] at hn
      exact absurd hn (not_le.mpr hb)
    have hpos : (0 : ℚ) < n := by exact_mod_cast Nat.pos_of_ne_zero hn0
    rw [Double.div, if_neg hn0]
    refine atMost_ofScaled _ hn0 hq ?_
    rw [zpow_sub₀ two_ne_zero, div_mul_div_comm, div_le_iff₀ (by positivity)]
    calc (m : ℚ) * 2 ^ e ≤ a := hm
      _ ≤ q * b := h
      _ ≤ q * (n * 2 ^ f) := mul_le_mul_of_nonneg_left hn hq.nonneg

theorem AtMost.isFinite (h : v.AtMost s q) : v.isFinite = true := by
  match v with
  | finite _ _ _ => rfl

theorem AtLeast.neg (h : v.AtLeast s q) : v.neg.AtLeast (!s) q := by
  match v with
  | infinity _ =>
    obtain rfl := h
    rfl
  | finite _ m e => exact ⟨congrArg not h.1, h.2⟩

/-! ## Signs -/

@[simp] theorem isFinite_neg (v : Double) : v.neg.isFinite = v.isFinite := by
  cases v <;> rfl

theorem HasSign.exists_eq_finite (h : v.HasSign s) (hfinite : v.isFinite = true) :
    ∃ m e, v = finite s m e := by
  match v with
  | finite _ m e =>
    obtain rfl := h
    exact ⟨m, e, rfl⟩

theorem hasSign_ofRatio (negative : Bool) (num den : ℕ) :
    (ofRatio negative num den).HasSign negative := by
  rw [ofRatio]
  dsimp only
  split_ifs <;> rfl

theorem HasSign.mul (hv : v.HasSign s) (hw : w.HasSign t) : (v * w).HasSign (s != t) := by
  change (Double.mul v w).HasSign _
  match v, w with
  | nan, _ | infinity _, nan | finite _ _ _, nan => trivial
  | infinity _, infinity _ =>
    obtain rfl := hv
    obtain rfl := hw
    rfl
  | infinity _, finite _ _ _ | finite _ _ _, infinity _ =>
    obtain rfl := hv
    obtain rfl := hw
    rw [Double.mul]
    split_ifs <;> trivial
  | finite _ _ _, finite _ _ _ =>
    obtain rfl := hv
    obtain rfl := hw
    exact hasSign_ofRatio ..

theorem HasSign.div (hv : v.HasSign s) (hw : w.HasSign t) : (v / w).HasSign (s != t) := by
  change (Double.div v w).HasSign _
  match v, w with
  | nan, _ | infinity _, nan | finite _ _ _, nan | infinity _, infinity _ => trivial
  | infinity _, finite _ _ _ | finite _ _ _, infinity _ =>
    obtain rfl := hv
    obtain rfl := hw
    rfl
  | finite _ _ _, finite _ _ _ =>
    obtain rfl := hv
    obtain rfl := hw
    rw [Double.div]
    split_ifs <;> first | trivial | exact hasSign_ofRatio ..

end

end FirewallExporter.Double
