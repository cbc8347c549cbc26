import FirewallExporter.Proofs.Decimals

/-!
# Numbers and digits

A number with a fraction or an exponent need not be read as the number that it writes. The digits
that do not fit are cut off, the rest is rounded, and the power of ten is rounded too. What is kept
is the side of a digit, 1 to 9: a number may be read as a digit that it only comes near, but never
as one beyond it (`Json.Numeral.keepsSide_of_number?`). So a number that is exactly a digit is read
as this digit, whatever its digits and its exponent are (`Json.Numeral.value_eq_digit`).

What is cut off leaves the number in its cell of a decimal grid, and a digit is a point of every
grid that could separate the two. After that the order is a matter of rounding alone.
-/

namespace FirewallExporter

namespace Json.Numeral

variable {n : Numeral} {t : List Char}

/-- The size of the number that a token writes. -/
def exactSize (n : Numeral) : ℚ :=
  digitsValue (n.whole ++ n.fraction.getD []) *
    10 ^ (n.exponentValue - ((n.fraction.getD []).length : ℤ))

/-- The number that a token writes. -/
def exactValue (n : Numeral) : ℚ := if n.negative then -n.exactSize else n.exactSize

theorem exactSize_nonneg (n : Numeral) : 0 ≤ n.exactSize := by
  rw [exactSize]
  positivity

/-! ## Digits that are cut off -/

/-- A number between two neighbours on the grid of the multiples of a power of ten. -/
def Cell (m : ℕ) (g : ℤ) (v : ℚ) : Prop := m * 10 ^ g ≤ v ∧ v < (m + 1) * 10 ^ g

theorem cell_of_lt {m r b : ℕ} (hr : r < 10 ^ b) (e : ℤ) :
    Cell m (e + b) ((m * 10 ^ b + r : ℕ) * 10 ^ e) := by
  have hr : (r : ℚ) < 10 ^ b := by exact_mod_cast hr
  have hpow : (10 : ℚ) ^ (e + b) = 10 ^ b * 10 ^ e := by
    rw [zpow_add₀ (by norm_num), zpow_natCast, mul_comm]
  rw [Cell, hpow, ← mul_assoc, ← mul_assoc]
  push_cast
  constructor
  · gcongr
    linarith [Nat.cast_nonneg (α := ℚ) r]
  · gcongr
    linarith

theorem cell_self (m : ℕ) (g : ℤ) : Cell m g (m * 10 ^ g) := by
  refine ⟨le_rfl, ?_⟩
  gcongr
  linarith

/-- Digits that are cut off do not lead out of the cell of the others. -/
theorem cell_digitsOnto {ds : List Char} (hds : ∀ d ∈ ds, d.isDigit = true) (m : ℕ) (e : ℤ) :
    Cell m (e + ds.length) (digitsOnto m ds * 10 ^ e) := by
  rw [digitsOnto_eq]
  exact cell_of_lt (digitsValue_lt hds) e

theorem cell_append_digit {d : ℕ} (hd : d ≤ 9) (m : ℕ) (g : ℤ) :
    Cell m g ((m * 10 + d : ℕ) * 10 ^ (g - 1)) := by
  simpa using cell_of_lt (b := 1) (m := m) (show d < 10 ^ 1 by omega) (g - 1)

/-- The greatest significand to which a further digit may be added, `⌊(2 ^ 64 - 1) / 10⌋`. -/
def fullSignificand : ℕ := 1844674407370955161

/-- A digit is a point of every grid that is fine enough for it. -/
theorem exists_digit_eq {c : ℕ} (hc : c < 10) {g : ℤ} (hg : g ≤ 0) :
    ∃ k : ℕ, (c : ℚ) = k * 10 ^ g ∧ k ≠ fullSignificand := by
  obtain ⟨j, rfl⟩ := Int.exists_eq_neg_ofNat hg
  refine ⟨c * 10 ^ j, ?_, ?_⟩
  · rw [Nat.cast_mul, Nat.cast_pow, Nat.cast_ofNat, zpow_neg, zpow_natCast, mul_assoc,
      mul_inv_cancel₀ (by positivity), mul_one]
  · rw [fullSignificand]
    cases j with
    | zero => omega
    | succ j =>
      rw [pow_succ, ← mul_assoc]
      omega

/-- On a coarse grid all cells but the first one are beyond the digits. -/
theorem Cell.digit_lt {m c : ℕ} {g : ℤ} {v : ℚ} (hv : Cell m g v) (hm : m ≠ 0) (hc : c < 10)
    (hg : 0 < g) : (c : ℚ) < v := by
  have hm : (1 : ℚ) ≤ m := by exact_mod_cast Nat.one_le_iff_ne_zero.mpr hm
  have hten : (10 : ℚ) ^ (1 : ℤ) ≤ 10 ^ g := zpow_le_zpow_right₀ (by norm_num) (by omega)
  rw [zpow_one] at hten
  have hc : (c : ℚ) < 10 := by exact_mod_cast hc
  have hpoint := hv.1
  nlinarith

section

variable {m c : ℕ} {g : ℤ} {v w : ℚ}

theorem Cell.le_of_point_lt {k : ℕ} (hw : Cell m g w) (h : k * 10 ^ g ≤ w) : k ≤ m := by
  have hlt := lt_of_mul_lt_mul_right (h.trans_lt hw.2) (by positivity)
  exact Nat.lt_succ_iff.mp (by exact_mod_cast hlt)

/-- Two numbers of a cell have reached the same digits. -/
theorem Cell.digit_le (hv : Cell m g v) (hw : Cell m g w) (hm : m ≠ 0) (hc : c < 10)
    (h : c ≤ v) : c ≤ w := by
  rcases le_or_gt g 0 with hg | hg
  · obtain ⟨k, hk, -⟩ := exists_digit_eq hc hg
    have hkm := hv.le_of_point_lt (hk ▸ h)
    rw [hk]
    refine le_trans ?_ hw.1
    gcongr
  · exact (hw.digit_lt hm hc hg).le

/-- Two numbers of a cell have exceeded the same digits, unless the second one is greater and a
digit is the start of the cell. -/
theorem Cell.le_digit (hv : Cell m g v) (hw : Cell m g w) (hm : m ≠ 0) (hc : c < 10)
    (hle : w ≤ v ∨ m = fullSignificand) (h : v ≤ c) : w ≤ c := by
  rcases le_or_gt g 0 with hg | hg
  · obtain ⟨k, hk, hfull⟩ := exists_digit_eq hc hg
    by_contra hlt
    rw [not_le] at hlt
    have hkm := hw.le_of_point_lt (hk ▸ hlt.le)
    have hmk : m ≤ k := by
      have hpoint := hv.1.trans h
      rw [hk] at hpoint
      exact_mod_cast le_of_mul_le_mul_right hpoint (by positivity)
    obtain rfl := le_antisymm hkm hmk
    have hwv := hle.resolve_right hfull
    exact absurd (hwv.trans h) (not_le.mpr hlt)
  · exact absurd h (not_le.mpr (hv.digit_lt hm hc hg))

end

theorem takeDigits_of_lt {m : ℕ} (hm : maxNat64 < m * 10) (ds : List Char) :
    takeDigits m ds = (m, ds) := by
  cases ds with
  | nil => rfl
  | cons d ds => rw [takeDigits, if_neg (by omega)]

/-- After a digit that does not fit, another one fits only if the significand is the greatest one
that leaves room for a digit. Then no third one does. -/
theorem takeDigits_of_beyond {m s d : ℕ} {ds dropped : List Char} (hd : d ≤ 9)
    (hbeyond : maxNat64 < m * 10 + d) (hds : ∀ d ∈ ds, d.isDigit = true)
    (h : takeDigits m ds = (s, dropped)) : (s = m ∧ dropped = ds) ∨
      m = fullSignificand ∧ ∃ d' ≤ 9, s = m * 10 + d' ∧ ds.length = dropped.length + 1 := by
  cases ds with
  | nil => exact .inl ⟨(Prod.mk.inj h).1.symm, (Prod.mk.inj h).2.symm⟩
  | cons d' ds =>
    have hd' := toNat_sub_le_nine (hds d' List.mem_cons_self)
    rw [takeDigits] at h
    split_ifs at h with hfits
    · rw [maxNat64] at hbeyond hfits
      rw [takeDigits_of_lt (by rw [maxNat64]; omega)] at h
      obtain ⟨rfl, rfl⟩ := Prod.mk.inj h
      exact .inr ⟨by rw [fullSignificand]; omega, _, hd', rfl, rfl⟩
    · exact .inl ⟨(Prod.mk.inj h).1.symm, (Prod.mk.inj h).2.symm⟩

/-- The significand and its power of ten share a decimal cell with the number. The significand is
the start of the cell, except that a digit of the fraction may have got into it after a digit
before the point did not. -/
theorem scientific_cell (ht : Token n t) {s : ℕ} {e : ℤ} (h : n.scientific = (s, e)) :
    s ≤ maxNat64 ∧ ((s = 0 ∧ n.exactSize = 0) ∨
      ∃ m g, m ≠ 0 ∧ Cell m g n.exactSize ∧ Cell m g (s * 10 ^ e) ∧
        (s * 10 ^ e ≤ n.exactSize ∨ m = fullSignificand)) := by
  have hfraction := ht.isDigit_fraction
  rw [exactSize]
  obtain ⟨fraction, hf⟩ : ∃ fraction, n.fraction.getD [] = fraction := ⟨_, rfl⟩
  obtain ⟨m, excess, hm⟩ : ∃ m excess, takeDigits 0 n.whole = (m, excess) := ⟨_, _, rfl⟩
  obtain ⟨m', dropped, hm'⟩ : ∃ m' dropped, takeDigits m fraction = (m', dropped) := ⟨_, _, rfl⟩
  rw [hf] at hfraction ⊢
  simp only [scientific, hf, hm, hm', Prod.mk.injEq] at h
  obtain ⟨rfl, rfl⟩ := h
  have happend : digitsValue (n.whole ++ fraction) = digitsOnto (digitsValue n.whole) fraction :=
    List.foldl_append
  obtain ⟨hmax, htaken, hsuffix, hfull⟩ := takeDigits_eq (Nat.zero_le _) hm
  obtain ⟨hmax', htaken', hsuffix', hfull'⟩ := takeDigits_eq hmax hm'
  have hlength := hsuffix'.length_le
  refine ⟨hmax', ?_⟩
  rw [digitsOnto_zero] at htaken
  have hdropped : ∀ d ∈ dropped, d.isDigit = true := fun d hd ↦ hfraction d (hsuffix'.mem hd)
  rcases hfull with rfl | ⟨d, rest, hexcess, hbeyond⟩
  · -- All digits before the point fit, so the significand is cut inside the fraction.
    have hvalue : digitsValue (n.whole ++ fraction) = digitsOnto m' dropped := by
      rw [happend, htaken, ← htaken']
      rfl
    have hexponent : n.exponentValue + ([] : List Char).length -
        ((fraction.length - dropped.length : ℕ) : ℤ) =
          n.exponentValue - fraction.length + dropped.length := by
      rw [List.length_nil]
      omega
    rw [hvalue, hexponent]
    by_cases hzero : m' = 0
    · have hnil : dropped = [] := by
        refine hfull'.resolve_right ?_
        rintro ⟨d, rest, rfl, hbeyond⟩
        have := toNat_sub_le_nine (hdropped d List.mem_cons_self)
        rw [maxNat64] at hbeyond
        omega
      rw [hzero, hnil]
      exact .inl ⟨rfl, by simp [digitsOnto]⟩
    · have hcell := cell_digitsOnto hdropped m' (n.exponentValue - fraction.length)
      exact .inr ⟨m', _, hzero, hcell, cell_self .., .inl hcell.1⟩
  · -- Some digit before the point does not fit.
    have hdigits : ∀ c ∈ excess ++ fraction, c.isDigit = true :=
      List.forall_mem_append.mpr ⟨fun c hc ↦ ht.isDigit_whole c (hsuffix.mem hc), hfraction⟩
    have hnine := toNat_sub_le_nine (hdigits d (by simp [hexcess]))
    have hne : m ≠ 0 := by
      rw [maxNat64] at hbeyond
      omega
    have hvalue : digitsValue (n.whole ++ fraction) = digitsOnto m (excess ++ fraction) := by
      rw [happend, htaken]
      exact List.foldl_append.symm
    have hgrid : n.exponentValue - fraction.length + (excess ++ fraction).length =
        n.exponentValue + excess.length := by
      rw [List.length_append]
      omega
    have hcell := cell_digitsOnto hdigits m (n.exponentValue - fraction.length)
    rw [hgrid] at hcell
    rw [hvalue]
    refine .inr ⟨m, _, hne, hcell, ?_⟩
    rcases takeDigits_of_beyond hnine hbeyond hfraction hm' with
      ⟨rfl, rfl⟩ | ⟨hfull, d', hd', rfl, hcount⟩
    · rw [Nat.sub_self, Nat.cast_zero, sub_zero]
      exact ⟨cell_self .., .inl hcell.1⟩
    · have hone : fraction.length - dropped.length = 1 := by omega
      rw [hone, Nat.cast_one]
      exact ⟨cell_append_digit hd' .., .inr hfull⟩

/-! ## The power of ten -/

/-- A significand with its power of ten, rounded. -/
def shifted (s : ℕ) (e : ℤ) : Double :=
  if s = 0 then .ofNat s
  else if 308 < e then .infinity false
  else if 0 ≤ e then .ofNat s * power e.toNat
  else if -308 ≤ e then .ofNat s / power e.natAbs
  else if -616 ≤ e then .ofNat s / power 308 / power (e.natAbs - 308)
  else .zero false

theorem double_eq (n : Numeral) : n.double = if n.negative
    then (shifted n.scientific.1 n.scientific.2).neg
    else shifted n.scientific.1 n.scientific.2 := rfl

section

variable {c s j : ℕ} {e : ℤ}

/-- A digit with up to twenty zeros is a value. -/
theorem isValue_digit_mul_pow (hc : c < 10) (hj : j ≤ 20) : Double.IsValue (c * 10 ^ j) := by
  have hsmall : c * 5 ^ j < 2 ^ 53 :=
    calc c * 5 ^ j ≤ 9 * 5 ^ 20 := Nat.mul_le_mul (by omega) (Nat.pow_le_pow_right (by decide) hj)
      _ < 2 ^ 53 := by decide
  have hsplit : (c * 10 ^ j : ℚ) = (c * 5 ^ j : ℕ) * 2 ^ j := by
    push_cast
    rw [mul_assoc, ← mul_pow]
    norm_num
  rw [hsplit]
  exact Double.isValue_mul_pow hsmall (by omega)

theorem isValue_digit (hc : c < 10) : Double.IsValue c := Double.isValue_natCast (by omega)

theorem atLeast_power (hj : j ≤ 20) {k : ℕ} (hjk : j ≤ k) :
    (power k).AtLeast false (10 ^ j) := by
  refine Double.atLeast_ofRatio_one _ ?_ ?_
  · simpa using isValue_digit_mul_pow (c := 1) (by decide) hj
  · rw [Nat.pow_eq, Nat.cast_pow, Nat.cast_ofNat]
    exact pow_le_pow_right₀ (by norm_num) hjk

theorem atMost_power (hj : j ≤ 20) : (power j).AtMost false (10 ^ j) := by
  refine Double.atMost_ofRatio_one _ ?_ (by simp)
  simpa using isValue_digit_mul_pow (c := 1) (by decide) hj

/-- A number that reaches a digit has few zeros to take away. -/
theorem natAbs_le_of_digit_le (hc : 0 < c) (hs : s ≤ maxNat64) (he : e < 0)
    (h : (c : ℚ) ≤ s * 10 ^ e) : e.natAbs ≤ 19 ∧ c * 10 ^ e.natAbs ≤ s := by
  obtain ⟨j, rfl⟩ := Int.exists_eq_neg_ofNat he.le
  rw [Int.natAbs_neg, Int.natAbs_natCast]
  rw [zpow_neg, zpow_natCast, ← div_eq_mul_inv, le_div_iff₀ (by positivity)] at h
  have hsize : c * 10 ^ j ≤ s := by exact_mod_cast h
  refine ⟨?_, hsize⟩
  by_contra hj
  have : 10 ^ 20 ≤ 10 ^ j := Nat.pow_le_pow_right (by decide) (by omega)
  rw [maxNat64] at hs
  nlinarith

theorem atLeast_shifted (hc : 0 < c) (hc' : c < 10) (hs : s ≤ maxNat64)
    (h : (c : ℚ) ≤ s * 10 ^ e) : (shifted s e).AtLeast false c := by
  have hpos : (0 : ℚ) < c := by exact_mod_cast hc
  have hs0 : s ≠ 0 := by
    rintro rfl
    rw [Nat.cast_zero, zero_mul] at h
    exact absurd h (not_le.mpr hpos)
  rw [shifted, if_neg hs0]
  split_ifs with hlarge hnonneg
  · rfl
  · obtain ⟨k, rfl⟩ := Int.eq_ofNat_of_zero_le hnonneg
    rw [Int.toNat_natCast]
    cases k with
    | zero =>
      have hfirst : (Double.ofNat s).AtLeast false c :=
        Double.atLeast_ofRatio_one _ (isValue_digit hc') (by simpa using h)
      exact hfirst.mul (atLeast_power (j := 0) (by decide) le_rfl) hpos (by norm_num)
        (isValue_digit hc') (by norm_num)
    | succ k =>
      -- The number is 10 or more, and that exceeds every digit.
      have hfirst : (Double.ofNat s).AtLeast false 1 :=
        Double.atLeast_ofRatio_one _ (by simpa using isValue_digit (c := 1) (by decide))
          (by exact_mod_cast Nat.one_le_iff_ne_zero.mpr hs0)
      refine hfirst.mul (atLeast_power (j := 1) (by decide) (by omega)) (by norm_num)
        (by norm_num) (isValue_digit hc') ?_
      have hc' : (c : ℚ) < 10 := by exact_mod_cast hc'
      linarith
  -- Of the three cases with a negative exponent only the first one is left.
  all_goals
    obtain ⟨hj, hsize⟩ := natAbs_le_of_digit_le hc hs (by omega) h
  · have hfirst : (Double.ofNat s).AtLeast false (c * 10 ^ e.natAbs) :=
      Double.atLeast_ofRatio_one _ (isValue_digit_mul_pow hc' (by omega))
        (by exact_mod_cast hsize)
    exact hfirst.div (atMost_power (by omega)) (by positivity) (isValue_digit hc') le_rfl
  · omega
  · omega

/-- A quotient by a large power of ten is less than every digit but 0. -/
theorem atMost_div_power (hc : 0 < c) (hc' : c < 10) (hs : s ≤ maxNat64) {k : ℕ} (hk : 20 ≤ k) :
    (Double.ofNat s / power k).AtMost false c := by
  have hpos : (1 : ℚ) ≤ c := by exact_mod_cast hc
  have hfirst : (Double.ofNat s).AtMost false (2 ^ 64) := by
    refine Double.atMost_ofRatio_one _ (Double.isValue_two_pow (by decide)) ?_
    rw [maxNat64] at hs
    have hs : s ≤ 2 ^ 64 := by omega
    exact_mod_cast hs
  refine hfirst.div (atLeast_power (j := 20) le_rfl hk) (by norm_num) (isValue_digit hc') ?_
  nlinarith

/-- A number that does not exceed a digit has no zeros to add. -/
theorem nonpos_of_le_digit (hc : c < 10) (hs : s ≠ 0) (h : s * 10 ^ e ≤ (c : ℚ)) : e ≤ 0 := by
  by_contra he
  exact absurd h (not_le.mpr ((cell_self s e).digit_lt hs hc (not_le.mp he)))

theorem atMost_shifted (hc : 0 < c) (hc' : c < 10) (hs : s ≤ maxNat64)
    (h : s * 10 ^ e ≤ (c : ℚ)) : (shifted s e).AtMost false c := by
  rw [shifted]
  split_ifs with hs0 hlarge hnonneg hsmall htiny
  · exact Double.atMost_ofRatio_one _ (isValue_digit hc') (by simp [hs0])
  · have := nonpos_of_le_digit hc' hs0 h
    omega
  · obtain rfl := le_antisymm (nonpos_of_le_digit hc' hs0 h) hnonneg
    have hfirst : (Double.ofNat s).AtMost false c :=
      Double.atMost_ofRatio_one _ (isValue_digit hc') (by simpa using h)
    exact hfirst.mul (atMost_power (j := 0) (by decide)) (Nat.cast_nonneg c) (isValue_digit hc')
      (by norm_num)
  · -- Up to the twentieth a power of ten is a value. A greater one leaves less than 1.
    rcases le_or_gt e.natAbs 20 with hj | hj
    · have hsize : (s : ℚ) ≤ c * 10 ^ e.natAbs := by
        obtain ⟨j, rfl⟩ := Int.exists_eq_neg_ofNat (not_le.mp hnonneg).le
        rw [zpow_neg, zpow_natCast, ← div_eq_mul_inv, div_le_iff₀ (by positivity)] at h
        rwa [Int.natAbs_neg, Int.natAbs_natCast]
      have hfirst : (Double.ofNat s).AtMost false (c * 10 ^ e.natAbs) :=
        Double.atMost_ofRatio_one _ (isValue_digit_mul_pow hc' hj) hsize
      exact hfirst.div (atLeast_power hj le_rfl) (by positivity) (isValue_digit hc') le_rfl
    · exact atMost_div_power hc hc' hs hj.le
  · exact (atMost_div_power hc hc' hs (by decide)).div (atLeast_power (j := 0) (by decide)
      (Nat.zero_le _)) (by norm_num) (isValue_digit hc') (by norm_num)
  · exact ⟨rfl, by simp⟩

theorem hasSign_shifted (s : ℕ) (e : ℤ) : (shifted s e).HasSign false := by
  have hofNat (m : ℕ) : (Double.ofNat m).HasSign false := Double.hasSign_ofRatio false m 1
  rw [shifted]
  split_ifs
  · exact hofNat s
  · rfl
  · exact (hofNat s).mul (hofNat _)
  · exact (hofNat s).div (hofNat _)
  · exact ((hofNat s).div (hofNat _)).div (hofNat _)
  · rfl

end

/-! ## Numbers as they are read -/

/-- The number is read on the same side of a bound as it is written, or as the bound itself. -/
def KeepsSide (n : Numeral) (x : Number) (bound : ℚ) : Prop :=
  (n.exactValue ≤ bound → x.value ≤ bound) ∧ (bound ≤ n.exactValue → bound ≤ x.value)

/-- A floating-point value keeps its side of a digit. -/
theorem shifted_keeps_side (ht : Token n t) {c : ℕ} (hc : 0 < c) (hc' : c < 10) :
    (n.exactSize ≤ c → (shifted n.scientific.1 n.scientific.2).AtMost false c) ∧
      (c ≤ n.exactSize → (shifted n.scientific.1 n.scientific.2).AtLeast false c) := by
  obtain ⟨hs, ⟨hzero, hsize⟩ | ⟨m, g, hm, hcell, hcell', hle⟩⟩ :=
    scientific_cell ht (Prod.eta n.scientific).symm
  · rw [hsize]
    constructor
    · intro _
      exact atMost_shifted hc hc' hs (by simp [hzero])
    · intro h
      exact absurd h (not_le.mpr (by exact_mod_cast hc))
  · constructor
    · intro h
      exact atMost_shifted hc hc' hs (hcell.le_digit hcell' hm hc' hle h)
    · intro h
      exact atLeast_shifted hc hc' hs (hcell.digit_le hcell' hm hc' h)

theorem exactValue_of_isPlain (hn : n.IsPlain) : n.exactValue = n.written := by
  rw [exactValue, exactSize, hn.1, exponentValue, hn.2, written]
  cases n.negative <;> simp

theorem value_of_integer? {i : ℤ} (h : n.integer? = some i) : n.exactValue = i := by
  by_cases hn : n.IsPlain
  · rw [integer?_of_isPlain hn] at h
    obtain ⟨-, h⟩ := Option.ite_none_left_eq_some.mp h
    rw [exactValue_of_isPlain hn, Option.some.inj h]
  · rw [integer?_of_not_isPlain hn] at h
    nomatch h

/-- **A number keeps its side of a digit when it is read.** -/
theorem keepsSide_of_number? (ht : Token n t) {x : Number} (hx : n.number? = some x) {c : ℕ}
    (hc : 0 < c) (hc' : c < 10) : n.KeepsSide x c := by
  rw [number?] at hx
  split at hx
  · next i hi =>
    obtain rfl := Option.some.inj hx
    rw [KeepsSide, Number.value, value_of_integer? (Option.filter_eq_some_iff.mp hi).1]
    exact ⟨id, id⟩
  · obtain ⟨hfinite, hx⟩ := Option.ite_none_right_eq_some.mp hx
    obtain rfl := Option.some.inj hx
    have hsides := shifted_keeps_side ht hc hc'
    have hfinite : (shifted n.scientific.1 n.scientific.2).isFinite = true := by
      rw [double_eq] at hfinite
      split_ifs at hfinite
      · rwa [Double.isFinite_neg] at hfinite
      · exact hfinite
    obtain ⟨m, e, hv⟩ := (hasSign_shifted ..).exists_eq_finite hfinite
    rw [hv] at hsides
    rw [KeepsSide, Number.value, double_eq, hv, exactValue]
    split_ifs
    · -- A negative number is on the lower side of every digit.
      have hpos : (0 : ℚ) < c := by exact_mod_cast hc
      have hwritten : -n.exactSize ≤ 0 := neg_nonpos.mpr n.exactSize_nonneg
      have hread : Double.value (.neg (.finite false m e)) ≤ 0 := by
        simp only [Double.neg, Double.value, Bool.not_false, if_true]
        exact neg_nonpos.mpr (by positivity)
      exact ⟨fun _ ↦ hread.trans hpos.le, fun h ↦ absurd (h.trans hwritten) (not_le.mpr hpos)⟩
    · exact ⟨fun h ↦ (hsides.1 h).2, fun h ↦ (hsides.2 h).2⟩

/-- **A number that is exactly a digit is read as this digit,** whatever its digits and its exponent
are. -/
theorem value_eq_digit (ht : Token n t) {c : ℕ} (hc : 0 < c) (hc' : c < 10)
    (h : n.exactValue = c) : ∃ x, n.number? = some x ∧ x.value = c := by
  have hpositive : n.negative = false ∧ n.exactSize = c := by
    have hnonneg := n.exactSize_nonneg
    have hpos : (0 : ℚ) < c := by exact_mod_cast hc
    rw [exactValue] at h
    cases hnegative : n.negative with
    | false => exact ⟨rfl, by simpa [hnegative] using h⟩
    | true =>
      rw [hnegative, if_pos rfl] at h
      linarith
  have hfinite : n.double.isFinite = true := by
    have hsize := (shifted_keeps_side ht hc hc').1 hpositive.2.le
    rw [double_eq, hpositive.1, if_neg Bool.false_ne_true]
    exact hsize.isFinite
  obtain ⟨x, hx⟩ : ∃ x, n.number? = some x := by
    rw [number?]
    split
    · exact ⟨_, rfl⟩
    · exact ⟨_, if_pos hfinite⟩
  obtain ⟨hle, hge⟩ := keepsSide_of_number? ht hx hc hc'
  exact ⟨x, hx, le_antisymm (hle h.le) (hge h.ge)⟩

end Json.Numeral

end FirewallExporter
