import FirewallExporter.Proofs.Literals
import FirewallExporter.Proofs.Magnitude

/-!
# Plain numbers and the values they are read as

A number token is read into a significand that holds as many digits as fit in 64 bits, and a power
of ten. Here the digits of a plain number are followed on that way: the significand and the power
stay large together, so a number beyond the 64-bit integers stays beyond them
(`Json.Numeral.atLeast_double`).
-/

namespace FirewallExporter

theorem digitsOnto_eq (m : ℕ) (ds : List Char) :
    digitsOnto m ds = m * 10 ^ ds.length + digitsValue ds := by
  induction ds generalizing m with
  | nil => simp [digitsOnto, digitsValue]
  | cons d ds ih =>
    have hcons (acc : ℕ) : digitsOnto acc (d :: ds) =
      digitsOnto (acc * 10 + (d.toNat - '0'.toNat)) ds := rfl
    rw [← digitsOnto_zero, hcons, hcons, ih, ih (0 * 10 + _), List.length_cons, pow_succ]
    ring

theorem toNat_sub_le_nine {d : Char} (hd : d.isDigit = true) : d.toNat - '0'.toNat ≤ 9 := by
  have hc : d.toNat = d.val.toNat := rfl
  have h0 : '0'.val.toNat = 0x30 ∧ '9'.val.toNat = 0x39 ∧ '0'.toNat = 0x30 := ⟨rfl, rfl, rfl⟩
  simp only [Char.isDigit, Bool.and_eq_true, decide_eq_true_eq, UInt32.le_iff_toNat_le,
    ge_iff_le] at hd
  omega

theorem digitsValue_lt {ds : List Char} (hds : ∀ d ∈ ds, d.isDigit = true) :
    digitsValue ds < 10 ^ ds.length := by
  induction ds with
  | nil => simp [digitsValue]
  | cons d ds ih =>
    obtain ⟨hd, hds⟩ := List.forall_mem_cons.mp hds
    have hcons : digitsValue (d :: ds) = digitsOnto (0 * 10 + (d.toNat - '0'.toNat)) ds := rfl
    rw [hcons, digitsOnto_eq, List.length_cons, pow_succ]
    have := toNat_sub_le_nine hd
    have := ih hds
    nlinarith

namespace Json.Numeral

/-- Digits are taken as long as they fit, and the next one would not have fitted. -/
theorem takeDigits_eq {acc m : ℕ} {ds excess : List Char} (hacc : acc ≤ maxNat64)
    (h : takeDigits acc ds = (m, excess)) :
    m ≤ maxNat64 ∧ digitsOnto acc ds = digitsOnto m excess ∧ excess <:+ ds ∧
      (excess = [] ∨ ∃ d rest, excess = d :: rest ∧
        maxNat64 < m * 10 + (d.toNat - '0'.toNat)) := by
  induction ds generalizing acc with
  | nil =>
    obtain ⟨rfl, rfl⟩ := Prod.mk.inj h
    exact ⟨hacc, rfl, List.suffix_rfl, .inl rfl⟩
  | cons d ds ih =>
    rw [takeDigits] at h
    split_ifs at h with hfits
    · obtain ⟨hm, hvalue, hsuffix, hexcess⟩ := ih hfits h
      exact ⟨hm, hvalue, hsuffix.trans (List.suffix_cons d ds), hexcess⟩
    · obtain ⟨rfl, rfl⟩ := Prod.mk.inj h
      exact ⟨hacc, rfl, List.suffix_rfl, .inr ⟨d, ds, rfl, not_le.mp hfits⟩⟩

variable {n : Numeral}

/-! ## Plain numbers -/

/-- What a plain number is as a significand and a power of ten. -/
theorem scientific_of_isPlain (hn : n.IsPlain) : n.scientific =
    ((takeDigits 0 n.whole).1, ((takeDigits 0 n.whole).2.length : ℤ)) := by
  obtain ⟨hfraction, hexponent⟩ := hn
  simp only [scientific, hfraction, exponentValue, hexponent, Option.getD_none, takeDigits,
    List.length_nil]
  simp

/-- A plain number has no power of ten to divide by. -/
theorem double_of_isPlain (hn : n.IsPlain) : n.double =
    (let (m, excess) := takeDigits 0 n.whole
    let magnitude : Double :=
      if m = 0 then .ofNat m else if (308 : ℤ) < excess.length then .infinity false
      else .ofNat m * power excess.length
    if n.negative then magnitude.neg else magnitude) := by
  rw [double, scientific_of_isPlain hn]
  dsimp only
  rw [if_pos (Int.natCast_nonneg _), Int.toNat_natCast]

/-- The significand of a number beyond the 64-bit integers and its power of ten are large
together. -/
theorem exists_pow_le {whole : List Char} (hdigits : ∀ d ∈ whole, d.isDigit = true)
    (hlarge : 2 ^ 63 ≤ digitsValue whole) : ∃ j k, j + k = 63 ∧
      2 ^ j ≤ (takeDigits 0 whole).1 ∧ 2 ^ k ≤ 10 ^ (takeDigits 0 whole).2.length := by
  obtain ⟨-, hvalue, hsuffix, hexcess | ⟨d, rest, hexcess, hbeyond⟩⟩ :=
    takeDigits_eq (Nat.zero_le _) (Prod.eta (takeDigits 0 whole)).symm
  · rw [hexcess] at hvalue
    refine ⟨63, 0, rfl, ?_, Nat.one_le_pow _ _ (by decide)⟩
    rwa [← digitsOnto_zero, hvalue] at hlarge
  · refine ⟨60, 3, rfl, ?_, ?_⟩
    · have hnine := toNat_sub_le_nine (hdigits d (hsuffix.mem (hexcess ▸ List.mem_cons_self)))
      rw [maxNat64] at hbeyond
      omega
    · rw [hexcess, List.length_cons, pow_succ]
      have := Nat.one_le_pow rest.length 10 (by decide)
      omega

/-- A plain number beyond the 64-bit integers stays beyond them as a floating-point value. -/
theorem atLeast_double (hn : n.IsPlain) (hdigits : ∀ d ∈ n.whole, d.isDigit = true)
    (hlarge : 2 ^ 63 ≤ digitsValue n.whole) : n.double.AtLeast n.negative (2 ^ 63) := by
  obtain ⟨j, k, hjk, hm, hpower⟩ := exists_pow_le hdigits hlarge
  have hproduct : (Double.ofNat (takeDigits 0 n.whole).1 *
      power (takeDigits 0 n.whole).2.length).AtLeast false (2 ^ 63) := by
    have hfirst : (Double.ofNat (takeDigits 0 n.whole).1).AtLeast false (2 ^ j) :=
      Double.atLeast_ofRatio_one _ (Double.isValue_two_pow (by omega)) (by exact_mod_cast hm)
    have hsecond : (power (takeDigits 0 n.whole).2.length).AtLeast false (2 ^ k) :=
      Double.atLeast_ofRatio_one _ (Double.isValue_two_pow (by omega)) (by exact_mod_cast hpower)
    refine hfirst.mul hsecond (by positivity) (by positivity)
      (Double.isValue_two_pow (by decide)) ?_
    rw [← pow_add, hjk]
  have hne : (takeDigits 0 n.whole).1 ≠ 0 := by
    have : 0 < 2 ^ j := by positivity
    omega
  rw [double_of_isPlain hn]
  dsimp only
  rw [if_neg hne]
  have hmagnitude : (if (308 : ℤ) < (takeDigits 0 n.whole).2.length then .infinity false
      else .ofNat (takeDigits 0 n.whole).1 *
        power (takeDigits 0 n.whole).2.length : Double).AtLeast false (2 ^ 63) := by
    split_ifs
    · rfl
    · exact hproduct
  cases n.negative with
  | false => exact hmagnitude
  | true => exact hmagnitude.neg

/-- Zero has no sign left as a number. -/
theorem value_double_of_eq_zero (hn : n.IsPlain) (hzero : digitsValue n.whole = 0) :
    n.double.value = 0 := by
  have hm : (takeDigits 0 n.whole).1 = 0 := by
    obtain ⟨-, hvalue, -⟩ := takeDigits_eq (Nat.zero_le _) (Prod.eta (takeDigits 0 n.whole)).symm
    have hle := le_digitsOnto (takeDigits 0 n.whole).1 (takeDigits 0 n.whole).2
    rw [← hvalue, digitsOnto_zero, hzero] at hle
    exact Nat.le_zero.mp hle
  rw [double_of_isPlain hn]
  dsimp only
  rw [if_pos hm, hm]
  cases n.negative <;> simp [Double.ofNat, Double.ofRatio, Double.zero, Double.neg, Double.value]

theorem integer?_of_isPlain (hn : n.IsPlain) : n.integer? =
    if n.negative = true ∧ digitsValue n.whole = 0 then none else some n.written := by
  obtain ⟨hfraction, hexponent⟩ := hn
  rw [integer?, hfraction, hexponent, written]
  cases n.negative <;> simp

theorem integer?_of_not_isPlain (hn : ¬n.IsPlain) : n.integer? = none := by
  rw [integer?]
  split
  · next hfraction hexponent => exact absurd ⟨hfraction, hexponent⟩ hn
  · rfl

/-- A plain number is the integer that it writes, held within the 64-bit integers. -/
theorem clamp64_towardZero_value (hn : n.IsPlain) (hdigits : ∀ d ∈ n.whole, d.isDigit = true)
    {x : Number} (hx : n.number? = some x) :
    clamp64 (towardZero x.value) = clamp64 n.written := by
  rw [number?, integer?_of_isPlain hn] at hx
  by_cases hzero : n.negative = true ∧ digitsValue n.whole = 0
  · rw [if_pos hzero] at hx
    obtain ⟨-, hx⟩ := Option.ite_none_right_eq_some.mp hx
    obtain rfl := Option.some.inj hx
    rw [Number.value, value_double_of_eq_zero hn hzero.2, written, if_pos hzero.1, hzero.2]
    rfl
  · rw [if_neg hzero] at hx
    by_cases hfits : fits64 n.written = true
    · rw [Option.filter_some, if_pos hfits] at hx
      obtain rfl := Option.some.inj hx
      rw [Number.value, towardZero_intCast]
    · rw [Option.filter_some, if_neg hfits] at hx
      obtain ⟨hfinite, hx⟩ := Option.ite_none_right_eq_some.mp hx
      obtain rfl := Option.some.inj hx
      rw [fits64, Bool.and_eq_true, decide_eq_true_eq, decide_eq_true_eq, written, minInt64,
        maxNat64] at hfits
      have hlarge : 2 ^ 63 ≤ digitsValue n.whole := by
        split_ifs at hfits <;> omega
      rw [Number.value, ← Double.truncate_eq hfinite,
        (atLeast_double hn hdigits hlarge).truncate_eq, written]
      simp only [clamp64, minInt64, maxInt64]
      split_ifs <;> omega

end Json.Numeral

end FirewallExporter
