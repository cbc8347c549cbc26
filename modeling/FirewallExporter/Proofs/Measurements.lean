import FirewallExporter.Proofs.DoubleTexts

/-!
# Measurements with a unit

A measurement is a literal, then its unit, with white space before, between and behind them. Its
value is that of the literal. Nothing else is read: `MeasurementLaw` says which texts are accepted
and names the ways in which a text can be off.

What makes a text unambiguous is that a unit shares no character with literals and white space
(`IsUnitText`). So the unit stands in an accepted text once, and what stands before it is the
literal.
-/

namespace FirewallExporter

open Text

theorem Text.stripSuffix?_eq_some_iff {suffix cs rest : List Char} :
    stripSuffix? suffix cs = some rest ↔ cs = rest ++ suffix := by
  rw [stripSuffix?, Option.ite_none_right_eq_some, List.isSuffixOf_iff_suffix]
  constructor
  · rintro ⟨hsuffix, h⟩
    obtain rfl := Option.some.inj h
    exact (List.suffix_iff_eq_append.mp hsuffix).symm
  · rintro rfl
    refine ⟨List.suffix_append rest suffix, ?_⟩
    rw [List.length_append, Nat.add_sub_cancel, List.take_left]

/-! ## Units -/

/-- A unit has characters, and none of them is white space or belongs to a literal. -/
structure IsUnitText (unit : List Char) : Prop where
  ne_nil : unit ≠ []
  apart : ∀ c ∈ unit, isBlank c = false ∧ isLiteralChar c = false

/-- A literal with white space around it. -/
def WritesAmong (cs : List Char) (v : Double) : Prop :=
  ∃ w number w', IsBlanks w ∧ IsBlanks w' ∧ cs = w ++ (number ++ w') ∧ WritesDouble number v

theorem writesAmong_iff {cs : List Char} {v : Double} :
    WritesAmong cs v ↔ (readDouble (trim cs)).toOption = some v := by
  rw [toOption_readDouble_eq_some_iff]
  exact (trim_iff_exists (p := (WritesDouble · v)) fun _ h ↦ h.isBlank).symm

section

variable {unit text : String} {cs w : List Char} {v : Double}

namespace IsUnitText

variable (h : IsUnitText unit.toList)

include h

/-- Trimming a text that ends with the unit takes white space from what stands before it. -/
theorem trim_append (cs : List Char) (hw : IsBlanks w) :
    trim (cs ++ (unit.toList ++ w)) = trimStart cs ++ unit.toList := by
  obtain ⟨w', hw', hcs⟩ := exists_trimStart cs
  have hlayout : cs ++ (unit.toList ++ w) = w' ++ ((trimStart cs ++ unit.toList) ++ w) := by
    rw [List.append_assoc, ← List.append_assoc w', ← hcs]
  rw [hlayout, Text.trim_append hw' hw]
  refine trim_eq_self_of_ends (fun c hc ↦ ?_) fun c hc ↦ ?_
  · rw [List.head?_append, Option.mem_def, Option.or_eq_some_iff] at hc
    rcases hc with hc | ⟨-, hc⟩
    · exact isBlank_of_mem_head?_trimStart c hc
    · exact (h.apart c (List.mem_of_mem_head? hc)).1
  · rw [List.getLast?_append_of_ne_nil _ h.ne_nil] at hc
    exact (h.apart c (List.mem_of_mem_getLast? hc)).1

/-- What is read is the number that stands before the unit. -/
theorem readWithUnit?_eq (hw : IsBlanks w) (htext : text.toList = cs ++ (unit.toList ++ w)) :
    readWithUnit? unit text = (readDouble (trim cs)).toOption := by
  rw [readWithUnit?, htext, h.trim_append cs hw, stripSuffix?_eq_some_iff.mpr rfl]
  rfl

theorem readWithUnit?_eq_some_iff : readWithUnit? unit text = some v ↔
    ∃ cs w, IsBlanks w ∧ text.toList = cs ++ (unit.toList ++ w) ∧ WritesAmong cs v := by
  constructor
  · intro hread
    obtain ⟨w, w', hw, hw', htext⟩ := exists_trim text.toList
    cases hstrip : stripSuffix? unit.toList (trim text.toList) with
    | none =>
      rw [readWithUnit?, hstrip] at hread
      nomatch hread
    | some number =>
      rw [stripSuffix?_eq_some_iff.mp hstrip, List.append_assoc, ← List.append_assoc w] at htext
      rw [h.readWithUnit?_eq hw' htext] at hread
      exact ⟨w ++ number, w', hw', htext, writesAmong_iff.mpr hread⟩
  · rintro ⟨cs, w, hw, htext, hcs⟩
    rwa [h.readWithUnit?_eq hw htext, ← writesAmong_iff]

theorem not_mem_of_isBlanks {c : Char} (hc : c ∈ unit.toList) (hw : IsBlanks w) : c ∉ w :=
  fun hcw ↦ Bool.false_ne_true ((h.apart c hc).1.symm.trans (hw c hcw))

theorem not_mem_of_writesAmong {c : Char} (hc : c ∈ unit.toList) (hcs : WritesAmong cs v) :
    c ∉ cs := by
  obtain ⟨w, number, w', hw, hw', rfl, hnumber⟩ := hcs
  refine List.not_mem_append (h.not_mem_of_isBlanks hc hw)
    (List.not_mem_append (fun hmem ↦ ?_) (h.not_mem_of_isBlanks hc hw'))
  exact Bool.false_ne_true ((h.apart c hc).2.symm.trans (hnumber.isLiteralChar c hmem))

/-- The unit stands in an accepted text once, so whatever stands behind it is white space. -/
theorem isBlanks_of_append (hcs : WritesAmong cs v) (hw : IsBlanks w) {before behind : List Char}
    (heq : cs ++ (unit.toList ++ w) = before ++ (unit.toList ++ behind)) : IsBlanks behind := by
  obtain ⟨u, us, hunit⟩ := List.exists_cons_of_ne_nil h.ne_nil
  have hu : u ∈ unit.toList := hunit ▸ List.mem_cons_self
  have hcs' := h.not_mem_of_writesAmong hu hcs
  -- Counting a character of the unit, as neither the number nor the white space has it.
  have hbefore : u ∉ before := by
    have hcount := congrArg (List.count u) heq
    rw [List.count_append, List.count_append, List.count_append, List.count_append,
      List.count_eq_zero.mpr hcs', List.count_eq_zero.mpr (h.not_mem_of_isBlanks hu hw)] at hcount
    exact List.count_eq_zero.mp (by omega)
  have hlength : cs.length = before.length := by
    have hindex := congrArg (List.idxOf u) heq
    rwa [List.idxOf_append_of_notMem hcs', List.idxOf_append_of_notMem hbefore, hunit,
      List.cons_append, List.cons_append, List.idxOf_cons_self, List.idxOf_cons_self] at hindex
  rwa [← List.append_cancel_left (List.append_inj heq hlength).2]

theorem readWithUnit?_eq_none {before behind : List Char} (hbehind : ¬IsBlanks behind) :
    readWithUnit? unit (String.ofList (before ++ (unit.toList ++ behind))) = none := by
  refine Option.eq_none_iff_forall_ne_some.mpr fun v hread ↦ hbehind ?_
  obtain ⟨cs, w, hw, heq, hcs⟩ := h.readWithUnit?_eq_some_iff.mp hread
  rw [String.toList_ofList] at heq
  exact h.isBlanks_of_append hcs hw heq.symm

end IsUnitText

end

theorem isUnitText_percent : IsUnitText "%".toList where
  ne_nil := List.cons_ne_nil '%' []
  apart := List.forall_mem_singleton.mpr ⟨rfl, rfl⟩

theorem isUnitText_milliseconds : IsUnitText "ms".toList where
  ne_nil := List.cons_ne_nil 'm' ['s']
  apart := List.forall_mem_cons.mpr ⟨⟨rfl, rfl⟩, List.forall_mem_singleton.mpr ⟨rfl, rfl⟩⟩

/-! ## Printed numbers -/

/-- A number of tenths in digits, one of them behind the point. -/
def tenths (k : ℕ) : List Char := Nat.toDigits 10 (k / 10) ++ '.' :: Nat.toDigits 10 (k % 10)

/-- The texts of numbers that are printed with one digit behind the point, with the numbers that
they show. -/
inductive Printed : List Char → Double → Prop
  | finite (k : ℕ) : Printed (tenths k) (.ofDecimal false k (-1))
  | negative (k : ℕ) : Printed ('-' :: tenths k) (.ofDecimal true k (-1))
  | infinity : Printed ['i', 'n', 'f'] (.infinity false)
  | negativeInfinity : Printed ['-', 'i', 'n', 'f'] (.infinity true)
  | nan : Printed ['n', 'a', 'n'] .nan

theorem writesDecimal_tenths (negative : Bool) (k : ℕ) :
    WritesDecimal negative (tenths k) (.ofDecimal negative k (-1)) := by
  have hlast : Nat.toDigits 10 (k % 10) = [(k % 10).digitChar] :=
    Nat.toDigits_of_lt_base (Nat.mod_lt k (by decide))
  have hvalue : digitsValue (Nat.toDigits 10 (k / 10) ++ Nat.toDigits 10 (k % 10)) = k := by
    rw [digitsValue_eq, Nat.ofDigitChars_append, Nat.ofDigitChars_eq_ofDigitChars_zero,
      ← digitsValue_eq, ← digitsValue_eq, digitsValue_toDigits, digitsValue_toDigits, hlast,
      List.length_singleton, pow_one, Nat.div_add_mod]
  have hdigits : ∀ d ∈ Nat.toDigits 10 (k / 10) ++ Nat.toDigits 10 (k % 10), d.isDigit = true :=
    List.forall_mem_append.mpr ⟨fun d ↦ isDigit_of_mem_toDigits, fun d ↦ isDigit_of_mem_toDigits⟩
  have hwrites : WritesDecimal negative _ _ := .point hdigits
    (List.append_ne_nil_of_left_ne_nil Nat.toDigits_ne_nil _) .missing
  rw [hvalue, hlast] at hwrites
  rw [tenths, hlast]
  exact hwrites

theorem Printed.writesDouble {cs : List Char} {v : Double} (h : Printed cs v) :
    WritesDouble cs v := by
  cases h with
  | finite k => exact .plain (.decimal (writesDecimal_tenths false k))
  | negative k => exact .minus (.decimal (writesDecimal_tenths true k))
  | infinity => exact .plain (.infinity (.inl rfl))
  | negativeInfinity => exact .minus (.infinity (.inl rfl))
  | nan => exact .plain (.nan rfl)

/-! ## The law -/

/-- What becomes of a text that should be a measurement. -/
structure MeasurementLaw (unit : String) : Prop where
  /-- It is read when it is a literal and the unit, with white space around them, and what is read
  is the value of the literal. -/
  accepted_iff : ∀ text v, readWithUnit? unit text = some v ↔
    ∃ w₁ number w₂ w₃, IsBlanks w₁ ∧ IsBlanks w₂ ∧ IsBlanks w₃ ∧
      text.toList = w₁ ++ number ++ w₂ ++ unit.toList ++ w₃ ∧ WritesDouble number v
  /-- The white space makes no difference, whatever stands before the unit. -/
  spaces : ∀ cs w₁ w₂ w₃, IsBlanks w₁ → IsBlanks w₂ → IsBlanks w₃ →
    readWithUnit? unit (String.ofList (w₁ ++ cs ++ w₂ ++ unit.toList ++ w₃)) =
      readWithUnit? unit (String.ofList (cs ++ unit.toList))
  /-- A text without the unit is not read. -/
  absent : ∀ text, ¬unit.toList <:+: text.toList → readWithUnit? unit text = none
  /-- A text with the unit in two places is not read. -/
  twice : ∀ before between behind, readWithUnit? unit
    (String.ofList (before ++ unit.toList ++ between ++ unit.toList ++ behind)) = none
  /-- A text that goes on behind the unit is not read. -/
  behind : ∀ before behind, ¬IsBlanks behind →
    readWithUnit? unit (String.ofList (before ++ unit.toList ++ behind)) = none
  /-- A text without a number before the unit is not read. -/
  remainder : ∀ cs w, IsBlanks w → (∀ v, ¬WritesDouble (trim cs) v) →
    readWithUnit? unit (String.ofList (cs ++ unit.toList ++ w)) = none
  /-- A number that is printed with one digit behind the point is read. -/
  printed : ∀ cs v, Printed cs v →
    readWithUnit? unit (String.ofList (cs ++ ' ' :: unit.toList)) = some v

theorem measurementLaw {unit : String} (h : IsUnitText unit.toList) : MeasurementLaw unit where
  accepted_iff text v := by
    rw [h.readWithUnit?_eq_some_iff]
    constructor
    · rintro ⟨_, w₃, hw₃, htext, w₁, number, w₂, hw₁, hw₂, rfl, hnumber⟩
      refine ⟨w₁, number, w₂, w₃, hw₁, hw₂, hw₃, ?_, hnumber⟩
      rw [htext]
      simp only [List.append_assoc]
    · rintro ⟨w₁, number, w₂, w₃, hw₁, hw₂, hw₃, htext, hnumber⟩
      refine ⟨w₁ ++ (number ++ w₂), w₃, hw₃, ?_, w₁, number, w₂, hw₁, hw₂, rfl, hnumber⟩
      rw [htext]
      simp only [List.append_assoc]
  spaces cs w₁ w₂ w₃ hw₁ hw₂ hw₃ := by
    have hspread : (String.ofList (w₁ ++ cs ++ w₂ ++ unit.toList ++ w₃)).toList =
        (w₁ ++ (cs ++ w₂)) ++ (unit.toList ++ w₃) := by
      rw [String.toList_ofList]
      simp only [List.append_assoc]
    have htight : (String.ofList (cs ++ unit.toList)).toList = cs ++ (unit.toList ++ []) := by
      rw [String.toList_ofList, List.append_nil]
    rw [h.readWithUnit?_eq hw₃ hspread, h.readWithUnit?_eq (List.forall_mem_nil _) htight,
      trim_append hw₁ hw₂]
  absent text htext := by
    refine Option.eq_none_iff_forall_ne_some.mpr fun v hread ↦ ?_
    obtain ⟨cs, w, -, heq, -⟩ := h.readWithUnit?_eq_some_iff.mp hread
    exact htext ⟨cs, w, by rw [heq, List.append_assoc]⟩
  twice before between behind := by
    simp only [List.append_assoc]
    refine h.readWithUnit?_eq_none fun hblanks ↦ ?_
    obtain ⟨u, us, hunit⟩ := List.exists_cons_of_ne_nil h.ne_nil
    have hu : u ∈ unit.toList := hunit ▸ List.mem_cons_self
    exact h.not_mem_of_isBlanks hu hblanks
      (List.mem_append_right between (List.mem_append_left behind hu))
  behind before behind hbehind := by
    rw [List.append_assoc]
    exact h.readWithUnit?_eq_none hbehind
  remainder cs w hw hcs := by
    have htext : (String.ofList (cs ++ unit.toList ++ w)).toList = cs ++ (unit.toList ++ w) := by
      rw [String.toList_ofList, List.append_assoc]
    rw [h.readWithUnit?_eq hw htext]
    exact Option.eq_none_iff_forall_ne_some.mpr fun v hread ↦
      hcs v (toOption_readDouble_eq_some_iff.mp hread)
  printed cs v hcs := by
    refine h.readWithUnit?_eq_some_iff.mpr ⟨cs ++ [' '], [], List.forall_mem_nil _, ?_, ?_⟩
    · rw [String.toList_ofList, List.append_nil, List.append_assoc, List.singleton_append]
    · exact ⟨[], cs, [' '], List.forall_mem_nil _, List.forall_mem_singleton.mpr rfl, rfl,
        hcs.writesDouble⟩

/-- **Measurements with a unit,** in percent and in milliseconds. -/
theorem measurementLaw_units : MeasurementLaw "%" ∧ MeasurementLaw "ms" :=
  ⟨measurementLaw isUnitText_percent, measurementLaw isUnitText_milliseconds⟩

example : readWithUnit? "%" "\t1e1%" = some (Double.ofNat 10) := by decide

end FirewallExporter
