import FirewallExporter.Area.Ipsec
import FirewallExporter.Proofs.Health

/-!
# The same number as a number and as a text

A time and a health status may come as a number or as a text with the number in it. A number is cut
toward zero and held within the 64-bit integers; a text is read as an integer and counts for nothing
when it is none. So the two agree on integers within the range, and they part where the number has
something to be cut.
-/

namespace FirewallExporter

open Json

/-! ## Times -/

namespace Ipsec

variable {n : Numeral} {x : Number} {t : List Char}

theorem timeOf_number (hx : n.number? = some x) :
    timeOf (.number x) = clamp64 (towardZero x.value) := by
  rw [timeOf, Number.cut_eq (Numeral.valid_of_number? hx)]

theorem timeOf_string (ht : Token n t) : timeOf (.string (String.ofList t)) =
    if n.IsPlain ∧ isInt64 n.written = true then n.written else 0 := by
  rw [timeOf]
  cases hparsed : parseInt (String.ofList t) with
  | ok m =>
    obtain ⟨hn, rfl, hrange⟩ := ht.parseInt_eq_ok_iff.mp hparsed
    rw [if_pos ⟨hn, hrange⟩]
  | error fault =>
    rw [if_neg]
    rintro ⟨hn, hrange⟩
    nomatch hparsed.symm.trans (ht.parseInt_eq_ok_iff.mpr ⟨hn, rfl, hrange⟩)

theorem towardZero_eq_zero_iff (q : ℚ) : towardZero q = 0 ↔ -1 < q ∧ q < 1 := by
  rw [towardZero]
  split_ifs with hq
  · rw [Int.floor_eq_zero_iff, Set.mem_Ico]
    constructor
    · exact fun h ↦ ⟨by linarith, h.2⟩
    · exact fun h ↦ ⟨hq, h.2⟩
  · rw [Int.ceil_eq_zero_iff, Set.mem_Ioc]
    constructor
    · exact fun h ↦ ⟨h.1, by linarith⟩
    · exact fun h ↦ ⟨h.1, by linarith⟩

/-- What becomes of a time that is written as a number and as a text. -/
structure TimeLaw (n : Numeral) (x : Number) (text : String) : Prop where
  number_eq : timeOf (.number x) = clamp64 (towardZero x.value)
  number_eq_of_isPlain : n.IsPlain → timeOf (.number x) = clamp64 n.written
  text_eq : timeOf (.string text) =
    if n.IsPlain ∧ isInt64 n.written = true then n.written else 0
  agree_iff : timeOf (.number x) = timeOf (.string text) ↔
    if n.IsPlain then isInt64 n.written = true else -1 < x.value ∧ x.value < 1

theorem timeLaw (ht : Token n t) (hx : n.number? = some x) : TimeLaw n x (String.ofList t) := by
  have hplain (hn : n.IsPlain) : timeOf (.number x) = clamp64 n.written := by
    rw [timeOf_number hx, Numeral.clamp64_towardZero_value hn ht.isDigit_whole hx]
  refine ⟨timeOf_number hx, hplain, timeOf_string ht, ?_⟩
  rw [timeOf_string ht]
  by_cases hn : n.IsPlain
  · rw [if_pos hn, hplain hn]
    by_cases hrange : isInt64 n.written = true
    · simp [hn, hrange, clamp64_of_isInt64 hrange]
    · rw [if_neg fun h ↦ hrange h.2]
      have hne : clamp64 n.written ≠ 0 := by
        rw [isInt64, Bool.and_eq_true, decide_eq_true_eq, decide_eq_true_eq] at hrange
        simp only [clamp64, minInt64, maxInt64] at hrange ⊢
        omega
      exact iff_of_false hne hrange
  · rw [if_neg hn, if_neg fun h ↦ hn h.1, timeOf_number hx, ← towardZero_eq_zero_iff]
    simp only [clamp64, minInt64, maxInt64]
    omega

/-- The times of a record are made of the values that stand at these places. -/
def TimesAt {α : Type} (shape : Shape α) (times : List (String × (α → ℤ))) : Prop :=
  ∀ depth d a, shape.decode depth d = some a → ∀ time ∈ times,
    ∃ v, d.ReadsAt .free v [(shape.fieldNames, time.1)] depth ∧ time.2 a = timeOf v

theorem timesAt_tunnel : TimesAt tunnelShape [("install-time", Tunnel.installTime)] := by
  intro depth d a h
  obtain ⟨members, hmembers, vs, hvs, rfl⟩ := Shape.decode_record_eq_some_iff.mp h
  simp only [Fields.decode_cons_eq_some_iff] at hvs
  obtain ⟨-, -, -, -, hinstall, -⟩ := hvs
  exact List.forall_mem_singleton.mpr ⟨_, Document.readsAt_of_field? hmembers hinstall, rfl⟩

theorem timesAt_child : TimesAt childShape [("install-time", Child.installTime),
    ("rekey-time", Child.rekeyTime), ("life-time", Child.lifeTime)] := by
  intro depth d a h
  obtain ⟨members, hmembers, vs, hvs, rfl⟩ := Shape.decode_record_eq_some_iff.mp h
  simp only [Fields.decode_cons_eq_some_iff] at hvs
  obtain ⟨-, -, -, -, hinstall, hrekey, hlife, -⟩ := hvs
  simp only [List.forall_mem_cons]
  exact ⟨⟨_, Document.readsAt_of_field? hmembers hinstall, rfl⟩,
    ⟨_, Document.readsAt_of_field? hmembers hrekey, rfl⟩,
    ⟨_, Document.readsAt_of_field? hmembers hlife, rfl⟩, List.forall_mem_nil _⟩

end Ipsec

/-! ## Health -/

namespace Health

variable {n : Numeral} {x : Number} {t : List Char}

/-- What becomes of a health status that is written as a number and as a text. -/
structure StatusLaw (n : Numeral) (x : Number) (text : String) : Prop where
  agree : n.IsPlain ∨ ¬(2 ≤ x.value ∧ x.value < 3) → ∀ r : Reply,
    ({ r with systemMetadata := .number x } : Reply).status =
        ({ r with systemMetadata := .string text } : Reply).status ∧
      ({ r with firewallMetadata := .number x } : Reply).status =
        ({ r with firewallMetadata := .string text } : Reply).status
  part : ¬n.IsPlain → x.value = 2 → ∀ word, isOk word (.number x) = true ∧
    (isOk word (.string text) = true ↔ word = .string okWord)

theorem isOk_congr {number number' : Value}
    (h : numberOf? number = some okNumber ↔ numberOf? number' = some okNumber) (word : Value) :
    isOk word number = isOk word number' := by
  rw [Bool.eq_iff_iff, isOk_eq_true_iff, isOk_eq_true_iff, h]

theorem statusLaw (ht : Token n t) (hx : n.number? = some x) :
    StatusLaw n x (String.ofList t) := by
  have hnumber := numberOf?_number_eq_some_iff (Numeral.valid_of_number? hx)
  have htext : numberOf? (.string (String.ofList t)) = some okNumber ↔
      n.IsPlain ∧ n.written = okNumber := by
    have hrange : isInt64 okNumber = true := by decide
    rw [numberOf?_string_eq_some_iff, ht.parseInt_eq_ok_iff]
    simp only [hrange, and_true, eq_comm]
  constructor
  · intro hcut r
    have hcongr := isOk_congr (hnumber.trans (?_ : _ ↔ _) |>.trans htext.symm)
    · simp only [Reply.status, hcongr, and_self]
    · by_cases hn : n.IsPlain
      · rw [← clamp64_towardZero_eq_two_iff,
          Numeral.clamp64_towardZero_value hn ht.isDigit_whole hx]
        simp only [clamp64, minInt64, maxInt64, okNumber, hn, true_and]
        omega
      · exact iff_of_false (hcut.resolve_left hn) fun h ↦ hn h.1
  · intro hn hvalue word
    rw [isOk_eq_true_iff, isOk_eq_true_iff, hnumber, htext]
    refine ⟨.inr (by norm_num [hvalue]), ?_⟩
    simp [hn]

end Health

/-! ## The same number in two forms -/

/-- What a free-form field holds where this number stands in the document, and what it holds where
the text of the number stands there between quotes. -/
structure Json.TwoForms (n : Numeral) (x : Number) (t : List Char) : Prop where
  number : ∀ depth, (Document.number n).value? depth = some (.number x)
  text : ∀ depth rest, ∃ pieces, readString (t ++ '"' :: rest) = some (pieces, rest) ∧
    (Document.string pieces).value? depth = some (.string (String.ofList t))

/-- **A number and its text agree as times when it is an integer within the range, or when cutting
it leaves nothing.** As health statuses they agree unless the number has to be cut to be 2. -/
theorem Json.Token.forms_law :
    Ipsec.TimesAt Ipsec.tunnelShape [("install-time", Ipsec.Tunnel.installTime)] ∧
    Ipsec.TimesAt Ipsec.childShape [("install-time", Ipsec.Child.installTime),
      ("rekey-time", Ipsec.Child.rekeyTime), ("life-time", Ipsec.Child.lifeTime)] ∧
    ∀ t n x, readNumeral t = some (n, []) → n.number? = some x →
      TwoForms n x t ∧ Ipsec.TimeLaw n x (String.ofList t) ∧
        Health.StatusLaw n x (String.ofList t) := by
  refine ⟨Ipsec.timesAt_tunnel, Ipsec.timesAt_child, ?_⟩
  intro t n x ht hx
  have htoken := token_of_readNumeral ht
  refine ⟨⟨?_, ?_⟩, Ipsec.timeLaw htoken hx, Health.statusLaw htoken hx⟩
  · intro depth
    rw [Document.value?, hx, Option.map_some]
  · intro depth rest
    refine ⟨_, htoken.readString rest, ?_⟩
    rw [Document.value?, textOf?_map_char, Option.map_some]

/-- The number 2 with a point. -/
def Json.Numeral.twoPointZero : Numeral := ⟨false, ['2'], some ['0'], none⟩

theorem Json.Token.forms_law_twoPointZero : ∃ x,
    readNumeral ['2', '.', '0'] = some (.twoPointZero, []) ∧
    Numeral.twoPointZero.number? = some x ∧
    Ipsec.TimeLaw .twoPointZero x "2.0" ∧ Health.StatusLaw .twoPointZero x "2.0" := by
  have ht : readNumeral ['2', '.', '0'] = some (.twoPointZero, []) := by decide +kernel
  obtain ⟨x, hx⟩ : ∃ x, Numeral.twoPointZero.number? = some x :=
    Option.isSome_iff_exists.mp (by decide +kernel)
  obtain ⟨-, -, hlaw⟩ := forms_law
  obtain ⟨-, htime, hstatus⟩ := hlaw _ _ _ ht hx
  exact ⟨x, ht, hx, htime, hstatus⟩

/-- Two tunnels, with the same install time as a number and as a text. -/
def Ipsec.halves : String :=
  "\x7b\"rows\":[\x7b\"install-time\":1.5\x7d,\x7b\"install-time\":\"1.5\"\x7d]\x7d"

theorem Ipsec.installTime_halves :
    (tunnelsShape.read? (Utf8.encode halves)).map (List.map Tunnel.installTime) = some [1, 0] := by
  decide +kernel

end FirewallExporter
