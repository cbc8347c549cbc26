import FirewallExporter.Proofs.Literals

/-!
# Floating-point literals in texts

`WritesDouble` is the grammar of the literals together with their values: an optional sign, then a
name for infinity or not-a-number, or digits with at most one point among them and an exponent
behind them. Reading a literal decides this grammar (`readDouble_eq_ok_iff`), so a text writes at
most one value.

Literals are made of few characters (`isLiteralChar`). None of them is white space or belongs to a
unit, which is what makes a measurement with a unit unambiguous.
-/

namespace FirewallExporter

open Text

/-! ## The grammar -/

/-- An exponent and its value. It may be missing. -/
inductive WritesExponent : List Char → ℤ → Prop
  | missing : WritesExponent [] 0
  | digits {e : Char} {cs : List Char} {n : ℤ} :
      e = 'e' ∨ e = 'E' → WritesInteger cs n → WritesExponent (e :: cs) n

/-- A number in digits, at least one of them, on either side of the point if there is one. -/
inductive WritesDecimal (negative : Bool) : List Char → Double → Prop
  | whole {ds es : List Char} {n : ℤ} :
      (∀ d ∈ ds, d.isDigit = true) → ds ≠ [] → WritesExponent es n →
      WritesDecimal negative (ds ++ es) (.ofDecimal negative (digitsValue ds) n)
  | point {ds fs es : List Char} {n : ℤ} :
      (∀ d ∈ ds ++ fs, d.isDigit = true) → ds ++ fs ≠ [] → WritesExponent es n →
      WritesDecimal negative (ds ++ '.' :: (fs ++ es))
        (.ofDecimal negative (digitsValue (ds ++ fs)) (n - fs.length))

/-- A literal without its sign. The names are in either case. -/
inductive WritesUnsigned (negative : Bool) : List Char → Double → Prop
  | infinity {cs : List Char} :
      cs.map Char.toLower = ['i', 'n', 'f'] ∨
        cs.map Char.toLower = ['i', 'n', 'f', 'i', 'n', 'i', 't', 'y'] →
      WritesUnsigned negative cs (.infinity negative)
  | nan {cs : List Char} : cs.map Char.toLower = ['n', 'a', 'n'] → WritesUnsigned negative cs .nan
  | decimal {cs : List Char} {v : Double} :
      WritesDecimal negative cs v → WritesUnsigned negative cs v

/-- A literal and its value. -/
inductive WritesDouble : List Char → Double → Prop
  | plain {cs : List Char} {v : Double} : WritesUnsigned false cs v → WritesDouble cs v
  | plus {cs : List Char} {v : Double} : WritesUnsigned false cs v → WritesDouble ('+' :: cs) v
  | minus {cs : List Char} {v : Double} : WritesUnsigned true cs v → WritesDouble ('-' :: cs) v

variable {negative : Bool} {cs : List Char} {v : Double} {n : ℤ}

/-! ## Exponents -/

theorem ne_of_isDigit {c d : Char} (hc : c.isDigit = true) (hd : d.isDigit = false) : c ≠ d := by
  rintro rfl
  exact Bool.false_ne_true (hd.symm.trans hc)

theorem writesExponent_of_readExponent? (h : readExponent? cs = some n) : WritesExponent cs n := by
  unfold readExponent? at h
  split at h
  · obtain rfl := Option.some.inj h
    exact .missing
  · next e cs =>
    split_ifs at h with he
    split at h
    next negative ds hsigned =>
    obtain ⟨sign, rfl, hsign⟩ : ∃ sign, cs = sign ++ ds ∧
        ((sign = [] ∨ sign = ['+']) ∧ negative = false ∨ sign = ['-'] ∧ negative = true) := by
      split at hsigned
      all_goals obtain ⟨rfl, rfl⟩ := Prod.mk.inj hsigned
      · exact ⟨['-'], rfl, .inr ⟨rfl, rfl⟩⟩
      · exact ⟨['+'], rfl, .inl ⟨.inr rfl, rfl⟩⟩
      · exact ⟨[], rfl, .inl ⟨.inl rfl, rfl⟩⟩
    obtain ⟨hds, h⟩ := Option.ite_none_right_eq_some.mp h
    obtain rfl := Option.some.inj h
    refine .digits he ⟨sign, ds, rfl, hds.1, List.all_eq_true.mp hds.2, ?_⟩
    rcases hsign with ⟨hsign, rfl⟩ | ⟨rfl, rfl⟩
    · exact .inl ⟨hsign, rfl⟩
    · exact .inr ⟨rfl, rfl⟩

theorem WritesExponent.readExponent? (h : WritesExponent cs n) : readExponent? cs = some n := by
  cases h with
  | missing => rfl
  | @digits e cs n he hinteger =>
    obtain ⟨sign, ds, rfl, hne, hdigits, hsign⟩ := hinteger
    have hds : ds ≠ [] ∧ ds.all Char.isDigit = true := ⟨hne, List.all_eq_true.mpr hdigits⟩
    obtain ⟨d, ds, rfl⟩ := List.exists_cons_of_ne_nil hne
    have hd {c : Char} (hc : c.isDigit = false) : d ≠ c :=
      ne_of_isDigit (hdigits d List.mem_cons_self) hc
    unfold FirewallExporter.readExponent?
    dsimp only
    rw [if_pos he]
    rcases hsign with ⟨rfl | rfl, rfl⟩ | ⟨rfl, rfl⟩
    · rw [List.nil_append]
      split
      · next heq => exact absurd (List.cons.inj heq).1 (hd rfl)
      · next heq => exact absurd (List.cons.inj heq).1 (hd rfl)
      · exact if_pos hds
    · exact if_pos hds
    · exact if_pos hds

/-- What stands behind the digits of a decimal does not go on with them. -/
theorem WritesExponent.head (h : WritesExponent cs n) :
    ∀ c ∈ cs.head?, c.isDigit = false ∧ c ≠ '.' := by
  cases h with
  | missing => exact nofun
  | digits he =>
    rintro c ⟨⟩
    rcases he with rfl | rfl <;> decide

/-! ## Decimals -/

/-- Every text is some digits and then something else. -/
theorem exists_digits (cs : List Char) : ∃ ds rest, cs = ds ++ rest ∧
    (∀ d ∈ ds, d.isDigit = true) ∧ ∀ c ∈ rest.head?, c.isDigit = false := by
  refine ⟨_, _, List.takeWhile_append_dropWhile.symm, fun _ ↦ List.mem_takeWhile_imp, ?_⟩
  intro c hc
  have hstop := List.head?_dropWhile_not Char.isDigit cs
  rwa [Option.mem_def.mp hc] at hstop

theorem readDecimal?_whole {ds es : List Char} (hds : ∀ d ∈ ds, d.isDigit = true)
    (hes : ∀ c ∈ es.head?, c.isDigit = false ∧ c ≠ '.') :
    readDecimal? negative (ds ++ es) =
      if ds = [] then none else (readExponent? es).map (.ofDecimal negative (digitsValue ds)) := by
  rw [readDecimal?, Json.spanDigits_append hds fun c hc ↦ (hes c hc).1]
  dsimp only
  split
  · exact absurd rfl (hes '.' rfl).2
  · simp only [and_true, List.append_nil, List.length_nil, Nat.cast_zero, sub_zero]

theorem readDecimal?_point {ds fs es : List Char} (hds : ∀ d ∈ ds, d.isDigit = true)
    (hfs : ∀ d ∈ fs, d.isDigit = true) (hes : ∀ c ∈ es.head?, c.isDigit = false) :
    readDecimal? negative (ds ++ '.' :: (fs ++ es)) =
      if ds ++ fs = [] then none
      else (readExponent? es).map fun e ↦
        .ofDecimal negative (digitsValue (ds ++ fs)) (e - fs.length) := by
  rw [readDecimal?, Json.spanDigits_append hds (by rintro c ⟨⟩; rfl)]
  dsimp only
  split
  · next rest heq =>
    obtain rfl := (List.cons.inj heq).2
    rw [Json.spanDigits_append hfs hes]
    simp only [List.append_eq_nil_iff]
  · next h => exact absurd rfl (h _)

theorem writesDecimal_of_readDecimal? (h : readDecimal? negative cs = some v) :
    WritesDecimal negative cs v := by
  obtain ⟨ds, rest, rfl, hds, hrest⟩ := exists_digits cs
  by_cases hpoint : ∃ tail, rest = '.' :: tail
  · obtain ⟨tail, rfl⟩ := hpoint
    obtain ⟨fs, es, rfl, hfs, hes⟩ := exists_digits tail
    rw [readDecimal?_point hds hfs hes] at h
    split_ifs at h with hne
    obtain ⟨n, hexponent, rfl⟩ := Option.map_eq_some_iff.mp h
    exact .point (List.forall_mem_append.mpr ⟨hds, hfs⟩) hne
      (writesExponent_of_readExponent? hexponent)
  · rw [readDecimal?_whole hds] at h
    · split_ifs at h with hne
      obtain ⟨n, hexponent, rfl⟩ := Option.map_eq_some_iff.mp h
      exact .whole hds hne (writesExponent_of_readExponent? hexponent)
    · intro c hc
      refine ⟨hrest c hc, ?_⟩
      rintro rfl
      exact hpoint ⟨rest.tail, (List.cons_head?_tail hc).symm⟩

theorem WritesDecimal.readDecimal? (h : WritesDecimal negative cs v) :
    readDecimal? negative cs = some v := by
  cases h with
  | whole hds hne hes => rw [readDecimal?_whole hds hes.head, if_neg hne, hes.readExponent?]; rfl
  | point hdigits hne hes =>
    obtain ⟨hds, hfs⟩ := List.forall_mem_append.mp hdigits
    rw [readDecimal?_point hds hfs fun c hc ↦ (hes.head c hc).1, if_neg hne, hes.readExponent?]
    rfl

theorem readDecimal?_eq_some_iff :
    readDecimal? negative cs = some v ↔ WritesDecimal negative cs v :=
  ⟨writesDecimal_of_readDecimal?, WritesDecimal.readDecimal?⟩

/-- A decimal starts with a digit or the point. -/
theorem WritesDecimal.head (h : WritesDecimal negative cs v) :
    ∃ c cs', cs = c :: cs' ∧ (c.isDigit = true ∨ c = '.') := by
  cases h with
  | @whole ds es n hds hne =>
    obtain ⟨d, ds, rfl⟩ := List.exists_cons_of_ne_nil hne
    exact ⟨d, ds ++ es, rfl, .inl (hds d List.mem_cons_self)⟩
  | @point ds fs es n hdigits =>
    cases ds with
    | nil => exact ⟨'.', fs ++ es, rfl, .inr rfl⟩
    | cons d ds => exact ⟨d, _, rfl, .inl (hdigits d List.mem_cons_self)⟩

theorem WritesExponent.isTokenChar (h : WritesExponent cs n) :
    ∀ c ∈ cs, Json.isTokenChar c = true := by
  cases h with
  | missing => exact List.forall_mem_nil _
  | digits he hinteger =>
    refine List.forall_mem_cons.mpr ⟨?_, hinteger.isTokenChar⟩
    rcases he with rfl | rfl <;> rfl

theorem WritesDecimal.isTokenChar (h : WritesDecimal negative cs v) :
    ∀ c ∈ cs, Json.isTokenChar c = true := by
  cases h with
  | whole hds _ hes =>
    exact List.forall_mem_append.mpr
      ⟨fun d hd ↦ Json.isTokenChar_of_isDigit (hds d hd), hes.isTokenChar⟩
  | point hdigits _ hes =>
    obtain ⟨hds, hfs⟩ := List.forall_mem_append.mp hdigits
    refine List.forall_mem_append.mpr ⟨fun d hd ↦ Json.isTokenChar_of_isDigit (hds d hd), ?_⟩
    refine List.forall_mem_cons.mpr ⟨rfl, List.forall_mem_append.mpr ⟨?_, hes.isTokenChar⟩⟩
    exact fun d hd ↦ Json.isTokenChar_of_isDigit (hfs d hd)

/-! ## Literals -/

theorem isAlpha_of_isDigit {c : Char} (h : c.isDigit = true) : c.isAlpha = false := by
  grind [Char.isDigit, Char.isAlpha, Char.isUpper, Char.isLower]

/-- No decimal is a name. -/
theorem WritesDecimal.map_toLower_ne (h : WritesDecimal negative cs v) {name : List Char}
    (hname : ∀ c ∈ name.head?, c.isAlpha = true) : cs.map Char.toLower ≠ name := by
  rintro rfl
  obtain ⟨c, cs', rfl, hc⟩ := h.head
  have hlower := hname c.toLower rfl
  rw [Char.isAlpha_toLower_eq_isAlpha] at hlower
  rcases hc with hdigit | rfl
  · exact Bool.false_ne_true ((isAlpha_of_isDigit hdigit).symm.trans hlower)
  · nomatch hlower

theorem readUnsigned?_eq_some_iff :
    readUnsigned? negative cs = some v ↔ WritesUnsigned negative cs v := by
  constructor
  · intro h
    rw [readUnsigned?] at h
    split_ifs at h with hinfinity hnan
    · obtain rfl := Option.some.inj h
      exact .infinity hinfinity
    · obtain rfl := Option.some.inj h
      exact .nan hnan
    · exact .decimal (readDecimal?_eq_some_iff.mp h)
  · intro h
    cases h with
    | infinity hname => exact if_pos hname
    | nan hname =>
      rw [readUnsigned?, hname]
      rfl
    | decimal hdecimal =>
      have hinf : cs.map Char.toLower ≠ ['i', 'n', 'f'] :=
        hdecimal.map_toLower_ne (by rintro c ⟨⟩; rfl)
      rw [readUnsigned?, if_neg, if_neg, hdecimal.readDecimal?]
      · exact hdecimal.map_toLower_ne (by rintro c ⟨⟩; rfl)
      · exact not_or.mpr ⟨hinf, hdecimal.map_toLower_ne (by rintro c ⟨⟩; rfl)⟩

/-- A literal without its sign starts with a letter, a digit or the point. -/
theorem WritesUnsigned.head (h : WritesUnsigned negative cs v) :
    ∃ c cs', cs = c :: cs' ∧ (c.isAlpha = true ∨ c.isDigit = true ∨ c = '.') := by
  have hletter {d : Char} {name : List Char} (hd : d.isAlpha = true)
      (hname : cs.map Char.toLower = d :: name) : ∃ c cs', cs = c :: cs' ∧ c.isAlpha = true := by
    obtain ⟨c, cs', rfl, rfl, -⟩ := List.map_eq_cons_iff.mp hname
    exact ⟨c, cs', rfl, Char.isAlpha_toLower_eq_isAlpha c ▸ hd⟩
  cases h with
  | infinity hname =>
    obtain ⟨c, cs', rfl, hc⟩ := hname.elim (hletter rfl) (hletter rfl)
    exact ⟨c, cs', rfl, .inl hc⟩
  | nan hname =>
    obtain ⟨c, cs', rfl, hc⟩ := hletter rfl hname
    exact ⟨c, cs', rfl, .inl hc⟩
  | decimal h =>
    obtain ⟨c, cs', rfl, hc⟩ := h.head
    exact ⟨c, cs', rfl, .inr hc⟩

theorem readDouble_cons_eq_ok_iff {c : Char} : readDouble (c :: cs) = .ok v ↔
    (if c = '-' then readUnsigned? true cs else if c = '+' then readUnsigned? false cs
      else readUnsigned? false (c :: cs)) = some v := by
  rw [readDouble]
  split
  · next w hvalue => rw [hvalue, Except.ok.injEq, Option.some.injEq]
  · next hvalue =>
    rw [hvalue]
    exact iff_of_false nofun nofun

/-- **Reading a literal decides the grammar.** -/
theorem readDouble_eq_ok_iff : readDouble cs = .ok v ↔ WritesDouble cs v := by
  constructor
  · intro h
    cases cs with
    | nil => nomatch h
    | cons c cs =>
      rw [readDouble_cons_eq_ok_iff] at h
      split_ifs at h with hminus hplus
      · rw [hminus]
        exact .minus (readUnsigned?_eq_some_iff.mp h)
      · rw [hplus]
        exact .plus (readUnsigned?_eq_some_iff.mp h)
      · exact .plain (readUnsigned?_eq_some_iff.mp h)
  · intro h
    cases h with
    | plain h =>
      obtain ⟨c, cs', rfl, hc⟩ := h.head
      rw [readDouble_cons_eq_ok_iff, if_neg, if_neg, readUnsigned?_eq_some_iff]
      · exact h
      · rintro rfl
        exact absurd hc (by decide)
      · rintro rfl
        exact absurd hc (by decide)
    | plus h => exact readDouble_cons_eq_ok_iff.mpr (readUnsigned?_eq_some_iff.mpr h)
    | minus h => exact readDouble_cons_eq_ok_iff.mpr (readUnsigned?_eq_some_iff.mpr h)

theorem toOption_readDouble_eq_some_iff :
    (readDouble cs).toOption = some v ↔ WritesDouble cs v := by
  rw [← readDouble_eq_ok_iff]
  cases readDouble cs <;> simp [Except.toOption]

/-! ## Their characters -/

/-- The characters of a literal. -/
def isLiteralChar (c : Char) : Bool :=
  Json.isTokenChar c || ['a', 'f', 'i', 'n', 't', 'y'].contains c.toLower

theorem isBlank_of_isAlpha {c : Char} (h : c.isAlpha = true) : isBlank c = false := by
  have hc : 0x41 ≤ c.toNat ∧ c.toNat ≤ 0x7A := by
    grind [Char.isAlpha, Char.isUpper, Char.isLower, Char.toNat, UInt32.le_iff_toNat_le]
  rw [isBlank]
  simp only [Bool.or_eq_false_iff, Bool.and_eq_false_iff, decide_eq_false_iff_not,
    beq_eq_false_iff_ne]
  omega

theorem isBlank_of_isLiteralChar {c : Char} (h : isLiteralChar c = true) : isBlank c = false := by
  rcases (Bool.or_eq_true ..).mp h with htoken | hname
  · exact Json.isBlank_of_isTokenChar htoken
  · refine isBlank_of_isAlpha ?_
    have hletters : ['a', 'f', 'i', 'n', 't', 'y'].all Char.isAlpha = true := rfl
    rw [← Char.isAlpha_toLower_eq_isAlpha]
    exact List.all_eq_true.mp hletters _ (List.contains_iff_mem.mp hname)

theorem isLiteralChar_of_map_toLower {name : List Char} (hname : cs.map Char.toLower = name)
    (h : name.all ['a', 'f', 'i', 'n', 't', 'y'].contains = true) :
    ∀ c ∈ cs, isLiteralChar c = true := by
  intro c hc
  rw [isLiteralChar, List.all_eq_true.mp h _ (hname ▸ List.mem_map_of_mem hc), Bool.or_true]

theorem WritesUnsigned.isLiteralChar (h : WritesUnsigned negative cs v) :
    ∀ c ∈ cs, isLiteralChar c = true := by
  cases h with
  | infinity hname =>
    rcases hname with hname | hname
    · exact isLiteralChar_of_map_toLower hname rfl
    · exact isLiteralChar_of_map_toLower hname rfl
  | nan hname => exact isLiteralChar_of_map_toLower hname rfl
  | decimal h =>
    intro c hc
    rw [FirewallExporter.isLiteralChar, h.isTokenChar c hc, Bool.true_or]

theorem WritesDouble.isLiteralChar (h : WritesDouble cs v) :
    ∀ c ∈ cs, isLiteralChar c = true := by
  cases h with
  | plain h => exact h.isLiteralChar
  | plus h => exact List.forall_mem_cons.mpr ⟨rfl, h.isLiteralChar⟩
  | minus h => exact List.forall_mem_cons.mpr ⟨rfl, h.isLiteralChar⟩

theorem WritesDouble.isBlank (h : WritesDouble cs v) : ∀ c ∈ cs, isBlank c = false :=
  fun c hc ↦ isBlank_of_isLiteralChar (h.isLiteralChar c hc)

end FirewallExporter
