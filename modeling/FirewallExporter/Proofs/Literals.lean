import Mathlib
import FirewallExporter.Json.Reader
import FirewallExporter.Proofs.Blanks

/-!
# Whole numbers in texts and in number tokens

A text is read as an integer when it consists of an optional sign and digits, and is within the
64-bit range (`readInt_eq_ok_iff`). A JSON number token is read in parts, a sign, the digits before
the point, a fraction and an exponent (`readNumeral_eq_some`). So the text of a token is an integer
when the token has neither a fraction nor an exponent, and then it writes the same integer
(`WritesInteger.of_token`).
-/

namespace FirewallExporter

open Text

/-! ## Digits -/

theorem digitValue?_eq (c : Char) :
    digitValue? c = if c.isDigit = true then some (c.toNat - '0'.toNat) else none := by
  simp only [digitValue?, Char.isDigit, Char.le_def, Bool.and_eq_true, decide_eq_true_eq,
    ge_iff_le]

/-- The number that digits write after those of another number. -/
def digitsOnto (acc : ℕ) (cs : List Char) : ℕ :=
  cs.foldl (fun n c ↦ n * 10 + (c.toNat - '0'.toNat)) acc

theorem digitsOnto_zero (cs : List Char) : digitsOnto 0 cs = digitsValue cs := rfl

theorem le_digitsOnto (acc : ℕ) (cs : List Char) : acc ≤ digitsOnto acc cs := by
  induction cs generalizing acc with
  | nil => exact le_rfl
  | cons c cs ih => exact le_trans (by omega) (ih (acc * 10 + (c.toNat - '0'.toNat)))

theorem digitsValue_eq (ds : List Char) : digitsValue ds = Nat.ofDigitChars 10 ds 0 := by
  rw [Nat.ofDigitChars_eq_foldl, digitsValue]
  simp only [mul_comm]

@[simp] theorem digitsValue_toDigits (n : ℕ) : digitsValue (Nat.toDigits 10 n) = n := by
  rw [digitsValue_eq, Nat.ofDigitChars_ten_toDigits]

theorem isDigit_of_mem_toDigits {n : ℕ} {d : Char} (h : d ∈ Nat.toDigits 10 n) :
    d.isDigit = true :=
  Nat.isDigit_of_mem_toDigits (by decide) (by decide) h

theorem readDigits_eq_ok_iff {limit acc v : ℕ} {beyond : IntFault} {cs : List Char}
    (hacc : acc ≤ limit) : readDigits limit beyond acc cs = .ok v ↔
      (∀ c ∈ cs, c.isDigit = true) ∧ v = digitsOnto acc cs ∧ v ≤ limit := by
  induction cs generalizing acc with
  | nil =>
    rw [readDigits, Except.ok.injEq]
    constructor
    · rintro rfl
      exact ⟨List.forall_mem_nil _, rfl, hacc⟩
    · rintro ⟨-, rfl, -⟩
      rfl
  | cons c cs ih =>
    rw [readDigits, digitValue?_eq, List.forall_mem_cons]
    by_cases hc : c.isDigit = true
    · rw [if_pos hc]
      simp only [hc, true_and]
      split_ifs with hbeyond
      · constructor
        · exact nofun
        · rintro ⟨-, rfl, hv⟩
          exact absurd ((le_digitsOnto _ cs).trans hv) (not_le.mpr hbeyond)
      · exact ih (not_lt.mp hbeyond)
    · simp [hc]

/-! ## Integers -/

/-- An optional sign and one or more digits, with the integer that they write. -/
def WritesInteger (cs : List Char) (n : ℤ) : Prop :=
  ∃ sign ds, cs = sign ++ ds ∧ ds ≠ [] ∧ (∀ d ∈ ds, d.isDigit = true) ∧
    ((sign = [] ∨ sign = ['+']) ∧ n = digitsValue ds ∨ sign = ['-'] ∧ n = -(digitsValue ds : ℤ))

/-- Digits with a sign are read when the integer that they write is within the range. -/
theorem map_readDigits_eq_ok_iff {limit : ℕ} {beyond : IntFault} {signed : ℕ → ℤ}
    (hlimit : ∀ v, isInt64 (signed v) = true ↔ v ≤ limit) {ds : List Char} {n : ℤ} :
    (readDigits limit beyond 0 ds).map signed = .ok n ↔
      (∀ d ∈ ds, d.isDigit = true) ∧ n = signed (digitsValue ds) ∧ isInt64 n = true := by
  have hread (v : ℕ) : readDigits limit beyond 0 ds = .ok v ↔
      (∀ d ∈ ds, d.isDigit = true) ∧ v = digitsValue ds ∧ v ≤ limit :=
    readDigits_eq_ok_iff (Nat.zero_le limit)
  constructor
  · intro h
    match hparsed : readDigits limit beyond 0 ds, h with
    | .ok v, h =>
      obtain ⟨hdigits, rfl, hv⟩ := (hread v).mp hparsed
      obtain rfl := Except.ok.inj h
      exact ⟨hdigits, rfl, (hlimit _).mpr hv⟩
  · rintro ⟨hdigits, rfl, hrange⟩
    rw [(hread (digitsValue ds)).mpr ⟨hdigits, rfl, (hlimit _).mp hrange⟩]
    rfl

theorem isInt64_ofNat_iff (v : ℕ) : isInt64 (.ofNat v) = true ↔ v ≤ maxInt64.toNat := by
  rw [Int.ofNat_eq_natCast, isInt64, Bool.and_eq_true, decide_eq_true_eq, decide_eq_true_eq,
    minInt64, maxInt64]
  omega

theorem isInt64_neg_iff (v : ℕ) : isInt64 (-(v : ℤ)) = true ↔ v ≤ minInt64.natAbs := by
  rw [isInt64, Bool.and_eq_true, decide_eq_true_eq, decide_eq_true_eq, minInt64, maxInt64]
  omega

theorem readInt_minus (c : Char) (cs : List Char) : readInt ('-' :: c :: cs) =
    (readDigits minInt64.natAbs .tooSmall 0 (c :: cs)).map fun v : ℕ ↦ -(v : ℤ) := by
  rw [readInt]
  cases readDigits minInt64.natAbs .tooSmall 0 (c :: cs) <;> rfl

/-- A text is read as an integer when it writes one that is within the range. -/
theorem readInt_eq_ok_iff {cs : List Char} {n : ℤ} :
    readInt cs = .ok n ↔ WritesInteger cs n ∧ isInt64 n = true := by
  constructor
  · intro h
    fun_cases readInt cs with
    | case1 => nomatch h
    | case2 c cs =>
      rw [readInt, map_readDigits_eq_ok_iff isInt64_ofNat_iff] at h
      exact ⟨⟨['+'], c :: cs, rfl, List.cons_ne_nil c cs, h.1, .inl ⟨.inr rfl, h.2.1⟩⟩, h.2.2⟩
    | case3 c cs =>
      rw [readInt_minus, map_readDigits_eq_ok_iff isInt64_neg_iff] at h
      exact ⟨⟨['-'], c :: cs, rfl, List.cons_ne_nil c cs, h.1, .inr ⟨rfl, h.2.1⟩⟩, h.2.2⟩
    | case4 c cs hplus hminus =>
      rw [readInt, map_readDigits_eq_ok_iff isInt64_ofNat_iff] at h
      · exact ⟨⟨[], c :: cs, rfl, List.cons_ne_nil c cs, h.1, .inl ⟨.inl rfl, h.2.1⟩⟩, h.2.2⟩
      · exact hplus
      · exact hminus
  · rintro ⟨⟨sign, ds, rfl, hne, hdigits, hsign⟩, hrange⟩
    obtain ⟨d, ds, rfl⟩ := List.exists_cons_of_ne_nil hne
    rcases hsign with ⟨rfl | rfl, hn⟩ | ⟨rfl, hn⟩
    · have hd := hdigits d List.mem_cons_self
      rw [List.nil_append, readInt]
      · exact (map_readDigits_eq_ok_iff isInt64_ofNat_iff).mpr ⟨hdigits, hn, hrange⟩
      · rintro c cs rfl
        exact absurd hd (by decide)
      · rintro c cs rfl
        exact absurd hd (by decide)
    · rw [List.singleton_append, readInt]
      exact (map_readDigits_eq_ok_iff isInt64_ofNat_iff).mpr ⟨hdigits, hn, hrange⟩
    · rw [List.singleton_append, readInt_minus]
      exact (map_readDigits_eq_ok_iff isInt64_neg_iff).mpr ⟨hdigits, hn, hrange⟩

theorem parseInt_eq_ok_iff {text : String} {n : ℤ} :
    parseInt text = .ok n ↔ WritesInteger (trim text.toList) n ∧ isInt64 n = true :=
  readInt_eq_ok_iff

/-! ## Parts of a token -/

namespace Json

theorem spanDigits_eq {cs ds rest : List Char} (h : spanDigits cs = (ds, rest)) :
    cs = ds ++ rest ∧ ∀ d ∈ ds, d.isDigit = true := by
  rw [spanDigits, List.span_eq_takeWhile_dropWhile, Prod.mk.injEq] at h
  obtain ⟨rfl, rfl⟩ := h
  exact ⟨List.takeWhile_append_dropWhile.symm, fun d ↦ List.mem_takeWhile_imp⟩

theorem spanDigits_append {ds rest : List Char} (hds : ∀ d ∈ ds, d.isDigit = true)
    (hrest : ∀ c ∈ rest.head?, c.isDigit = false) : spanDigits (ds ++ rest) = (ds, rest) := by
  have hstop : rest.takeWhile Char.isDigit = [] ∧ rest.dropWhile Char.isDigit = rest := by
    cases rest with
    | nil => exact ⟨rfl, rfl⟩
    | cons c rest =>
      have hc : ¬c.isDigit = true := by rw [hrest c rfl]; exact nofun
      exact ⟨List.takeWhile_cons_of_neg hc, List.dropWhile_cons_of_neg hc⟩
  rw [spanDigits, List.span_eq_takeWhile_dropWhile, List.takeWhile_append_of_pos hds, hstop.1,
    List.dropWhile_append_of_pos hds, hstop.2, List.append_nil]

theorem readWhole_eq {cs whole rest : List Char} (h : readWhole cs = some (whole, rest)) :
    cs = whole ++ rest ∧ whole ≠ [] ∧ ∀ d ∈ whole, d.isDigit = true := by
  rw [readWhole] at h
  match hspan : spanDigits cs, h with
  | (d :: ds, rest'), h =>
    dsimp only at h
    split_ifs at h
    obtain ⟨rfl, rfl⟩ := Prod.mk.inj (Option.some.inj h)
    obtain ⟨hcs, hdigits⟩ := spanDigits_eq hspan
    exact ⟨hcs, List.cons_ne_nil d ds, hdigits⟩

/-- The marks that a fraction or an exponent starts with. -/
def isMark (c : Char) : Bool := c == '.' || c == 'e' || c == 'E'

/-- The characters of a token. -/
def isTokenChar (c : Char) : Bool := c.isDigit || isMark c || c == '+' || c == '-'

theorem isTokenChar_of_isDigit {c : Char} (h : c.isDigit = true) : isTokenChar c = true := by
  rw [isTokenChar, h, Bool.true_or, Bool.true_or, Bool.true_or]

/-- What is read of an optional part: either it is missing and nothing is taken, or what is taken
starts with a mark. -/
def TakesPart {α : Type} (part : Option α) (cs rest : List Char) : Prop :=
  (part = none ∧ cs = rest) ∨
    (part ≠ none ∧ ∃ mark taken, cs = mark :: (taken ++ rest) ∧ isMark mark = true ∧
      ∀ c ∈ taken, isTokenChar c = true)

/-- A fraction is missing, or it is a point and digits. -/
theorem readFraction_eq {cs rest : List Char} {fraction : Option (List Char)}
    (h : readFraction cs = some (fraction, rest)) : (fraction = none ∧ cs = rest) ∨
      ∃ ds, fraction = some ds ∧ cs = '.' :: (ds ++ rest) ∧ ∀ d ∈ ds, d.isDigit = true := by
  unfold readFraction at h
  split at h
  · next cs' =>
    match hspan : spanDigits cs', h with
    | (d :: ds, rest'), h =>
      obtain ⟨rfl, rfl⟩ := Prod.mk.inj (Option.some.inj h)
      obtain ⟨rfl, hdigits⟩ := spanDigits_eq hspan
      exact .inr ⟨d :: ds, rfl, rfl, hdigits⟩
  · obtain ⟨rfl, rfl⟩ := Prod.mk.inj (Option.some.inj h)
    exact .inl ⟨rfl, rfl⟩

theorem takesPart_fraction {cs rest : List Char} {fraction : Option (List Char)}
    (h : readFraction cs = some (fraction, rest)) : TakesPart fraction cs rest := by
  rcases readFraction_eq h with hnone | ⟨ds, rfl, rfl, hdigits⟩
  · exact .inl hnone
  · exact .inr ⟨Option.some_ne_none _, '.', ds, rfl, rfl,
      fun c hc ↦ isTokenChar_of_isDigit (hdigits c hc)⟩

theorem takesPart_exponent {cs rest : List Char} {exponent : Option (Option Char × List Char)}
    (h : readExponent cs = some (exponent, rest)) : TakesPart exponent cs rest := by
  unfold readExponent at h
  split at h
  · obtain ⟨rfl, rfl⟩ := Prod.mk.inj (Option.some.inj h)
    exact .inl ⟨rfl, rfl⟩
  · next e cs' =>
    split_ifs at h with he
    · have hmark : isMark e = true := by
        rcases he with rfl | rfl <;> rfl
      -- The sign is of no importance here: it is a character of the token like the digits.
      split at h
      next sign rest' hsigned =>
      split at h
      · nomatch h
      next ds rest'' hne hspan =>
      obtain ⟨rfl, rfl⟩ := Prod.mk.inj (Option.some.inj h)
      obtain ⟨rfl, hdigits⟩ := spanDigits_eq hspan
      obtain ⟨signChars, rfl, hsign⟩ : ∃ signChars, cs' = signChars ++ (ds ++ rest'') ∧
          ∀ c ∈ signChars, isTokenChar c = true := by
        split at hsigned
        · exact ⟨['+'], congrArg _ (Prod.mk.inj hsigned).2, List.forall_mem_singleton.mpr rfl⟩
        · exact ⟨['-'], congrArg _ (Prod.mk.inj hsigned).2, List.forall_mem_singleton.mpr rfl⟩
        · exact ⟨[], (Prod.mk.inj hsigned).2, List.forall_mem_nil _⟩
      refine .inr ⟨Option.some_ne_none _, e, signChars ++ ds, by simp, hmark, ?_⟩
      exact List.forall_mem_append.mpr ⟨hsign, fun c hc ↦ isTokenChar_of_isDigit (hdigits c hc)⟩
    · obtain ⟨rfl, rfl⟩ := Prod.mk.inj (Option.some.inj h)
      exact .inl ⟨rfl, rfl⟩

/-! ## Tokens -/

/-- A number without fraction and exponent. -/
def Numeral.IsPlain (n : Numeral) : Prop := n.fraction = none ∧ n.exponent = none

instance (n : Numeral) : Decidable n.IsPlain :=
  inferInstanceAs (Decidable (n.fraction = none ∧ n.exponent = none))

/-- The whole number before the point. -/
def Numeral.written (n : Numeral) : ℤ :=
  if n.negative then -(digitsValue n.whole : ℤ) else digitsValue n.whole

/-- A token is a sign, digits and, unless it is plain, more characters that start with a mark. -/
structure Token (n : Numeral) (t : List Char) : Prop where
  parts : ∃ tail, t = (if n.negative then ['-'] else []) ++ n.whole ++ tail ∧
    (∀ c ∈ tail, isTokenChar c = true) ∧ (n.IsPlain → tail = []) ∧
    (¬n.IsPlain → ∃ mark ∈ tail, isMark mark = true)
  whole_ne_nil : n.whole ≠ []
  isDigit_whole : ∀ d ∈ n.whole, d.isDigit = true
  isDigit_fraction : ∀ d ∈ n.fraction.getD [], d.isDigit = true

theorem token_of_readUnsigned {negative : Bool} {cs : List Char} {n : Numeral}
    (h : readUnsigned negative cs = some (n, [])) :
    Token n ((if negative then ['-'] else []) ++ cs) ∧ n.negative = negative := by
  simp only [readUnsigned, Option.bind_eq_bind, Option.bind_eq_some_iff] at h
  obtain ⟨⟨whole, rest⟩, hwhole, ⟨fraction, rest'⟩, hfraction, ⟨exponent, rest''⟩, hexponent,
    h⟩ := h
  obtain ⟨rfl, rfl⟩ := Prod.mk.inj (Option.some.inj h)
  obtain ⟨rfl, hne, hdigits⟩ := readWhole_eq hwhole
  have hfractionDigits : ∀ d ∈ fraction.getD [], d.isDigit = true := by
    rcases readFraction_eq hfraction with ⟨rfl, -⟩ | ⟨ds, rfl, -, hds⟩
    · exact List.forall_mem_nil _
    · exact hds
  refine ⟨⟨⟨rest, (List.append_assoc ..).symm, ?_⟩, hne, hdigits, hfractionDigits⟩, rfl⟩
  have hchars {mark : Char} {taken rest : List Char} (hmark : isMark mark = true)
      (htaken : ∀ c ∈ taken, isTokenChar c = true) (hrest : ∀ c ∈ rest, isTokenChar c = true) :
      ∀ c ∈ mark :: (taken ++ rest), isTokenChar c = true := by
    refine List.forall_mem_cons.mpr ⟨?_, List.forall_mem_append.mpr ⟨htaken, hrest⟩⟩
    rw [isTokenChar, hmark, Bool.or_true, Bool.true_or, Bool.true_or]
  -- The exponent stands at the end, so its characters come first.
  obtain ⟨hrest', hplain⟩ : (∀ c ∈ rest', isTokenChar c = true) ∧
      (exponent = none ∧ rest' = [] ∨ exponent ≠ none ∧ ∃ mark ∈ rest', isMark mark = true) := by
    rcases takesPart_exponent hexponent with ⟨hnone, rfl⟩ | ⟨hsome, mark, taken, rfl, hmark, htaken⟩
    · exact ⟨List.forall_mem_nil _, .inl ⟨hnone, rfl⟩⟩
    · exact ⟨hchars hmark htaken (List.forall_mem_nil _),
        .inr ⟨hsome, mark, List.mem_cons_self, hmark⟩⟩
  rcases takesPart_fraction hfraction with ⟨hnone, rfl⟩ | ⟨hsome, mark, taken, rfl, hmark, htaken⟩
  · refine ⟨hrest', ?_, ?_⟩
    · rintro ⟨-, hexp⟩
      exact (hplain.resolve_right fun h ↦ h.1 hexp).2
    · intro hn
      exact (hplain.resolve_left fun h ↦ hn ⟨hnone, h.1⟩).2
  · exact ⟨hchars hmark htaken hrest', fun hn ↦ absurd hn.1 hsome,
      fun _ ↦ ⟨mark, List.mem_cons_self, hmark⟩⟩

theorem token_of_readNumeral {t : List Char} {n : Numeral} (h : readNumeral t = some (n, [])) :
    Token n t := by
  unfold readNumeral at h
  split at h
  · exact (token_of_readUnsigned h).1
  · exact (token_of_readUnsigned h).1

/-! ## Tokens as texts -/

theorem not_isDigit_of_isMark {c : Char} (h : isMark c = true) :
    c.isDigit = false ∧ c ≠ '+' ∧ c ≠ '-' := by
  simp only [isMark, Bool.or_eq_true, beq_iff_eq] at h
  rcases h with (rfl | rfl) | rfl <;> decide

theorem ne_of_isTokenChar {c d : Char} (hc : isTokenChar c = true) (hd : isTokenChar d = false) :
    c ≠ d := by
  rintro rfl
  exact Bool.false_ne_true (hd.symm.trans hc)

theorem toNat_of_isTokenChar {c : Char} (h : isTokenChar c = true) :
    0x2B ≤ c.toNat ∧ c.toNat ≤ 0x65 := by
  simp only [isTokenChar, isMark, Bool.or_eq_true, beq_iff_eq, or_assoc] at h
  rcases h with h | rfl | rfl | rfl | rfl | rfl
  · have hc : c.toNat = c.val.toNat := rfl
    have h0 : '0'.val.toNat = 0x30 ∧ '9'.val.toNat = 0x39 := ⟨rfl, rfl⟩
    simp only [Char.isDigit, Bool.and_eq_true, decide_eq_true_eq, UInt32.le_iff_toNat_le,
      ge_iff_le] at h
    omega
  all_goals decide

theorem isBlank_of_isTokenChar {c : Char} (h : isTokenChar c = true) : isBlank c = false := by
  have hc := toNat_of_isTokenChar h
  rw [isBlank]
  simp only [Bool.or_eq_false_iff, Bool.and_eq_false_iff, decide_eq_false_iff_not,
    beq_eq_false_iff_ne]
  omega

/-- Between quotes most characters are read as they are. -/
theorem readString_cons {c : Char} (hcontrol : 0x20 ≤ c.toNat) (hquote : c ≠ '"')
    (hslash : c ≠ '\\') (cs : List Char) :
    readString (c :: cs) = (readString cs).map fun (s, rest) ↦ (.char c :: s, rest) := by
  have hnul : c ≠ '\x00' := by
    rintro rfl
    exact absurd hcontrol (by decide)
  rw [readString]
  · exact if_neg (not_or.mpr ⟨not_lt.mpr hcontrol, hslash⟩)
  · exact hquote
  · exact hnul
  · exact fun _ _ _ _ _ h ↦ absurd h hslash
  · exact fun _ _ h ↦ absurd h hslash

namespace Token

variable {n : Numeral} {t : List Char}

theorem isTokenChar (h : Token n t) : ∀ c ∈ t, Json.isTokenChar c = true := by
  obtain ⟨tail, rfl, htail, -, -⟩ := h.parts
  refine List.forall_mem_append.mpr ⟨List.forall_mem_append.mpr ⟨?_, ?_⟩, htail⟩
  · split_ifs
    · exact List.forall_mem_singleton.mpr rfl
    · exact List.forall_mem_nil _
  · exact fun c hc ↦ isTokenChar_of_isDigit (h.isDigit_whole c hc)

/-- The text of a token is an integer when the token is plain. -/
theorem writesInteger_iff (h : Token n t) (m : ℤ) :
    WritesInteger t m ↔ n.IsPlain ∧ m = n.written := by
  obtain ⟨tail, rfl, -, hplain, hmark⟩ := h.parts
  constructor
  · rintro ⟨sign, ds, ht, -, hdigits, hsign⟩
    have hn : n.IsPlain := by
      by_contra hn
      obtain ⟨mark, hmem, hmark⟩ := hmark hn
      obtain ⟨hdigit, hplus, hminus⟩ := not_isDigit_of_isMark hmark
      have hmem' : mark ∈ sign ++ ds := ht ▸ List.mem_append_right _ hmem
      rcases List.mem_append.mp hmem' with hmem' | hmem'
      · rcases hsign with ⟨rfl | rfl, -⟩ | ⟨rfl, -⟩
        · exact List.not_mem_nil hmem'
        · exact hplus (List.mem_singleton.mp hmem')
        · exact hminus (List.mem_singleton.mp hmem')
      · exact Bool.false_ne_true (hdigit.symm.trans (hdigits mark hmem'))
    refine ⟨hn, ?_⟩
    rw [hplain hn, List.append_nil] at ht
    rw [Numeral.written]
    obtain ⟨d, ds', hwhole⟩ := List.exists_cons_of_ne_nil h.whole_ne_nil
    have hd : d.isDigit = true := h.isDigit_whole d (hwhole ▸ List.mem_cons_self)
    split_ifs at ht ⊢ with hneg
    · rcases hsign with ⟨rfl | rfl, hm⟩ | ⟨rfl, hm⟩
      · have hds : '-' :: n.whole = ds := ht
        exact absurd (hdigits '-' (hds ▸ List.mem_cons_self)) (by decide)
      · exact absurd (List.cons.inj ht).1 (by decide)
      · rw [hm, List.append_cancel_left ht]
    · rcases hsign with ⟨rfl | rfl, hm⟩ | ⟨rfl, hm⟩
      · rw [hm, List.append_cancel_left ht]
      · rw [hwhole] at ht
        obtain rfl := (List.cons.inj ht).1
        exact absurd hd (by decide)
      · rw [hwhole] at ht
        obtain rfl := (List.cons.inj ht).1
        exact absurd hd (by decide)
  · rintro ⟨hn, rfl⟩
    rw [hplain hn, List.append_nil, Numeral.written]
    refine ⟨_, n.whole, rfl, h.whole_ne_nil, h.isDigit_whole, ?_⟩
    split_ifs
    · exact .inr ⟨rfl, rfl⟩
    · exact .inl ⟨.inl rfl, rfl⟩

theorem trim (h : Token n t) : Text.trim t = t :=
  trim_eq_self fun c hc ↦ isBlank_of_isTokenChar (h.isTokenChar c hc)

/-- Reading the text of a token as an integer. -/
theorem parseInt_eq_ok_iff (h : Token n t) {m : ℤ} : parseInt (String.ofList t) = .ok m ↔
    n.IsPlain ∧ m = n.written ∧ isInt64 m = true := by
  rw [FirewallExporter.parseInt_eq_ok_iff, String.toList_ofList, h.trim, h.writesInteger_iff,
    and_assoc]

/-- The text of a token stands between quotes as it is. -/
theorem readString (h : Token n t) (rest : List Char) :
    Json.readString (t ++ '"' :: rest) = some (t.map .char, rest) := by
  have hchars := h.isTokenChar
  clear h
  induction t with
  | nil => rfl
  | cons c t ih =>
    obtain ⟨hc, ht⟩ := List.forall_mem_cons.mp hchars
    have hcontrol : 0x20 ≤ c.toNat := by
      have := toNat_of_isTokenChar hc
      omega
    rw [List.cons_append, readString_cons hcontrol (ne_of_isTokenChar hc (by decide))
      (ne_of_isTokenChar hc (by decide)), ih ht, Option.map_some, List.map_cons]

end Token

theorem textOf?_map_char (cs : List Char) : textOf? (cs.map .char) = some cs := by
  induction cs with
  | nil => rfl
  | cons c cs ih => rw [List.map_cons, textOf?, ih, Option.map_some]

end Json

/-- An integer is written in characters of a token. -/
theorem WritesInteger.isTokenChar {cs : List Char} {n : ℤ} (h : WritesInteger cs n) :
    ∀ c ∈ cs, Json.isTokenChar c = true := by
  obtain ⟨sign, ds, rfl, -, hds, hsign⟩ := h
  refine List.forall_mem_append.mpr ⟨?_, fun d hd ↦ Json.isTokenChar_of_isDigit (hds d hd)⟩
  rcases hsign with ⟨rfl | rfl, -⟩ | ⟨rfl, -⟩
  · exact List.forall_mem_nil _
  · exact List.forall_mem_singleton.mpr rfl
  · exact List.forall_mem_singleton.mpr rfl

end FirewallExporter
