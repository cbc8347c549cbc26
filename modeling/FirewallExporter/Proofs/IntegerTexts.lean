import FirewallExporter.Proofs.Blanks
import FirewallExporter.Proofs.Client
import FirewallExporter.Proofs.Literals

/-!
# Integers in texts

What an integer looks like in a text is said by `WritesInteger`, and `readInt_eq_ok_iff` says that
these texts are read, as long as the integer is within the range. Here are the other two sides of
it. A text that is not read has one fault, and the fault is in the text (`readInt_eq_error_iff`):
the digits are taken from the left, so an overflow counts when it comes before the first bad
character. And every integer is written by some text, with any number of leading zeros
(`writesInteger_decimal`).

For a call this means that a text in a reply either gives its integer or fails the call with an
error that quotes the text as it came (`Client.IntegerLaw`).
-/

namespace FirewallExporter

open Text

/-! ## Faults -/

section

variable {limit acc : ℕ} {beyond fault : IntFault} {cs : List Char}

/-- Reading goes beyond the limit when some digits at the start already do. -/
theorem readDigits_eq_error_iff (hbeyond : beyond ≠ .invalidDigit) (hacc : acc ≤ limit) :
    readDigits limit beyond acc cs = .error beyond ↔
      ∃ ds rest, cs = ds ++ rest ∧ (∀ d ∈ ds, d.isDigit = true) ∧ limit < digitsOnto acc ds := by
  induction cs generalizing acc with
  | nil =>
    refine ⟨nofun, ?_⟩
    rintro ⟨ds, rest, hcs, -, hlimit⟩
    obtain ⟨rfl, -⟩ := List.append_eq_nil_iff.mp hcs.symm
    exact absurd hlimit (not_lt.mpr hacc)
  | cons c cs ih =>
    rw [readDigits, digitValue?_eq]
    by_cases hc : c.isDigit = true
    · rw [if_pos hc]
      dsimp only
      split_ifs with hlimit
      · exact iff_of_true rfl ⟨[c], cs, rfl, List.forall_mem_singleton.mpr hc, hlimit⟩
      · rw [ih (not_lt.mp hlimit)]
        constructor
        · rintro ⟨ds, rest, rfl, hds, hvalue⟩
          exact ⟨c :: ds, rest, rfl, List.forall_mem_cons.mpr ⟨hc, hds⟩, hvalue⟩
        · rintro ⟨ds, rest, hcs, hds, hvalue⟩
          cases ds with
          | nil => exact absurd hvalue (not_lt.mpr hacc)
          | cons d ds =>
            obtain ⟨rfl, rfl⟩ := List.cons.inj hcs
            exact ⟨ds, rest, rfl, (List.forall_mem_cons.mp hds).2, hvalue⟩
    · rw [if_neg hc]
      refine iff_of_false (fun h ↦ hbeyond (Except.error.inj h).symm) ?_
      rintro ⟨ds, rest, hcs, hds, hvalue⟩
      cases ds with
      | nil => exact absurd hvalue (not_lt.mpr hacc)
      | cons d ds =>
        obtain ⟨rfl, -⟩ := List.cons.inj hcs
        exact hc (hds _ List.mem_cons_self)

theorem readDigits_zero_eq_error_iff (hbeyond : beyond ≠ .invalidDigit) :
    readDigits limit beyond 0 cs = .error beyond ↔
      ∃ ds rest, cs = ds ++ rest ∧ (∀ d ∈ ds, d.isDigit = true) ∧ limit < digitsValue ds :=
  readDigits_eq_error_iff hbeyond (Nat.zero_le limit)

theorem eq_of_readDigits_eq_error (h : readDigits limit beyond acc cs = .error fault) :
    fault = beyond ∨ fault = .invalidDigit := by
  induction cs generalizing acc with
  | nil => nomatch h
  | cons c cs ih =>
    rw [readDigits] at h
    split at h
    · exact .inr (Except.error.inj h).symm
    · split_ifs at h
      · exact .inl (Except.error.inj h).symm
      · exact ih h

end

/-- Without a minus, some digits at the start write more than the greatest integer. -/
def TooLarge (cs : List Char) : Prop :=
  ∃ sign ds rest, cs = sign ++ (ds ++ rest) ∧ (sign = [] ∨ sign = ['+']) ∧
    (∀ d ∈ ds, d.isDigit = true) ∧ maxInt64 < digitsValue ds

/-- Behind a minus, some digits at the start write less than the least integer. -/
def TooSmall (cs : List Char) : Prop :=
  ∃ ds rest, cs = '-' :: (ds ++ rest) ∧ (∀ d ∈ ds, d.isDigit = true) ∧
    -(digitsValue ds : ℤ) < minInt64

/-- What is wrong with a text that is not read. -/
def IntFault.Explains (cs : List Char) : IntFault → Prop
  | empty => cs = []
  | tooLarge => TooLarge cs
  | tooSmall => TooSmall cs
  | invalidDigit => cs ≠ [] ∧ ¬TooLarge cs ∧ ¬TooSmall cs ∧ ∀ n, ¬WritesInteger cs n

theorem map_eq_error_iff {α β : Type} {f : α → β} {x : Except IntFault α} {fault : IntFault} :
    x.map f = .error fault ↔ x = .error fault := by
  cases x <;> simp [Except.map]

section

variable {cs : List Char} {fault : IntFault} {n : ℤ}

/-- An integer that is written but not read is beyond one end of the range. -/
theorem WritesInteger.tooLarge_or_tooSmall (h : WritesInteger cs n) (hn : ¬isInt64 n = true) :
    TooLarge cs ∨ TooSmall cs := by
  rw [isInt64, Bool.and_eq_true, decide_eq_true_eq, decide_eq_true_eq] at hn
  obtain ⟨sign, ds, rfl, -, hds, ⟨hsign, rfl⟩ | ⟨rfl, rfl⟩⟩ := h
  · refine .inl ⟨sign, ds, [], by rw [List.append_nil], hsign, hds, ?_⟩
    rw [minInt64] at hn
    omega
  · refine .inr ⟨ds, [], by rw [List.append_nil, List.singleton_append], hds, ?_⟩
    rw [maxInt64] at hn
    omega

theorem exists_cons_of_lt {ds : List Char} (h : 0 < digitsValue ds) : ∃ d ds', ds = d :: ds' := by
  refine List.exists_cons_of_ne_nil ?_
  rintro rfl
  exact absurd h (lt_irrefl 0)

theorem TooLarge.readInt (h : TooLarge cs) : readInt cs = .error .tooLarge := by
  obtain ⟨sign, ds, rest, rfl, hsign, hds, hvalue⟩ := h
  rw [maxInt64] at hvalue
  obtain ⟨d, ds, rfl⟩ := exists_cons_of_lt (by omega : 0 < digitsValue ds)
  have hd : d.isDigit = true := hds d List.mem_cons_self
  have hread : readDigits maxInt64.toNat .tooLarge 0 (d :: ds ++ rest) = .error .tooLarge := by
    refine (readDigits_zero_eq_error_iff (by decide)).mpr ⟨_, rest, rfl, hds, ?_⟩
    rw [maxInt64]
    omega
  rcases hsign with rfl | rfl
  · rw [List.nil_append, List.cons_append, FirewallExporter.readInt, ← List.cons_append, hread]
    · rfl
    · rintro c cs rfl -
      exact absurd hd (by decide)
    · rintro c cs rfl -
      exact absurd hd (by decide)
  · rw [List.singleton_append, List.cons_append, FirewallExporter.readInt, ← List.cons_append,
      hread]
    rfl

theorem TooSmall.readInt (h : TooSmall cs) : readInt cs = .error .tooSmall := by
  obtain ⟨ds, rest, rfl, hds, hvalue⟩ := h
  rw [minInt64] at hvalue
  obtain ⟨d, ds, rfl⟩ := exists_cons_of_lt (by omega : 0 < digitsValue ds)
  have hread : readDigits minInt64.natAbs .tooSmall 0 (d :: ds ++ rest) = .error .tooSmall := by
    refine (readDigits_zero_eq_error_iff (by decide)).mpr ⟨_, rest, rfl, hds, ?_⟩
    rw [minInt64]
    omega
  rw [List.cons_append, readInt_minus, ← List.cons_append, hread]
  rfl

theorem explains_invalidDigit (h : readInt cs = .error .invalidDigit) :
    IntFault.invalidDigit.Explains cs := by
  have hlarge : ¬TooLarge cs := fun hlarge ↦ nomatch h.symm.trans hlarge.readInt
  have hsmall : ¬TooSmall cs := fun hsmall ↦ nomatch h.symm.trans hsmall.readInt
  refine ⟨?_, hlarge, hsmall, fun n hn ↦ ?_⟩
  · rintro rfl
    nomatch h
  · by_cases hrange : isInt64 n = true
    · nomatch h.symm.trans (readInt_eq_ok_iff.mpr ⟨hn, hrange⟩)
    · exact (hn.tooLarge_or_tooSmall hrange).elim hlarge hsmall

theorem explains_of_readInt (h : readInt cs = .error fault) : fault.Explains cs := by
  -- Beyond the fault of an empty text and an invalid digit, there is one that the sign decides.
  have hlarge {sign ds : List Char} (hsign : sign = [] ∨ sign = ['+'])
      (h : readDigits maxInt64.toNat .tooLarge 0 ds = .error .tooLarge) :
      TooLarge (sign ++ ds) := by
    obtain ⟨ds, rest, rfl, hds, hvalue⟩ := (readDigits_zero_eq_error_iff (by decide)).mp h
    exact ⟨sign, ds, rest, rfl, hsign, hds, by omega⟩
  have hsmall {ds : List Char}
      (h : readDigits minInt64.natAbs .tooSmall 0 ds = .error .tooSmall) :
      TooSmall ('-' :: ds) := by
    obtain ⟨ds, rest, rfl, hds, hvalue⟩ := (readDigits_zero_eq_error_iff (by decide)).mp h
    rw [minInt64] at hvalue
    exact ⟨ds, rest, rfl, hds, by rw [minInt64]; omega⟩
  have hread := h
  fun_cases readInt cs with
  | case1 =>
    obtain rfl := Except.error.inj h
    rfl
  | case2 c cs =>
    rw [readInt, map_eq_error_iff] at h
    rcases eq_of_readDigits_eq_error h with rfl | rfl
    · exact hlarge (.inr rfl) h
    · exact explains_invalidDigit hread
  | case3 c cs =>
    rw [readInt_minus, map_eq_error_iff] at h
    rcases eq_of_readDigits_eq_error h with rfl | rfl
    · exact hsmall h
    · exact explains_invalidDigit hread
  | case4 c cs hplus hminus =>
    rw [readInt, map_eq_error_iff] at h
    · rcases eq_of_readDigits_eq_error h with rfl | rfl
      · exact hlarge (.inl rfl) h
      · exact explains_invalidDigit hread
    · exact hplus
    · exact hminus

/-- **A text that is not read has exactly one fault,** the one that explains it. -/
theorem readInt_eq_error_iff : readInt cs = .error fault ↔ fault.Explains cs := by
  refine ⟨explains_of_readInt, fun h ↦ ?_⟩
  cases fault with
  | empty => rw [h, readInt]
  | tooLarge => exact h.readInt
  | tooSmall => exact h.readInt
  | invalidDigit =>
    obtain ⟨hne, hlarge, hsmall, hwrites⟩ := h
    cases hread : readInt cs with
    | ok n => exact absurd (readInt_eq_ok_iff.mp hread).1 (hwrites n)
    | error fault =>
      have hfault := explains_of_readInt hread
      cases fault with
      | empty => exact absurd hfault hne
      | tooLarge => exact absurd hfault hlarge
      | tooSmall => exact absurd hfault hsmall
      | invalidDigit => rfl

end

/-! ## Decimal texts -/

/-- Leading zeros make no difference. -/
theorem digitsValue_replicate_append (zeros : ℕ) (ds : List Char) :
    digitsValue (List.replicate zeros '0' ++ ds) = digitsValue ds := by
  rw [digitsValue_eq, digitsValue_eq, Nat.ofDigitChars_append, Nat.ofDigitChars_replicate_zero,
    mul_zero]

/-- An integer in digits, with leading zeros and, unless it is negative, a plus if one is wanted. -/
def decimal (plus : Bool) (zeros : ℕ) (n : ℤ) : List Char :=
  (if n < 0 then ['-'] else if plus then ['+'] else []) ++
    (List.replicate zeros '0' ++ Nat.toDigits 10 n.natAbs)

theorem ofList_decimal (n : ℤ) : String.ofList (decimal false 0 n) = toString n := by
  cases n with
  | ofNat n =>
    rw [Int.ofNat_eq_natCast, decimal, if_neg (not_lt.mpr (Int.natCast_nonneg n))]
    exact Nat.toString_eq_ofList_toDigits.symm
  | negSucc n =>
    rw [decimal, if_pos (Int.negSucc_lt_zero n), String.ofList_append]
    exact congrArg ("-" ++ ·) Nat.toString_eq_ofList_toDigits.symm

theorem writesInteger_decimal (plus : Bool) (zeros : ℕ) (n : ℤ) :
    WritesInteger (decimal plus zeros n) n := by
  refine ⟨_, _, rfl, List.append_ne_nil_of_right_ne_nil _ Nat.toDigits_ne_nil, ?_, ?_⟩
  · refine List.forall_mem_append.mpr ⟨fun d hd ↦ ?_, fun d ↦ isDigit_of_mem_toDigits⟩
    rw [List.eq_of_mem_replicate hd]
    rfl
  · rw [digitsValue_replicate_append, digitsValue_toDigits]
    split_ifs with hneg hplus
    · exact .inr ⟨rfl, by omega⟩
    · exact .inl ⟨.inr rfl, by omega⟩
    · exact .inl ⟨.inl rfl, by omega⟩

/-- There is no white space in the text of an integer. -/
theorem WritesInteger.isBlank {cs : List Char} {n : ℤ} (h : WritesInteger cs n) :
    ∀ c ∈ cs, isBlank c = false :=
  fun c hc ↦ Json.isBlank_of_isTokenChar (h.isTokenChar c hc)

/-! ## Calls -/

namespace Client

/-- The integer in a text of a reply from an endpoint, or the error that a call fails with. -/
def readIntFor (endpoint text : String) : Except FetchError ℤ :=
  (Unparsable.readInt text).mapError (⟨endpoint, .unparsable ·⟩)

/-- What becomes of a text that should be an integer. -/
structure IntegerLaw (endpoint text : String) : Prop where
  /-- It is read when it writes an integer of 64 bits, apart from white space around it. -/
  accepted_iff : ∀ n, readIntFor endpoint text = .ok n ↔
    WritesInteger (trim text.toList) n ∧ minInt64 ≤ n ∧ n ≤ maxInt64
  /-- Otherwise the call fails without a status, with the text as it came in its message. -/
  refused : (∀ n, ¬(WritesInteger (trim text.toList) n ∧ minInt64 ≤ n ∧ n ≤ maxInt64)) →
    ∃ fault : IntFault, fault.Explains (trim text.toList) ∧
      FailsWith endpoint 0 ("error parsing '" ++ text ++ "' to int: " ++ fault.message)
        (readIntFor endpoint text)

theorem readIntFor_eq_ok_iff {endpoint text : String} {n : ℤ} :
    readIntFor endpoint text = .ok n ↔
      WritesInteger (trim text.toList) n ∧ minInt64 ≤ n ∧ n ≤ maxInt64 := by
  have hrange : isInt64 n = true ↔ minInt64 ≤ n ∧ n ≤ maxInt64 := by
    rw [isInt64, Bool.and_eq_true, decide_eq_true_eq, decide_eq_true_eq]
  rw [← hrange, ← parseInt_eq_ok_iff, readIntFor, Unparsable.readInt]
  cases parseInt text <;> simp [Except.mapError]

theorem integerLaw (endpoint text : String) : IntegerLaw endpoint text where
  accepted_iff _ := readIntFor_eq_ok_iff
  refused h := by
    cases hread : parseInt text with
    | ok n =>
      have hok : readIntFor endpoint text = .ok n := by
        rw [readIntFor, Unparsable.readInt, hread]
        rfl
      exact absurd (readIntFor_eq_ok_iff.mp hok) (h n)
    | error fault =>
      refine ⟨fault, readInt_eq_error_iff.mp hread, ⟨endpoint, .unparsable (.int text fault)⟩, ?_,
        rfl, rfl, fun _ ↦ rfl⟩
      rw [readIntFor, Unparsable.readInt, hread]
      rfl

/-- **Integers in texts.** What a call reads as an integer is what writes one, and every integer is
read from its decimal text. -/
theorem readIntFor_law (endpoint : String) :
    (∀ text, IntegerLaw endpoint text) ∧
    (∀ n, minInt64 ≤ n → n ≤ maxInt64 → ∀ w w', IsBlanks w → IsBlanks w' →
      readIntFor endpoint (String.ofList (w ++ ((toString n).toList ++ w'))) = .ok n ∧
        ∀ plus zeros, readIntFor endpoint (String.ofList (w ++ (decimal plus zeros n ++ w'))) =
          .ok n) ∧
    ∀ {α : Type} (client : Client) (attempts : ℕ) (method : Method) (body : Option String)
      (shape : Json.Shape α) (text : α → String) (other : Responder) (log : Log),
      ((client.call attempts method endpoint body fun bytes ↦
          (shape.read? bytes).map fun a ↦ Unparsable.readInt (text a)).run other log).1 =
        ((client.callFor attempts method endpoint body shape).run other log).1.bind fun a ↦
          readIntFor endpoint (text a) := by
  have hdecimal {n : ℤ} (hlow : minInt64 ≤ n) (hhigh : n ≤ maxInt64) {w w' : List Char}
      (hw : IsBlanks w) (hw' : IsBlanks w') (plus : Bool) (zeros : ℕ) :
      readIntFor endpoint (String.ofList (w ++ (decimal plus zeros n ++ w'))) = .ok n := by
    have hwrites := writesInteger_decimal plus zeros n
    rw [readIntFor_eq_ok_iff, String.toList_ofList, trim_append hw hw',
      trim_eq_self hwrites.isBlank]
    exact ⟨hwrites, hlow, hhigh⟩
  refine ⟨integerLaw endpoint, fun n hlow hhigh w w' hw hw' ↦ ⟨?_, hdecimal hlow hhigh hw hw'⟩, ?_⟩
  · rw [← ofList_decimal, String.toList_ofList]
    exact hdecimal hlow hhigh hw hw' false 0
  · intro α client attempts method body shape text other log
    rw [client.run_call_convert]
    rfl

/-- The least integer with leading zeros, between white space. -/
theorem readIntFor_minInt64 :
    readIntFor "overview" " -009223372036854775808\n" = .ok minInt64 :=
  ((readIntFor_law "overview").2.1 minInt64 le_rfl (by decide) [' '] ['\n']
    (List.forall_mem_singleton.mpr rfl) (List.forall_mem_singleton.mpr rfl)).2 false 2

end Client

end FirewallExporter
