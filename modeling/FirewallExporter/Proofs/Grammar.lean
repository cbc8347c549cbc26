import FirewallExporter.Proofs.Literals

/-!
# The JSON grammar

Which characters write a document, said without the reader: `Document.Written` follows the grammar
of JSON, with one constructor for each form of a value. The same document may be written in many
ways, with other white space, other escapes and either letter for an exponent. A NUL between quotes
stands for octets that are no character.

The reader reads exactly these texts (`read?_eq_some_iff`). Both directions are inductions on the
fuel, which is two units for each character: a container spends two of them and at least two
characters.
-/

namespace FirewallExporter.Json

/-! ## White space -/

/-- White space of any length. -/
def IsSpaces (cs : List Char) : Prop := ∀ c ∈ cs, isSpace c = true

theorem isSpaces_nil : IsSpaces [] := List.forall_mem_nil _

theorem skipSpace_append {ws : List Char} (h : IsSpaces ws) (cs : List Char) :
    skipSpace (ws ++ cs) = skipSpace cs := List.dropWhile_append_of_pos h

theorem skipSpace_cons {c : Char} (h : isSpace c = false) (cs : List Char) :
    skipSpace (c :: cs) = c :: cs := List.dropWhile_cons_of_neg (by rw [h]; exact nofun)

theorem skipSpace_of_isSpaces {ws : List Char} (h : IsSpaces ws) : skipSpace ws = [] :=
  List.dropWhile_eq_nil_iff.mpr h

/-- What is skipped is white space. -/
theorem exists_isSpaces (cs : List Char) : ∃ ws, IsSpaces ws ∧ cs = ws ++ skipSpace cs :=
  ⟨cs.takeWhile isSpace, fun _ ↦ List.mem_takeWhile_imp, List.takeWhile_append_dropWhile.symm⟩

/-! ## Strings -/

/-- A piece of a string: a character as itself, unless it is a control character or has a meaning of
its own, a character by its letter, a code unit by four hexadecimal digits, or the mark of stray
octets. -/
inductive Piece.Written : Piece → List Char → Prop
  | stray : Written .stray ['\x00']
  | plain {c : Char} : 0x20 ≤ c.toNat → c ≠ '"' → c ≠ '\\' → Written (.char c) [c]
  | letter {e c : Char} : escape? e = some c → Written (.char c) ['\\', e]
  | unit {a b c d : Char} {i j k l : ℕ} :
      hexValue? a = some i → hexValue? b = some j → hexValue? c = some k → hexValue? d = some l →
      Written (.unit (((i * 16 + j) * 16 + k) * 16 + l)) ['\\', 'u', a, b, c, d]

/-- What stands between the quotes of a string. -/
inductive PiecesWritten : List Piece → List Char → Prop
  | nil : PiecesWritten [] []
  | cons {p : Piece} {s : List Piece} {cs rest : List Char} :
      p.Written cs → PiecesWritten s rest → PiecesWritten (p :: s) (cs ++ rest)

theorem PiecesWritten.readString {s : List Piece} {cs : List Char} (h : PiecesWritten s cs)
    (rest : List Char) : readString (cs ++ '"' :: rest) = some (s, rest) := by
  induction h with
  | nil => rfl
  | @cons p s cs tail hp hs ih =>
    rw [List.append_assoc]
    cases hp with
    | stray => rw [List.singleton_append, Json.readString, ih, Option.map_some]
    | plain hc hquote hslash =>
      rw [List.singleton_append, readString_cons hc hquote hslash, ih, Option.map_some]
    | @letter e c he =>
      rw [List.cons_append, List.singleton_append, Json.readString, he, ih]
      · rfl
      · rintro _ _ _ _ _ rfl
        exact absurd he (by simp [escape?])
    | unit ha hb hc hd =>
      simp only [List.cons_append, List.nil_append, Json.readString, ha, hb, hc, hd, ih]
      rfl

theorem readString_eq_some {cs rest : List Char} {s : List Piece}
    (h : readString cs = some (s, rest)) :
    ∃ body, cs = body ++ '"' :: rest ∧ PiecesWritten s body := by
  fun_induction readString cs generalizing s rest with
  | case1 => nomatch h
  | case2 tail =>
    obtain ⟨rfl, rfl⟩ := Prod.mk.inj (Option.some.inj h)
    exact ⟨[], rfl, .nil⟩
  | case3 tail ih =>
    obtain ⟨⟨s', rest'⟩, hread, h⟩ := Option.map_eq_some_iff.mp h
    obtain ⟨rfl, rfl⟩ := Prod.mk.inj h
    obtain ⟨body, rfl, hbody⟩ := ih hread
    exact ⟨_, rfl, .cons .stray hbody⟩
  | case4 a b c d tail ih =>
    simp only [Option.bind_eq_bind, Option.bind_eq_some_iff] at h
    obtain ⟨i, hi, j, hj, k, hk, l, hl, ⟨s', rest'⟩, hread, h⟩ := h
    obtain ⟨rfl, rfl⟩ := Prod.mk.inj (Option.some.inj h)
    obtain ⟨body, rfl, hbody⟩ := ih hread
    exact ⟨_, rfl, .cons (.unit hi hj hk hl) hbody⟩
  | case5 e tail hunit ih =>
    simp only [Option.bind_eq_bind, Option.bind_eq_some_iff] at h
    obtain ⟨c, hc, ⟨s', rest'⟩, hread, h⟩ := h
    obtain ⟨rfl, rfl⟩ := Prod.mk.inj (Option.some.inj h)
    obtain ⟨body, rfl, hbody⟩ := ih hread
    exact ⟨_, rfl, .cons (.letter hc) hbody⟩
  | case6 => nomatch h
  | case7 c tail hquote hnul hunit hletter hplain ih =>
    obtain ⟨⟨s', rest'⟩, hread, h⟩ := Option.map_eq_some_iff.mp h
    obtain ⟨rfl, rfl⟩ := Prod.mk.inj h
    obtain ⟨body, rfl, hbody⟩ := ih hread
    obtain ⟨hcontrol, hslash⟩ := not_or.mp hplain
    exact ⟨_, rfl, .cons (.plain (not_lt.mp hcontrol) hquote hslash) hbody⟩

/-! ## Numbers -/

/-- One or more digits. -/
def IsDigits (ds : List Char) : Prop := ds ≠ [] ∧ ∀ d ∈ ds, d.isDigit = true

/-- A fraction: a point and digits. -/
inductive FractionWritten : Option (List Char) → List Char → Prop
  | missing : FractionWritten none []
  | digits {ds : List Char} : IsDigits ds → FractionWritten (some ds) ('.' :: ds)

/-- An exponent: a letter, a sign and digits. -/
inductive ExponentWritten : Option (Option Char × List Char) → List Char → Prop
  | missing : ExponentWritten none []
  | digits {mark : Char} {sign : Option Char} {ds : List Char} : mark = 'e' ∨ mark = 'E' →
      sign = none ∨ sign = some '+' ∨ sign = some '-' → IsDigits ds →
      ExponentWritten (some (sign, ds)) (mark :: (sign.toList ++ ds))

/-- A number. -/
structure Numeral.Written (n : Numeral) (cs : List Char) : Prop where
  digits : IsDigits n.whole
  no_leading_zero : ∀ ds, n.whole = '0' :: ds → ds = []
  parts : ∃ fraction exponent, FractionWritten n.fraction fraction ∧
    ExponentWritten n.exponent exponent ∧
    cs = (if n.negative then ['-'] else []) ++ (n.whole ++ (fraction ++ exponent))

/-- After a number nothing follows that could be a part of it. -/
def Ends (rest : List Char) : Prop := ∀ c ∈ rest.head?, isTokenChar c = false

theorem ends_nil : Ends [] := nofun

theorem ends_cons {c : Char} (h : isTokenChar c = false) (cs : List Char) : Ends (c :: cs) :=
  fun _ hd ↦ Option.some.inj hd ▸ h

theorem isTokenChar_of_isSpace {c : Char} (h : isSpace c = true) : isTokenChar c = false := by
  simp only [isSpace, Bool.or_eq_true, beq_iff_eq, or_assoc] at h
  rcases h with rfl | rfl | rfl | rfl <;> rfl

theorem Ends.append {ws rest : List Char} (hws : IsSpaces ws) (h : Ends rest) :
    Ends (ws ++ rest) := by
  cases ws with
  | nil => exact h
  | cons c ws => exact ends_cons (isTokenChar_of_isSpace (hws c List.mem_cons_self)) _

/-! ### Reading the parts -/

theorem Ends.isDigit {rest : List Char} (h : Ends rest) : ∀ c ∈ rest.head?, c.isDigit = false := by
  intro c hc
  have htoken := h c hc
  simp only [isTokenChar, Bool.or_eq_false_iff] at htoken
  exact htoken.1.1.1

theorem ExponentWritten.readExponent {exponent : Option (Option Char × List Char)}
    {cs rest : List Char} (h : ExponentWritten exponent cs) (hrest : Ends rest) :
    readExponent (cs ++ rest) = some (exponent, rest) := by
  cases h with
  | missing =>
    cases rest with
    | nil => rfl
    | cons c rest =>
      have hmark : ¬(c = 'e' ∨ c = 'E') := by
        rintro (rfl | rfl) <;> exact absurd (hrest _ rfl) (by decide)
      rw [List.nil_append]
      unfold Json.readExponent
      exact if_neg hmark
  | @digits mark sign ds hmark hsign hds =>
    obtain ⟨d, ds, rfl⟩ := List.exists_cons_of_ne_nil hds.1
    have hspan : spanDigits (d :: ds ++ rest) = (d :: ds, rest) :=
      spanDigits_append hds.2 hrest.isDigit
    have hne {sign : Char} (hsign : sign.isDigit = false) (tail : List Char) :
        d :: ds ++ rest ≠ sign :: tail := by
      intro heq
      rw [← (List.cons.inj heq).1, hds.2 d List.mem_cons_self] at hsign
      nomatch hsign
    rw [List.cons_append, List.append_assoc]
    rcases hsign with rfl | rfl | rfl
    · rw [Option.toList_none, List.nil_append, Json.readExponent, if_pos hmark, hspan]
      · exact hne rfl
      · exact hne rfl
    · rw [Option.toList_some, List.singleton_append, Json.readExponent, if_pos hmark, hspan]
    · rw [Option.toList_some, List.singleton_append, Json.readExponent, if_pos hmark, hspan]

theorem FractionWritten.readFraction {fraction : Option (List Char)} {cs rest : List Char}
    (h : FractionWritten fraction cs) (hrest : ∀ c ∈ rest.head?, c.isDigit = false ∧ c ≠ '.') :
    readFraction (cs ++ rest) = some (fraction, rest) := by
  cases h with
  | missing =>
    rw [List.nil_append, Json.readFraction]
    rintro rest rfl
    exact (hrest '.' rfl).2 rfl
  | @digits ds hds =>
    obtain ⟨d, ds, rfl⟩ := List.exists_cons_of_ne_nil hds.1
    rw [List.cons_append, Json.readFraction, spanDigits_append hds.2 fun c hc ↦ (hrest c hc).1]

theorem readWhole_append {ds rest : List Char} (hds : IsDigits ds)
    (hzero : ∀ ds', ds = '0' :: ds' → ds' = []) (hrest : ∀ c ∈ rest.head?, c.isDigit = false) :
    readWhole (ds ++ rest) = some (ds, rest) := by
  obtain ⟨d, ds, rfl⟩ := List.exists_cons_of_ne_nil hds.1
  rw [readWhole, spanDigits_append hds.2 hrest]
  dsimp only
  rw [if_neg]
  rintro ⟨rfl, hne⟩
  exact hne (hzero ds rfl)

/-- What may follow a fraction or the digits before it. -/
theorem ExponentWritten.head_append {exponent : Option (Option Char × List Char)}
    {cs rest : List Char} (h : ExponentWritten exponent cs) (hrest : Ends rest) :
    ∀ c ∈ (cs ++ rest).head?, c.isDigit = false ∧ c ≠ '.' := by
  cases h with
  | missing =>
    intro c hc
    refine ⟨hrest.isDigit c hc, ?_⟩
    rintro rfl
    exact absurd (hrest _ hc) (by decide)
  | digits hmark =>
    rintro c ⟨⟩
    rcases hmark with rfl | rfl <;> decide

theorem FractionWritten.head_append {fraction : Option (List Char)} {cs rest : List Char}
    (h : FractionWritten fraction cs) (hrest : ∀ c ∈ rest.head?, c.isDigit = false) :
    ∀ c ∈ (cs ++ rest).head?, c.isDigit = false := by
  cases h with
  | missing => exact hrest
  | digits => rintro c ⟨⟩; rfl

theorem Numeral.Written.readNumeral {n : Numeral} {cs rest : List Char} (h : n.Written cs)
    (hrest : Ends rest) : readNumeral (cs ++ rest) = some (n, rest) := by
  obtain ⟨fraction, exponent, hfraction, hexponent, rfl⟩ := h.parts
  have hafter := hexponent.head_append hrest
  have hunsigned : readUnsigned n.negative (n.whole ++ (fraction ++ exponent) ++ rest) =
      some (n, rest) := by
    rw [List.append_assoc, List.append_assoc, readUnsigned,
      readWhole_append h.digits h.no_leading_zero
        (hfraction.head_append fun c hc ↦ (hafter c hc).1)]
    simp only [Option.bind_eq_bind, Option.bind_some, hfraction.readFraction hafter,
      hexponent.readExponent hrest]
  rw [List.append_assoc]
  split_ifs with hneg
  · rw [hneg] at hunsigned
    rw [List.singleton_append, Json.readNumeral, hunsigned]
  · obtain ⟨d, ds, hds⟩ := List.exists_cons_of_ne_nil h.digits.1
    have hd : d.isDigit = true := h.digits.2 d (hds ▸ List.mem_cons_self)
    rw [Bool.eq_false_iff.mpr hneg] at hunsigned
    rw [List.nil_append, Json.readNumeral, hunsigned]
    rw [hds]
    rintro tail heq
    rw [(List.cons.inj heq).1] at hd
    exact absurd hd (by decide)

/-- A number starts with its sign or a digit. -/
theorem Numeral.Written.exists_head {n : Numeral} {cs : List Char} (h : n.Written cs) :
    ∃ c tail, cs = c :: tail ∧ isTokenChar c = true := by
  obtain ⟨fraction, exponent, -, -, rfl⟩ := h.parts
  split_ifs
  · exact ⟨'-', _, rfl, rfl⟩
  · obtain ⟨d, ds, hds⟩ := List.exists_cons_of_ne_nil h.digits.1
    have hd : d.isDigit = true := h.digits.2 d (hds ▸ List.mem_cons_self)
    exact ⟨d, ds ++ (fraction ++ exponent), by rw [hds]; rfl, isTokenChar_of_isDigit hd⟩

/-! ### What is read -/

theorem fractionWritten_of_readFraction {cs rest : List Char} {fraction : Option (List Char)}
    (h : readFraction cs = some (fraction, rest)) :
    ∃ t, cs = t ++ rest ∧ FractionWritten fraction t := by
  unfold readFraction at h
  split at h
  · next cs' =>
    match hspan : spanDigits cs', h with
    | (d :: ds, rest'), h =>
      obtain ⟨rfl, rfl⟩ := Prod.mk.inj (Option.some.inj h)
      obtain ⟨rfl, hdigits⟩ := spanDigits_eq hspan
      exact ⟨'.' :: d :: ds, rfl, .digits ⟨List.cons_ne_nil d ds, hdigits⟩⟩
  · obtain ⟨rfl, rfl⟩ := Prod.mk.inj (Option.some.inj h)
    exact ⟨[], rfl, .missing⟩

theorem exponentWritten_of_readExponent {cs rest : List Char}
    {exponent : Option (Option Char × List Char)} (h : readExponent cs = some (exponent, rest)) :
    ∃ t, cs = t ++ rest ∧ ExponentWritten exponent t := by
  unfold readExponent at h
  split at h
  · obtain ⟨rfl, rfl⟩ := Prod.mk.inj (Option.some.inj h)
    exact ⟨[], rfl, .missing⟩
  · next e cs' =>
    split_ifs at h with he
    · split at h
      next sign rest' hsigned =>
      split at h
      · nomatch h
      next ds rest'' hne hspan =>
      obtain ⟨rfl, rfl⟩ := Prod.mk.inj (Option.some.inj h)
      obtain ⟨rfl, hdigits⟩ := spanDigits_eq hspan
      obtain ⟨rfl, hsign⟩ : cs' = sign.toList ++ (ds ++ rest'') ∧
          (sign = none ∨ sign = some '+' ∨ sign = some '-') := by
        split at hsigned
        · obtain ⟨rfl, rfl⟩ := Prod.mk.inj hsigned
          exact ⟨rfl, .inr (.inl rfl)⟩
        · obtain ⟨rfl, rfl⟩ := Prod.mk.inj hsigned
          exact ⟨rfl, .inr (.inr rfl)⟩
        · obtain ⟨rfl, rfl⟩ := Prod.mk.inj hsigned
          exact ⟨rfl, .inl rfl⟩
      have hds : IsDigits ds := ⟨hne, hdigits⟩
      refine ⟨e :: (sign.toList ++ ds), ?_, .digits he hsign hds⟩
      rw [List.cons_append, List.append_assoc]
    · obtain ⟨rfl, rfl⟩ := Prod.mk.inj (Option.some.inj h)
      exact ⟨[], rfl, .missing⟩

theorem no_leading_zero_of_readWhole {cs whole rest : List Char}
    (h : readWhole cs = some (whole, rest)) : ∀ ds, whole = '0' :: ds → ds = [] := by
  rintro ds rfl
  obtain ⟨digits, rest', hspan⟩ : ∃ digits rest', spanDigits cs = (digits, rest') := ⟨_, _, rfl⟩
  rw [readWhole, hspan] at h
  cases digits with
  | nil => exact absurd h (by simp)
  | cons d digits =>
    dsimp only at h
    split_ifs at h with hzero
    obtain ⟨rfl, rfl⟩ := List.cons.inj (Prod.mk.inj (Option.some.inj h)).1
    by_contra hne
    exact hzero ⟨rfl, hne⟩

theorem written_of_readUnsigned {negative : Bool} {cs rest : List Char} {n : Numeral}
    (h : readUnsigned negative cs = some (n, rest)) :
    ∃ t, (if negative then ['-'] else []) ++ cs = t ++ rest ∧ n.Written t := by
  simp only [readUnsigned, Option.bind_eq_bind, Option.bind_eq_some_iff] at h
  obtain ⟨⟨whole, rest₁⟩, hwhole, ⟨fraction, rest₂⟩, hfraction, ⟨exponent, rest₃⟩, hexponent,
    h⟩ := h
  obtain ⟨rfl, rfl⟩ := Prod.mk.inj (Option.some.inj h)
  obtain ⟨rfl, hne, hdigits⟩ := readWhole_eq hwhole
  obtain ⟨f, rfl, hf⟩ := fractionWritten_of_readFraction hfraction
  obtain ⟨e, rfl, he⟩ := exponentWritten_of_readExponent hexponent
  refine ⟨(if negative then ['-'] else []) ++ (whole ++ (f ++ e)), ?_, ⟨hne, hdigits⟩,
    no_leading_zero_of_readWhole hwhole, f, e, hf, he, rfl⟩
  simp only [List.append_assoc]

theorem written_of_readNumeral {cs rest : List Char} {n : Numeral}
    (h : readNumeral cs = some (n, rest)) : ∃ t, cs = t ++ rest ∧ n.Written t := by
  unfold readNumeral at h
  split at h
  · exact written_of_readUnsigned h
  · exact written_of_readUnsigned h

/-! ## Documents -/

mutual

/-- The characters are a way to write the document, without white space around it. -/
inductive Document.Written : Document → List Char → Prop
  | null : Document.Written .null ['n', 'u', 'l', 'l']
  | boolTrue : Document.Written (.bool true) ['t', 'r', 'u', 'e']
  | boolFalse : Document.Written (.bool false) ['f', 'a', 'l', 's', 'e']
  | number {n : Numeral} {cs : List Char} : n.Written cs → Document.Written (.number n) cs
  | string {s : List Piece} {cs : List Char} :
      PiecesWritten s cs → Document.Written (.string s) ('"' :: (cs ++ ['"']))
  | emptyArray {ws : List Char} : IsSpaces ws → Document.Written (.array []) ('[' :: (ws ++ [']']))
  | array {ws cs : List Char} {items : List Document} :
      IsSpaces ws → ItemsWritten items cs →
      Document.Written (.array items) ('[' :: (ws ++ (cs ++ [']'])))
  | emptyObject {ws : List Char} :
      IsSpaces ws → Document.Written (.object []) ('\x7b' :: (ws ++ ['\x7d']))
  | object {ws cs : List Char} {members : List (List Piece × Document)} :
      IsSpaces ws → MembersWritten members cs →
      Document.Written (.object members) ('\x7b' :: (ws ++ (cs ++ ['\x7d'])))

/-- One or more items, separated by commas. White space may stand after an item and before the next
one. -/
inductive ItemsWritten : List Document → List Char → Prop
  | last {d : Document} {cs ws : List Char} :
      Document.Written d cs → IsSpaces ws → ItemsWritten [d] (cs ++ ws)
  | cons {d : Document} {items : List Document} {cs ws ws' rest : List Char} :
      Document.Written d cs → IsSpaces ws → IsSpaces ws' → ItemsWritten items rest →
      ItemsWritten (d :: items) (cs ++ (ws ++ ',' :: (ws' ++ rest)))

/-- A key in quotes, a colon and a value. -/
inductive MemberWritten : List Piece × Document → List Char → Prop
  | mk {key : List Piece} {d : Document} {name ws ws' cs : List Char} :
      PiecesWritten key name → IsSpaces ws → IsSpaces ws' → Document.Written d cs →
      MemberWritten (key, d) ('"' :: (name ++ '"' :: (ws ++ ':' :: (ws' ++ cs))))

/-- One or more members, separated by commas. -/
inductive MembersWritten : List (List Piece × Document) → List Char → Prop
  | last {m : List Piece × Document} {cs ws : List Char} :
      MemberWritten m cs → IsSpaces ws → MembersWritten [m] (cs ++ ws)
  | cons {m : List Piece × Document} {members : List (List Piece × Document)}
      {cs ws ws' rest : List Char} :
      MemberWritten m cs → IsSpaces ws → IsSpaces ws' → MembersWritten members rest →
      MembersWritten (m :: members) (cs ++ (ws ++ ',' :: (ws' ++ rest)))

end

/-- A document with white space around it. -/
def Document.Text (d : Document) (cs : List Char) : Prop :=
  ∃ before body after, IsSpaces before ∧ d.Written body ∧ IsSpaces after ∧
    cs = before ++ (body ++ after)

/-! ### Without white space -/

/-- A key of plain characters. -/
theorem piecesWritten_map_char {cs : List Char}
    (h : ∀ c ∈ cs, 0x20 ≤ c.toNat ∧ c ≠ '"' ∧ c ≠ '\\') : PiecesWritten (cs.map .char) cs := by
  induction cs with
  | nil => exact .nil
  | cons c cs ih =>
    obtain ⟨⟨hc, hquote, hslash⟩, hcs⟩ := List.forall_mem_cons.mp h
    exact .cons (.plain hc hquote hslash) (ih hcs)

theorem memberWritten_map_char {key cs : List Char} {d : Document}
    (hkey : ∀ c ∈ key, 0x20 ≤ c.toNat ∧ c ≠ '"' ∧ c ≠ '\\') (hd : d.Written cs) :
    MemberWritten (key.map .char, d) ('"' :: (key ++ '"' :: ':' :: cs)) :=
  .mk (piecesWritten_map_char hkey) isSpaces_nil isSpaces_nil hd

/-- An object with one member. -/
theorem written_singleton {key cs : List Char} {d : Document}
    (hkey : ∀ c ∈ key, 0x20 ≤ c.toNat ∧ c ≠ '"' ∧ c ≠ '\\') (hd : d.Written cs) :
    (Document.object [(key.map .char, d)]).Written
      ('\x7b' :: '"' :: (key ++ '"' :: ':' :: (cs ++ ['\x7d']))) := by
  have h := Document.Written.object isSpaces_nil
    (.last (memberWritten_map_char hkey hd) isSpaces_nil)
  simpa only [List.nil_append, List.append_nil, List.cons_append, List.append_assoc] using h

/-- An object with two members. -/
theorem written_pair {key key' cs cs' : List Char} {d d' : Document}
    (hkey : ∀ c ∈ key, 0x20 ≤ c.toNat ∧ c ≠ '"' ∧ c ≠ '\\') (hd : d.Written cs)
    (hkey' : ∀ c ∈ key', 0x20 ≤ c.toNat ∧ c ≠ '"' ∧ c ≠ '\\') (hd' : d'.Written cs') :
    (Document.object [(key.map .char, d), (key'.map .char, d')]).Written
      ('\x7b' :: '"' :: (key ++ '"' :: ':' :: (cs ++
        ',' :: '"' :: (key' ++ '"' :: ':' :: (cs' ++ ['\x7d']))))) := by
  have h := Document.Written.object isSpaces_nil (.cons (memberWritten_map_char hkey hd)
    isSpaces_nil isSpaces_nil (.last (memberWritten_map_char hkey' hd') isSpaces_nil))
  simpa only [List.nil_append, List.append_nil, List.cons_append, List.append_assoc] using h

theorem Document.Written.text {d : Document} {cs : List Char} (h : d.Written cs) : d.Text cs :=
  ⟨[], cs, [], isSpaces_nil, h, isSpaces_nil, (List.append_nil cs).symm⟩

end FirewallExporter.Json
