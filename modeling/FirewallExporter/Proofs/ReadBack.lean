import FirewallExporter.Metric.Exposition.Reader
import FirewallExporter.Proofs.Tally

/-!
# Documents can be read back

A document is read line by line, so everything rests on two facts about what is written into a line.
No line break is left in it, because the escapes take the line breaks out of help texts and label
values, and names and numbers have none. And each part of it ends where the writer ended it: a name
before the first character that is none of a name, a label value before the first quote that is not
escaped, and everything else at the end of the line.

What may stand in the help texts and the label values does not matter for this. Names do: a family
can be read back if its name and its label names are made of the characters of names
(`Family.Named`), and a descriptor that passes its check makes only such families.
-/

namespace FirewallExporter

namespace Exposition

/-! ## Escapes -/

theorem escapeHelpChar_of_ne {c : Char} (hslash : c ≠ '\\') (hbreak : c ≠ '\n') :
    escapeHelpChar c = [c] := by
  rw [escapeHelpChar]
  · exact hslash
  · exact hbreak

theorem escapeValueChar_of_ne {c : Char} (hslash : c ≠ '\\') (hbreak : c ≠ '\n')
    (hquote : c ≠ '"') : escapeValueChar c = [c] := by
  rw [escapeValueChar]
  · exact hslash
  · exact hbreak
  · exact hquote

theorem unescapeHelp_cons {c : Char} (hc : c ≠ '\\') (cs : List Char) :
    unescapeHelp (c :: cs) = (unescapeHelp cs).map (c :: ·) := by
  rw [unescapeHelp]
  · exact if_neg hc
  · exact fun _ he ↦ absurd he hc
  · exact fun _ he ↦ absurd he hc

theorem unescapeHelp_escapeHelp (s : String) : unescapeHelp (escapeHelp s) = some s.toList := by
  rw [escapeHelp]
  induction s.toList with
  | nil => rfl
  | cons c cs ih =>
    rw [List.flatMap_cons]
    by_cases hslash : c = '\\'
    · subst hslash
      simp [escapeHelpChar, unescapeHelp, ih]
    · by_cases hbreak : c = '\n'
      · subst hbreak
        simp [escapeHelpChar, unescapeHelp, ih]
      · rw [escapeHelpChar_of_ne hslash hbreak, List.singleton_append, unescapeHelp_cons hslash, ih]
        rfl

/-- A help text is written without line breaks. -/
theorem not_mem_escapeHelp (s : String) : '\n' ∉ escapeHelp s := by
  intro h
  obtain ⟨c, -, hc⟩ := List.mem_flatMap.mp h
  by_cases hslash : c = '\\'
  · simp [escapeHelpChar, hslash] at hc
  · by_cases hbreak : c = '\n'
    · simp [escapeHelpChar, hbreak] at hc
    · rw [escapeHelpChar_of_ne hslash hbreak, List.mem_singleton] at hc
      exact hbreak hc.symm

theorem readValue_cons {c : Char} (hslash : c ≠ '\\') (hquote : c ≠ '"') (cs : List Char) :
    readValue (c :: cs) = (readValue cs).map fun (value, rest) ↦ (c :: value, rest) := by
  rw [readValue]
  · exact if_neg hslash
  · exact fun he ↦ absurd he hquote
  · exact fun _ he ↦ absurd he hslash
  · exact fun _ he ↦ absurd he hslash
  · exact fun _ he ↦ absurd he hslash

/-- A label value is read up to the quote that closes it, whatever stands in it. -/
theorem readValue_escapeValue (s : String) (rest : List Char) :
    readValue (escapeValue s ++ '"' :: rest) = some (s.toList, rest) := by
  rw [escapeValue]
  induction s.toList with
  | nil => rfl
  | cons c cs ih =>
    rw [List.flatMap_cons, List.append_assoc]
    by_cases hslash : c = '\\'
    · subst hslash
      simp [escapeValueChar, readValue, ih]
    · by_cases hbreak : c = '\n'
      · subst hbreak
        simp [escapeValueChar, readValue, ih]
      · by_cases hquote : c = '"'
        · subst hquote
          simp [escapeValueChar, readValue, ih]
        · rw [escapeValueChar_of_ne hslash hbreak hquote, List.singleton_append,
            readValue_cons hslash hquote, ih]
          rfl

/-- A label value is written without line breaks. -/
theorem not_mem_escapeValue (s : String) : '\n' ∉ escapeValue s := by
  intro h
  obtain ⟨c, -, hc⟩ := List.mem_flatMap.mp h
  by_cases hslash : c = '\\'
  · simp [escapeValueChar, hslash] at hc
  · by_cases hbreak : c = '\n'
    · simp [escapeValueChar, hbreak] at hc
    · by_cases hquote : c = '"'
      · simp [escapeValueChar, hquote] at hc
      · rw [escapeValueChar_of_ne hslash hbreak hquote, List.mem_singleton] at hc
        exact hbreak hc.symm

/-! ## Names -/

/-- The text is made of the characters of names. -/
def IsName (s : String) : Prop := ∀ c ∈ s.toList, isNameChar c = true

theorem isName_of_isMetricName {s : String} (h : isMetricName s = true) : IsName s := by
  intro c hc
  rw [isMetricName] at h
  cases hs : s.toList with
  | nil =>
    rw [hs] at hc
    exact absurd hc List.not_mem_nil
  | cons first rest =>
    rw [hs] at h hc
    simp only [Bool.and_eq_true, List.all_eq_true] at h
    rcases List.mem_cons.mp hc with rfl | hc
    · rcases Bool.or_eq_true_iff.mp h.1 with hfirst | hfirst
      · simp [isNameChar, hfirst]
      · simp [isNameChar, hfirst]
    · exact h.2 c hc

theorem isName_of_isLabelName {s : String} (h : isLabelName s = true) : IsName s := by
  intro c hc
  rw [isLabelName] at h
  cases hs : s.toList with
  | nil =>
    rw [hs] at hc
    exact absurd hc List.not_mem_nil
  | cons first rest =>
    rw [hs] at h hc
    simp only [Bool.and_eq_true, List.all_eq_true] at h
    rcases List.mem_cons.mp hc with rfl | hc
    · simp [isNameChar, h.1]
    · rw [isNameChar, h.2 c hc, Bool.true_or]

theorem IsName.not_mem {s : String} (hs : IsName s) {c : Char} (hc : isNameChar c = false) :
    c ∉ s.toList :=
  fun hmem ↦ Bool.false_ne_true (hc.symm.trans (hs c hmem))

/-- A name is read up to the first character that is none of a name. -/
theorem IsName.readName_append {s : String} (hs : IsName s) {c : Char} (hc : isNameChar c = false)
    (rest : List Char) : readName (s.toList ++ c :: rest) = (s.toList, c :: rest) := by
  rw [readName, List.span_eq_takeWhile_dropWhile, List.takeWhile_append_of_pos hs,
    List.dropWhile_append_of_pos hs]
  simp [hc]

/-! ## Labels -/

theorem readLabel_labelChars {l : String × String} (hl : IsName l.1) (rest : List Char) :
    readLabel (labelChars l ++ rest) = some (l, rest) := by
  have hsplit : labelChars l ++ rest =
      l.1.toList ++ '=' :: '"' :: (escapeValue l.2 ++ '"' :: rest) := by
    simp [labelChars]
  rw [hsplit, readLabel, hl.readName_append (by decide)]
  simp [readValue_escapeValue]

theorem readLabels_intercalate {ls : List (String × String)} (hne : ls ≠ [])
    (hls : ∀ l ∈ ls, IsName l.1) {fuel : Nat} (hfuel : ls.length ≤ fuel) (rest : List Char) :
    readLabels fuel (List.intercalate [','] (ls.map labelChars) ++ '\x7d' :: rest) =
      some (ls, rest) := by
  induction ls generalizing fuel with
  | nil => exact absurd rfl hne
  | cons l ls ih =>
    obtain ⟨hl, hls⟩ := List.forall_mem_cons.mp hls
    cases fuel with
    | zero => exact absurd hfuel (Nat.not_succ_le_zero _)
    | succ fuel =>
      rw [readLabels]
      cases ls with
      | nil =>
        rw [List.map_singleton, List.intercalate_singleton, readLabel_labelChars hl]
        rfl
      | cons l' ls =>
        have hrest : List.intercalate [','] ((l :: l' :: ls).map labelChars) ++ '\x7d' :: rest =
            labelChars l ++ ',' :: (List.intercalate [','] ((l' :: ls).map labelChars) ++
              '\x7d' :: rest) := by
          rw [List.map_cons, List.map_cons, List.intercalate_cons_cons]
          simp
        have hread := ih (List.cons_ne_nil l' ls) hls (Nat.le_of_succ_le_succ hfuel)
        rw [hrest, readLabel_labelChars hl]
        simp only [hread, Option.map_some]

/-- There are no more labels than characters to write them. -/
theorem length_le_intercalate (ls : List (String × String)) :
    ls.length ≤ (List.intercalate [','] (ls.map labelChars)).length := by
  induction ls with
  | nil => exact Nat.zero_le _
  | cons l ls ih =>
    have hpos : 1 ≤ (labelChars l).length := by
      rw [labelChars, List.length_append]
      exact Nat.le_add_left _ _
    cases ls with
    | nil => simpa using hpos
    | cons l' ls =>
      rw [List.map_cons, List.map_cons, List.intercalate_cons_cons, List.length_append,
        List.length_append, List.length_cons]
      rw [List.map_cons] at ih
      omega

/-- The line of a series, without the line break at its end. -/
def seriesBody (name : String) (s : Series) : List Char :=
  name.toList ++ labelsChars s.labels ++ ' ' :: s.value.chars

theorem readSeries?_seriesBody {name : String} {s : Series} (hname : IsName name)
    (hlabels : ∀ l ∈ s.labels, IsName l.1) :
    readSeries? (seriesBody name s) = some (.series name (seriesText s)) := by
  obtain ⟨labels, value⟩ := s
  cases labels with
  | nil =>
    rw [seriesBody, labelsChars, List.append_nil, readSeries?, hname.readName_append (by decide)]
    simp [seriesText, Double.text]
  | cons l ls =>
    have hsplit : seriesBody name ⟨l :: ls, value⟩ = name.toList ++ '\x7b' ::
        (List.intercalate [','] ((l :: ls).map labelChars) ++ '\x7d' :: ' ' :: value.chars) := by
      simp [seriesBody, labelsChars]
    have hfuel : (l :: ls).length ≤ (List.intercalate [','] ((l :: ls).map labelChars) ++
        '\x7d' :: ' ' :: value.chars).length := by
      rw [List.length_append]
      exact (length_le_intercalate _).trans (Nat.le_add_right _ _)
    have hread := readLabels_intercalate (List.cons_ne_nil l ls) hlabels hfuel (' ' :: value.chars)
    rw [hsplit, readSeries?, hname.readName_append (by decide)]
    simp only [hread]
    simp [seriesText, Double.text]

theorem readLine?_eq_readSeries? {cs : List Char} (h : cs.head? ≠ some '#') :
    readLine? cs = readSeries? cs := by
  rw [readLine?]
  · rintro cs rfl
    exact h rfl
  · rintro cs rfl
    exact h rfl

theorem head?_seriesBody_ne {name : String} (hname : IsName name) (s : Series) :
    (seriesBody name s).head? ≠ some '#' := by
  rw [seriesBody]
  cases hcs : name.toList with
  | nil => cases s.labels <;> simp [labelsChars]
  | cons c cs =>
    have hc : isNameChar c = true := hname c (hcs ▸ List.mem_cons_self)
    intro he
    rw [Option.some.inj he] at hc
    exact absurd hc (by decide)

theorem IsName.readNamed?_append {s : String} (hs : IsName s) (rest : List Char) :
    readNamed? (s.toList ++ ' ' :: rest) = some (s, rest) := by
  rw [readNamed?, hs.readName_append (by decide)]
  simp

/-! ## Lines -/

/-- The line with the help text. -/
def helpBody (f : Family) : List Char :=
  "# HELP ".toList ++ f.name.toList ++ ' ' :: escapeHelp f.help

/-- The line with the kind. -/
def typeBody (f : Family) : List Char :=
  "# TYPE ".toList ++ f.name.toList ++ ' ' :: f.kind.name.toList

/-- The lines of a family without the line breaks at their ends, each with what is read from it. -/
def familyLines (f : Family) : List (List Char × Line) :=
  (helpBody f, .help f.name f.help) :: (typeBody f, .kind f.name f.kind.name) ::
    f.series.map fun s ↦ (seriesBody f.name s, .series f.name (seriesText s))

theorem familyChars_eq (f : Family) :
    familyChars f = ((familyLines f).map Prod.fst).flatMap (· ++ ['\n']) := by
  rw [familyLines, List.map_cons, List.map_cons, List.flatMap_cons, List.flatMap_cons,
    List.map_map, List.flatMap_map, ← List.append_assoc]
  rfl

theorem readLine?_helpBody {f : Family} (hname : IsName f.name) :
    readLine? (helpBody f) = some (.help f.name f.help) := by
  have hprefix : "# HELP ".toList = ['#', ' ', 'H', 'E', 'L', 'P', ' '] := by decide
  have hbody : helpBody f = '#' :: ' ' :: 'H' :: 'E' :: 'L' :: 'P' :: ' ' ::
      (f.name.toList ++ ' ' :: escapeHelp f.help) :=
    congrArg (· ++ f.name.toList ++ ' ' :: escapeHelp f.help) hprefix
  rw [hbody, readLine?, hname.readNamed?_append]
  simp [unescapeHelp_escapeHelp]

theorem readLine?_typeBody {f : Family} (hname : IsName f.name) :
    readLine? (typeBody f) = some (.kind f.name f.kind.name) := by
  have hprefix : "# TYPE ".toList = ['#', ' ', 'T', 'Y', 'P', 'E', ' '] := by decide
  have hbody : typeBody f = '#' :: ' ' :: 'T' :: 'Y' :: 'P' :: 'E' :: ' ' ::
      (f.name.toList ++ ' ' :: f.kind.name.toList) :=
    congrArg (· ++ f.name.toList ++ ' ' :: f.kind.name.toList) hprefix
  rw [hbody, readLine?, hname.readNamed?_append]
  simp

end Exposition

namespace Double

theorem not_mem_natChars (n : Nat) : '\n' ∉ natChars n := by
  intro h
  exact absurd (Nat.isDigit_of_mem_toDigits (by decide) (by decide) h) (by decide)

theorem not_mem_positional (d : Nat) (p : Int) : '\n' ∉ positional d p := by
  have hdigits := not_mem_natChars d
  cases p with
  | ofNat p => simp [positional, hdigits]
  | negSucc p =>
    rw [positional]
    split_ifs
    · simp [hdigits]
    · have htake (n : Nat) : '\n' ∉ (natChars d).take n := fun h ↦ hdigits (List.mem_of_mem_take h)
      have hdrop (n : Nat) : '\n' ∉ (natChars d).drop n := fun h ↦ hdigits (List.mem_of_mem_drop h)
      simp [htake, hdrop]

/-- A value is written without line breaks. -/
theorem not_mem_chars (v : Double) : '\n' ∉ v.chars := by
  cases v with
  | nan => decide
  | infinity s => cases s <;> decide
  | finite s m e =>
    have hpositional := not_mem_positional (shortest m e).1 (shortest m e).2
    rw [chars]
    split_ifs <;> simp [hpositional]

end Double

namespace Exposition

theorem not_mem_labelsChars {ls : List (String × String)} (hls : ∀ l ∈ ls, IsName l.1) :
    '\n' ∉ labelsChars ls := by
  have hlabel : ∀ l ∈ ls, '\n' ∉ labelChars l := by
    intro l hl
    have hname := (hls l hl).not_mem (c := '\n') (by decide)
    simp [labelChars, hname, not_mem_escapeValue]
  have hjoin : '\n' ∉ List.intercalate [','] (ls.map labelChars) := by
    clear hls
    induction ls with
    | nil => exact List.not_mem_nil
    | cons l ls ih =>
      obtain ⟨hl, hls⟩ := List.forall_mem_cons.mp hlabel
      cases ls with
      | nil => simpa using hl
      | cons l' ls =>
        rw [List.map_cons, List.map_cons, List.intercalate_cons_cons]
        simp only [List.mem_append, not_or]
        exact ⟨⟨hl, by decide⟩, ih hls⟩
  cases ls with
  | nil => exact List.not_mem_nil
  | cons l ls =>
    simp only [labelsChars, List.mem_cons, List.mem_append, not_or]
    exact ⟨by decide, hjoin, by decide, List.not_mem_nil⟩

theorem not_mem_seriesBody {name : String} {s : Series} (hname : IsName name)
    (hlabels : ∀ l ∈ s.labels, IsName l.1) : '\n' ∉ seriesBody name s := by
  have hname' := hname.not_mem (c := '\n') (by decide)
  simp [seriesBody, hname', not_mem_labelsChars hlabels, s.value.not_mem_chars]

end Exposition

/-! ## Families that can be read back -/

/-- The name of the family and those of its labels are made of the characters of names. -/
structure Family.Named (f : Family) : Prop where
  name : Exposition.IsName f.name
  labels : ∀ sr ∈ f.series, ∀ l ∈ sr.labels, Exposition.IsName l.1

namespace Exposition

theorem not_mem_helpBody {f : Family} (hname : IsName f.name) : '\n' ∉ helpBody f := by
  have hprefix : '\n' ∉ "# HELP ".toList := by decide
  have hrest : '\n' ∉ ' ' :: escapeHelp f.help :=
    List.not_mem_cons_of_ne_of_not_mem (by decide) (not_mem_escapeHelp f.help)
  exact List.not_mem_append (List.not_mem_append hprefix (hname.not_mem (by decide))) hrest

theorem not_mem_typeBody {f : Family} (hname : IsName f.name) : '\n' ∉ typeBody f := by
  have hprefix : '\n' ∉ "# TYPE ".toList := by decide
  have hkind : '\n' ∉ f.kind.name.toList := by cases f.kind <;> decide
  have hrest : '\n' ∉ ' ' :: f.kind.name.toList :=
    List.not_mem_cons_of_ne_of_not_mem (by decide) hkind
  exact List.not_mem_append (List.not_mem_append hprefix (hname.not_mem (by decide))) hrest

/-- **A line is read as what it was written for**, and it is one line. -/
theorem forall_mem_familyLines {f : Family} (hf : f.Named) :
    ∀ l ∈ familyLines f, '\n' ∉ l.1 ∧ readLine? l.1 = some l.2 := by
  refine List.forall_mem_cons.mpr ⟨⟨not_mem_helpBody hf.name, readLine?_helpBody hf.name⟩, ?_⟩
  refine List.forall_mem_cons.mpr ⟨⟨not_mem_typeBody hf.name, readLine?_typeBody hf.name⟩, ?_⟩
  refine List.forall_mem_map.mpr fun sr hsr ↦
    ⟨not_mem_seriesBody hf.name (hf.labels sr hsr), ?_⟩
  rw [readLine?_eq_readSeries? (head?_seriesBody_ne hf.name sr),
    readSeries?_seriesBody hf.name (hf.labels sr hsr)]

theorem lines?_append {line : List Char} (hline : '\n' ∉ line) (cs : List Char) :
    lines? (line ++ '\n' :: cs) = (lines? cs).map (line :: ·) := by
  induction line with
  | nil => rw [List.nil_append, lines?, if_pos rfl]
  | cons c line ih =>
    rw [List.mem_cons, not_or] at hline
    rw [List.cons_append, lines?, if_neg (Ne.symm hline.1), ih hline.2]
    cases lines? cs with
    | none => rfl
    | some lines => rfl

theorem lines?_flatMap {lines : List (List Char)} (h : ∀ line ∈ lines, '\n' ∉ line) :
    lines? (lines.flatMap (· ++ ['\n'])) = some lines := by
  induction lines with
  | nil => rfl
  | cons line lines ih =>
    obtain ⟨hline, hlines⟩ := List.forall_mem_cons.mp h
    rw [List.flatMap_cons, List.append_assoc, List.singleton_append, lines?_append hline,
      ih hlines]
    rfl

theorem mapM_readLine? {lines : List (List Char × Line)}
    (h : ∀ l ∈ lines, readLine? l.1 = some l.2) :
    (lines.map Prod.fst).mapM readLine? = some (lines.map Prod.snd) := by
  induction lines with
  | nil => rfl
  | cons l lines ih =>
    obtain ⟨hl, hlines⟩ := List.forall_mem_cons.mp h
    rw [List.map_cons, List.mapM_cons, hl, ih hlines]
    rfl

/-! ## Documents -/

/-- The lines of series fill up the family that was read last. -/
theorem foldlM_addLine_series {f : FamilyText} (hkind : f.kind ≠ "") (fs : List FamilyText)
    (ss : List SeriesText) : (ss.map (Line.series f.name)).foldlM addLine (f :: fs) =
      some ({ f with series := f.series ++ ss } :: fs) := by
  induction ss generalizing f with
  | nil => rw [List.append_nil]; rfl
  | cons s ss ih =>
    have hfirst : addLine (f :: fs) (.series f.name s) =
        some ({ f with series := f.series ++ [s] } :: fs) := if_pos ⟨rfl, hkind⟩
    have hrest := @ih { f with series := f.series ++ [s] } hkind
    rw [List.map_cons, List.foldlM_cons, hfirst, Option.bind_eq_bind, Option.bind_some, hrest]
    simp

/-- The lines of a family make this family. -/
theorem foldlM_addLine_family (f : Family) (fs : List FamilyText) :
    ((familyLines f).map Prod.snd).foldlM addLine fs = some (familyText f :: fs) := by
  have hkind : f.kind.name ≠ "" := by cases f.kind <;> decide
  have hhelp : addLine fs (.help f.name f.help) = some (⟨f.name, f.help, "", []⟩ :: fs) := rfl
  have htype : addLine (⟨f.name, f.help, "", []⟩ :: fs) (.kind f.name f.kind.name) =
      some (⟨f.name, f.help, f.kind.name, []⟩ :: fs) := if_pos ⟨rfl, rfl⟩
  have hseries := @foldlM_addLine_series ⟨f.name, f.help, f.kind.name, []⟩ hkind fs
    (f.series.map seriesText)
  rw [List.map_map] at hseries
  rw [familyLines, List.map_cons, List.map_cons, List.foldlM_cons, hhelp, Option.bind_eq_bind,
    Option.bind_some, List.foldlM_cons, htype, Option.bind_eq_bind, Option.bind_some,
    List.map_map]
  exact hseries

theorem foldlM_addLine (gs : List Family) (fs : List FamilyText) :
    ((gs.flatMap familyLines).map Prod.snd).foldlM addLine fs =
      some ((gs.map familyText).reverse ++ fs) := by
  induction gs generalizing fs with
  | nil => rfl
  | cons g gs ih =>
    rw [List.flatMap_cons, List.map_append, List.foldlM_append, foldlM_addLine_family,
      Option.bind_eq_bind, Option.bind_some, ih]
    simp

/-- **A document is read back as it was written**, line by line. -/
theorem read?_render {fs : List Family} (h : ∀ f ∈ fs, f.Named) :
    lines? (render fs).toList = some ((fs.flatMap familyLines).map Prod.fst) ∧
      read? (render fs) = some (fs.map familyText) := by
  have hall : ∀ l ∈ fs.flatMap familyLines, '\n' ∉ l.1 ∧ readLine? l.1 = some l.2 := by
    intro l hl
    obtain ⟨f, hf, hl⟩ := List.mem_flatMap.mp hl
    exact forall_mem_familyLines (h f hf) l hl
  have hchars : (render fs).toList =
      ((fs.flatMap familyLines).map Prod.fst).flatMap (· ++ ['\n']) := by
    rw [render, String.toList_ofList, List.map_flatMap, List.flatMap_assoc]
    exact List.flatMap_congr fun f _ ↦ familyChars_eq f
  have hlines : lines? (render fs).toList = some ((fs.flatMap familyLines).map Prod.fst) := by
    rw [hchars]
    refine lines?_flatMap fun line hline ↦ ?_
    obtain ⟨l, hl, rfl⟩ := List.mem_map.mp hline
    exact (hall l hl).1
  refine ⟨hlines, ?_⟩
  rw [read?, hlines, Option.bind_eq_bind, Option.bind_some,
    mapM_readLine? fun l hl ↦ (hall l hl).2, Option.bind_eq_bind, Option.bind_some,
    foldlM_addLine]
  simp

end Exposition

/-! ## The families of a document -/

namespace Descriptor

theorem isLabelName_of_checkLabels {seen ls : List String} (h : checkLabels seen ls = .ok ()) :
    ∀ l ∈ ls, isLabelName l = true := by
  induction ls generalizing seen with
  | nil => exact List.forall_mem_nil _
  | cons l ls ih =>
    rw [checkLabels] at h
    split_ifs at h with hl hseen
    exact List.forall_mem_cons.mpr ⟨hl, ih h⟩

theorem mem_of_mem_labelPairs {names values : List String} {l : String × String}
    (h : l ∈ labelPairs names values) : l.1 ∈ names := by
  rw [labelPairs, sortByText, List.mem_mergeSort] at h
  exact (List.of_mem_zip h).1

/-- The families of a descriptor that passes its check can be read back. -/
theorem named_family {d : Descriptor} (hd : d.check = .ok ()) (samples : List Sample) :
    (d.family samples).Named := by
  rw [check] at hd
  split_ifs at hd with hhelp hname
  refine ⟨Exposition.isName_of_isMetricName hname, fun sr hsr l hl ↦ ?_⟩
  obtain ⟨r, -, rfl⟩ := mem_series_family.mp hsr
  exact Exposition.isName_of_isLabelName
    (isLabelName_of_checkLabels hd l.1 (mem_of_mem_labelPairs hl))

end Descriptor

theorem named_of_mem_passFamilies {descriptors : SortedTable String Descriptor}
    {samples : List Sample} {fs : List Family} (hfs : passFamilies descriptors samples = .ok fs)
    {f : Family} (hf : f ∈ fs) : f.Named := by
  obtain ⟨hseries, name, d, hget, rfl⟩ := (mem_passFamilies hfs).mp hf
  obtain ⟨sr, hsr⟩ := List.exists_mem_of_ne_nil _ hseries
  obtain ⟨r, hr, -⟩ := mem_series_family.mp hsr
  obtain ⟨x, hx, -⟩ := Descriptor.exists_sample_of_mem_readings hr
  obtain ⟨hmem, hname⟩ := List.mem_filter.mp (List.mem_of_mem_filter hx)
  rw [← beq_iff_eq.mp hname] at hget
  exact Descriptor.named_family (check_of_passFamilies hfs hmem hget) _

theorem ProcessReading.named_of_mem_families {r : ProcessReading} {f : Family}
    (hf : f ∈ r.families) : f.Named := by
  have hnames : ∀ name ∈ r.families.map Family.name, isMetricName name = true := by
    change ∀ name ∈ ["process_cpu_seconds_total", "process_max_fds", "process_open_fds",
      "process_resident_memory_bytes", "process_start_time_seconds", "process_threads",
      "process_virtual_memory_bytes"], isMetricName name = true
    decide
  have hseries : ∀ f ∈ r.families, ∃ v, f.series = [⟨[], v⟩] := by simp [families]
  refine ⟨Exposition.isName_of_isMetricName (hnames _ (List.mem_map_of_mem hf)),
    fun sr hsr l hl ↦ ?_⟩
  obtain ⟨v, hv⟩ := hseries f hf
  rw [hv, List.mem_singleton] at hsr
  rw [hsr] at hl
  exact absurd hl List.not_mem_nil

/-- The exporter's own families can be read back, whatever the name of the instance and those of the
endpoints are. -/
theorem Tally.named_of_mem_families {t : Tally} {f : Family} (hf : f ∈ t.families) : f.Named := by
  rcases mem_own_or_process hf with hf | ⟨r, -, hf⟩
  · have hnames : ∀ name ∈ ownNames, isMetricName name = true := by decide
    have hlabels : ∀ name ∈ ["endpoint", Descriptor.instanceLabel], isLabelName name = true := by
      decide
    have hseries : ∀ sr ∈ f.series, ∀ l ∈ sr.labels,
        l.1 ∈ ["endpoint", Descriptor.instanceLabel] := by
      simp only [ownFamilies, List.mem_cons, List.not_mem_nil, or_false] at hf
      rcases hf with rfl | rfl | rfl | rfl
      · intro sr hsr l hl
        obtain ⟨e, -, rfl⟩ := List.mem_map.mp hsr
        rcases List.mem_cons.mp hl with rfl | hl
        · exact List.mem_cons_self
        · rw [List.mem_singleton.mp hl]
          exact List.mem_cons_of_mem _ List.mem_cons_self
      · simp [scrapesFamily, instancePair]
      · simp [firewallFamily, instancePair]
      · simp [upFamily, instancePair]
    refine ⟨Exposition.isName_of_isMetricName (hnames _ (name_mem_ownNames hf)),
      fun sr hsr l hl ↦ ?_⟩
    exact Exposition.isName_of_isLabelName (hlabels _ (hseries sr hsr l hl))
  · exact ProcessReading.named_of_mem_families hf

/-! ## The law of reading back -/

theorem Tally.named_of_mem_append {descriptors : SortedTable String Descriptor}
    {samples : List Sample} {fs : List Family} (hfs : passFamilies descriptors samples = .ok fs)
    {t : Tally} {f : Family} (hf : f ∈ fs ++ t.families) : f.Named := by
  rcases List.mem_append.mp hf with hf | hf
  · exact named_of_mem_passFamilies hfs hf
  · exact named_of_mem_families hf

theorem Tally.passDocument_eq_ok {descriptors : SortedTable String Descriptor}
    {samples : List Sample} {fs : List Family} (hfs : passFamilies descriptors samples = .ok fs)
    (t : Tally) : t.passDocument descriptors samples = .ok (Exposition.render (fs ++ t.families)) :=
  congrArg (Except.map _) hfs

/-- The families of samples and those of a tally can be read back. -/
theorem Tally.read?_render_append {descriptors : SortedTable String Descriptor}
    {samples : List Sample} {fs : List Family} (hfs : passFamilies descriptors samples = .ok fs)
    (t : Tally) : Exposition.read? (Exposition.render (fs ++ t.families)) =
      some ((fs ++ t.families).map Exposition.familyText) :=
  (Exposition.read?_render fun _ ↦ named_of_mem_append hfs).2

/-- Where samples make families, the document is read back as these and those of the tally. -/
theorem Tally.exists_read?_eq {descriptors : SortedTable String Descriptor} {samples : List Sample}
    {fs : List Family} (hfs : passFamilies descriptors samples = .ok fs) (t : Tally) :
    ∃ text, t.passDocument descriptors samples = .ok text ∧
      Exposition.read? text = some ((fs ++ t.families).map Exposition.familyText) :=
  ⟨_, t.passDocument_eq_ok hfs, t.read?_render_append hfs⟩

/-- **What a document says is what it was made of.** Whatever stands in the help texts, in the label
values and in the name of the instance, the document is read back as the families of the samples and
those of the tally, with as many lines as these have. -/
theorem Tally.read?_passDocument {t : Tally} {descriptors : SortedTable String Descriptor}
    {samples : List Sample} {text : String} (h : t.passDocument descriptors samples = .ok text) :
    ∃ fs, passFamilies descriptors samples = .ok fs ∧
      text = Exposition.render (fs ++ t.families) ∧
      Exposition.read? text = some ((fs ++ t.families).map Exposition.familyText) ∧
      ∃ lines, Exposition.lines? text.toList = some lines ∧
        lines.length = ((fs ++ t.families).map fun f ↦ f.series.length + 2).sum := by
  rw [passDocument] at h
  cases hfs : passFamilies descriptors samples with
  | error fault =>
    rw [hfs] at h
    cases h
  | ok fs =>
    rw [hfs] at h
    obtain rfl := Except.ok.inj h
    obtain ⟨hlines, hread⟩ := Exposition.read?_render fun _ ↦ named_of_mem_append (t := t) hfs
    refine ⟨fs, rfl, rfl, hread, _, hlines, ?_⟩
    have hlength : ∀ f, (Exposition.familyLines f).length = f.series.length + 2 := by
      simp [Exposition.familyLines]
    rw [List.length_map, List.length_flatMap]
    simp only [hlength]

/-- A metric whose help text has everything in it that must be escaped. -/
def Descriptor.quoted : Descriptor := .gauge "quoted" "texts" "a \\ and a\nbreak" ["disk"]

/-- The table that has nothing but this metric. -/
def Descriptor.quotedTable : SortedTable String Descriptor := [(quoted.name, quoted)]

/-- A sample of it with a label value that looks like the end of its line and another line. -/
def Sample.quoted : Sample where
  name := Descriptor.quoted.name
  labels := ["\"\x7d 1\nopnsense_up\x7bdisk=\"C:\\", "fw, 1"]
  value := Double.ofNat 1

/-- A tally of an instance with quotes in its name. -/
def Tally.quoted : Tally := .fresh "\"fw\"" [] none

theorem Descriptor.series_quoted : (quoted.family [.quoted]).series =
    [⟨[("disk", "\"\x7d 1\nopnsense_up\x7bdisk=\"C:\\"), ("opnsense_instance", "fw, 1")],
      Double.ofNat 1⟩] := by
  have hreadings : quoted.readings [.quoted] = [(Sample.quoted.labels, Double.ofNat 1)] := by
    decide +kernel
  have hpairs : labelPairs quoted.labels Sample.quoted.labels =
      quoted.labels.zip Sample.quoted.labels := by
    rw [labelPairs, sortByText, List.mergeSort_of_pairwise]
    decide +kernel
  rw [family, hreadings, sortSeries, List.map_singleton, List.mergeSort_singleton, hpairs]
  rfl

theorem Tally.read?_passDocument_quoted :
    ∃ text, Tally.quoted.passDocument Descriptor.quotedTable [.quoted] = .ok text ∧
      ∃ fs : List Family,
        Exposition.read? text = some ((fs ++ Tally.quoted.families).map Exposition.familyText) ∧
        fs.map Exposition.familyText = [⟨"opnsense_quoted_texts", "a \\ and a\nbreak", "gauge",
          [⟨[("disk", "\"\x7d 1\nopnsense_up\x7bdisk=\"C:\\"),
            ("opnsense_instance", "fw, 1")], "1"⟩]⟩] := by
  have hwell : WellFormed Descriptor.quotedTable := by
    intro name d hd
    obtain ⟨rfl, rfl⟩ := Prod.mk.inj (List.mem_singleton.mp (SortedTable.mem_of_get? hd))
    exact ⟨rfl, by decide⟩
  have hnames : sampleNames [.quoted] = [Descriptor.quoted.name] := by decide +kernel
  have hget : Descriptor.quotedTable.get? Descriptor.quoted.name = some .quoted := by
    decide +kernel
  have hfamily : familyOf? Descriptor.quotedTable [.quoted] Descriptor.quoted.name =
      some (Descriptor.quoted.family [.quoted]) := by
    rw [familyOf?, hget]
    rfl
  have hfs := hwell.passFamilies [.quoted]
  rw [hnames, List.filterMap_cons_some hfamily, List.filterMap_nil, List.filter_singleton,
    Descriptor.series_quoted] at hfs
  have htext : Tally.quoted.passDocument Descriptor.quotedTable [.quoted] =
      .ok (Exposition.render ([Descriptor.quoted.family [.quoted]] ++ Tally.quoted.families)) := by
    rw [passDocument, hfs]
    rfl
  obtain ⟨fs, hfs', -, hread, -⟩ := read?_passDocument htext
  refine ⟨_, htext, fs, hread, ?_⟩
  rw [← Except.ok.inj (hfs.symm.trans hfs')]
  change [Exposition.familyText (Descriptor.quoted.family [.quoted])] = _
  rw [Exposition.familyText, Descriptor.series_quoted]
  rfl

end FirewallExporter
