import FirewallExporter.Settings.DotEnv
import Mathlib

/-!
# Writing files of variables

Whatever variables are to be set, there is a file that sets them (`load?_write`): the values go
between double quotes, where a backslash takes away the meaning of the next character. Loading the
file adds to an environment what is not there yet.
-/

namespace FirewallExporter.Settings.DotEnv

open FirewallExporter.Text

/-! ## Writing -/

/-- A character of a value between double quotes. -/
def quoteChar : Char → List Char
  | '\\' => ['\\', '\\']
  | '"' => ['\\', '"']
  | '$' => ['\\', '$']
  | '\n' => ['\\', 'n']
  | c => [c]

/-- An assignment on a line of its own, without the line break. -/
def assignmentChars (e : String × String) : List Char :=
  e.1.toList ++ '=' :: '"' :: (e.2.toList.flatMap quoteChar ++ ['"'])

/-- A file with these assignments. -/
def write (as : Environment) : String :=
  String.ofList (as.flatMap fun e ↦ assignmentChars e ++ ['\n'])

/-- A character is written behind a backslash, or stands for itself. -/
theorem quoteChar_cases (c : Char) :
    (∃ d, quoteChar c = ['\\', d] ∧
      (d = 'n' ∧ c = '\n' ∨ d = c ∧ (c = '\\' ∨ c = '"' ∨ c = '$'))) ∨
    (quoteChar c = [c] ∧ c ≠ '\\' ∧ c ≠ '"' ∧ c ≠ '$' ∧ c ≠ '\n') := by
  rw [quoteChar.eq_def]
  split
  · exact .inl ⟨_, rfl, .inr ⟨rfl, .inl rfl⟩⟩
  · exact .inl ⟨_, rfl, .inr ⟨rfl, .inr (.inl rfl)⟩⟩
  · exact .inl ⟨_, rfl, .inr ⟨rfl, .inr (.inr rfl)⟩⟩
  · exact .inl ⟨_, rfl, .inl ⟨rfl, rfl⟩⟩
  · exact .inr ⟨rfl, ‹_›, ‹_›, ‹_›, ‹_›⟩

theorem not_mem_quoted (value : List Char) : '\n' ∉ value.flatMap quoteChar := by
  intro h
  obtain ⟨c, -, hc⟩ := List.mem_flatMap.mp h
  rcases quoteChar_cases c with ⟨d, hquote, hd⟩ | ⟨hquote, -, -, -, hbreak⟩
  · rw [hquote] at hc
    rcases hd with ⟨rfl, -⟩ | ⟨rfl, rfl | rfl | rfl⟩
    all_goals exact absurd hc (by decide)
  · rw [hquote, List.mem_singleton] at hc
    exact hbreak hc.symm

/-- A letter, a digit, an underscore or a dot. -/
def isNameChar (c : Char) : Bool := c.isAlphanum || c == '_' || c == '.'

/-- A name that an assignment may have. -/
structure IsName (name : String) : Prop where
  start : ∃ c cs, name.toList = c :: cs ∧ (c.isAlpha || c == '_') = true
  chars : ∀ c ∈ name.toList, isNameChar c = true

theorem isBlank_of_isNameChar {c : Char} (h : isNameChar c = true) : isBlank c = false := by
  simp only [isNameChar, Bool.or_eq_true, beq_iff_eq, or_assoc] at h
  rcases h with h | rfl | rfl
  · have hc : c.toNat = c.val.toNat := rfl
    have hA : 'A'.val.toNat = 0x41 ∧ 'Z'.val.toNat = 0x5A := ⟨rfl, rfl⟩
    have ha : 'a'.val.toNat = 0x61 ∧ 'z'.val.toNat = 0x7A := ⟨rfl, rfl⟩
    have h0 : '0'.val.toNat = 0x30 ∧ '9'.val.toNat = 0x39 := ⟨rfl, rfl⟩
    simp only [Char.isAlphanum, Char.isAlpha, Char.isUpper, Char.isLower, Char.isDigit,
      Bool.or_eq_true, Bool.and_eq_true, decide_eq_true_eq, UInt32.le_iff_toNat_le, ge_iff_le] at h
    rw [isBlank]
    simp only [Bool.or_eq_false_iff, Bool.and_eq_false_iff, decide_eq_false_iff_not,
      beq_eq_false_iff_ne]
    omega
  · decide
  · decide

theorem ne_of_isNameChar {c d : Char} (hc : isNameChar c = true) (hd : isNameChar d = false) :
    c ≠ d := by
  rintro rfl
  exact Bool.false_ne_true (hd.symm.trans hc)

theorem IsName.not_mem {name : String} (h : IsName name) {d : Char} (hd : isNameChar d = false) :
    d ∉ name.toList := fun hmem ↦ ne_of_isNameChar (h.chars d hmem) hd rfl

/-! ## Lines -/

theorem physicalLines_append {l : List Char} (hl : '\n' ∉ l) (rest : List Char) :
    physicalLines (l ++ '\n' :: rest) = (l ++ ['\n']) :: physicalLines rest := by
  induction l with
  | nil => rfl
  | cons c l ih =>
    obtain ⟨hc, hl⟩ := not_or.mp fun h ↦ hl (List.mem_cons.mpr h)
    rw [List.cons_append, physicalLines, if_neg (Ne.symm hc), ih hl]
    rfl

theorem physicalLines_flatMap {ls : List (List Char)} (h : ∀ l ∈ ls, '\n' ∉ l) :
    physicalLines (ls.flatMap (· ++ ['\n'])) = ls.map (· ++ ['\n']) := by
  induction ls with
  | nil => rfl
  | cons l ls ih =>
    obtain ⟨hl, hls⟩ := List.forall_mem_cons.mp h
    rw [List.flatMap_cons, List.append_assoc, List.singleton_append, physicalLines_append hl,
      ih hls, List.map_cons]

theorem scanLine_cons {q : Quoting} {c : Char} (h : q.step c ≠ .comment) (cs : List Char) :
    (scanLine q (c :: cs)).1 = (scanLine (q.step c) cs).1 := by
  rw [scanLine, if_neg h]

/-- Letters and the like leave the end of a line where it is. -/
theorem scanLine_name {name : List Char} (hname : ∀ c ∈ name, isNameChar c = true)
    (cs : List Char) : (scanLine .complete (name ++ cs)).1 = (scanLine .complete cs).1 := by
  induction name with
  | nil => rfl
  | cons c name ih =>
    obtain ⟨hc, hname⟩ := List.forall_mem_cons.mp hname
    have hstep : Quoting.step .complete c = .complete := by
      rw [Quoting.step, isBlank_of_isNameChar hc, Bool.false_and, Bool.false_and,
        if_neg Bool.false_ne_true, if_neg (ne_of_isNameChar hc (by decide)),
        if_neg (ne_of_isNameChar hc (by decide)), if_neg (ne_of_isNameChar hc (by decide))]
    rw [List.cons_append, scanLine_cons (by rw [hstep]; decide), hstep, ih hname]

/-- A quoted value leaves the end of a line between the quotes. -/
theorem scanLine_quoted (value cs : List Char) :
    (scanLine .weak (value.flatMap quoteChar ++ cs)).1 = (scanLine .weak cs).1 := by
  induction value with
  | nil => rfl
  | cons c value ih =>
    rw [List.flatMap_cons, List.append_assoc]
    rcases quoteChar_cases c with ⟨d, hquote, -⟩ | ⟨hquote, hslash, hend, -, -⟩
    · rw [hquote]
      exact ih
    · have hstep : Quoting.step .weak c = .weak := by
        rw [Quoting.step, if_neg hslash, if_neg hend]
      rw [hquote, List.singleton_append, scanLine_cons (by rw [hstep]; decide), hstep, ih]

section Assignment

variable {e : String × String} (he : IsName e.1)

include he

theorem scanLine_assignmentChars :
    (scanLine .complete (assignmentChars e ++ ['\n'])).1 = .complete := by
  rw [assignmentChars, List.append_assoc, scanLine_name he.chars, List.cons_append,
    List.cons_append, List.append_assoc]
  exact scanLine_quoted e.2.toList _

theorem not_mem_assignmentChars : '\n' ∉ assignmentChars e := by
  have hvalue := not_mem_quoted e.2.toList
  have hname : '\n' ∉ e.1.toList := he.not_mem (by decide)
  simp [assignmentChars, hname, hvalue]

/-- An assignment starts with a character of its name. -/
theorem exists_assignmentChars (cs : List Char) :
    ∃ c cs', assignmentChars e ++ cs = c :: cs' ∧ isNameChar c = true := by
  obtain ⟨c, name, hname, -⟩ := he.start
  have hc : isNameChar c = true := he.chars c (by rw [hname]; exact List.mem_cons_self)
  rw [assignmentChars, hname, List.cons_append, List.cons_append]
  exact ⟨c, _, rfl, hc⟩

theorem head?_assignmentChars {d : Char} (hd : isNameChar d = false) (cs : List Char) :
    (assignmentChars e ++ cs).head? ≠ some d := by
  obtain ⟨c, cs', hcons, hc⟩ := exists_assignmentChars he cs
  rw [hcons]
  exact fun h ↦ ne_of_isNameChar hc hd (Option.some.inj h)

theorem trimStart_assignmentChars (cs : List Char) :
    trimStart (assignmentChars e ++ cs) = assignmentChars e ++ cs := by
  obtain ⟨c, cs', hcons, hc⟩ := exists_assignmentChars he cs
  rw [hcons, trimStart, List.dropWhile_cons_of_neg (by rw [isBlank_of_isNameChar hc]; exact nofun)]

end Assignment

theorem chomp_assignmentChars (e : String × String) :
    chomp (assignmentChars e ++ ['\n']) = assignmentChars e := by
  have hreverse : (assignmentChars e ++ ['\n']).reverse =
      '\n' :: '"' :: (e.1.toList ++ '=' :: '"' :: e.2.toList.flatMap quoteChar).reverse := by
    simp [assignmentChars]
  rw [chomp, hreverse]
  simp [assignmentChars]

/-- The lines of a file that was written are its assignments. -/
theorem logicalLines_write {as : Environment} (has : ∀ e ∈ as, IsName e.1) :
    logicalLines .complete [] (physicalLines (write as).toList) =
      as.map fun e ↦ some (assignmentChars e) := by
  have hlines : (write as).toList = (as.map assignmentChars).flatMap (· ++ ['\n']) := by
    rw [write, String.toList_ofList, List.flatMap_map]
  rw [hlines, physicalLines_flatMap (List.forall_mem_map.mpr fun e he ↦
    not_mem_assignmentChars (has e he)), List.map_map]
  clear hlines
  induction as with
  | nil => rfl
  | cons e as ih =>
    obtain ⟨he, has⟩ := List.forall_mem_cons.mp has
    have hscan := scanLine_assignmentChars he
    rw [List.map_cons, logicalLines, List.nil_append, Function.comp_apply,
      trimStart_assignmentChars he, if_neg (head?_assignmentChars he (by decide) _)]
    simp only [hscan, if_true, chomp_assignmentChars]
    rw [ih has, List.map_cons]

/-! ## Values -/

/-- A value is read up to the quote that closes it. -/
theorem readValue_quoted (lookup : Lookup) (value output cs : List Char) :
    readValue lookup ⟨false, true, false, false, .none, [], output⟩
      (value.flatMap quoteChar ++ cs) =
    readValue lookup ⟨false, true, false, false, .none, [], output ++ value⟩ cs := by
  induction value generalizing output with
  | nil => rw [List.append_nil]; rfl
  | cons c value ih =>
    rw [List.flatMap_cons, List.append_assoc]
    rcases quoteChar_cases c with ⟨d, hquote, hd⟩ | ⟨hquote, hslash, hend, hdollar, -⟩
    · -- The backslash is left out, and what it stands in front of is taken for itself.
      have hstep : Reading.step lookup ⟨false, true, true, false, .none, [], output⟩ d =
          some (⟨false, true, false, false, .none, [], output ++ [c]⟩, false) := by
        rcases hd with ⟨rfl, rfl⟩ | ⟨rfl, rfl | rfl | rfl⟩ <;> rfl
      have hslash : Reading.step lookup ⟨false, true, false, false, .none, [], output⟩ '\\' =
          some (⟨false, true, true, false, .none, [], output⟩, false) := rfl
      rw [hquote, List.cons_append, readValue, hslash]
      simp only
      rw [List.singleton_append, readValue, hstep]
      simp only
      rw [ih, List.append_assoc, List.singleton_append]
    · have hstep : Reading.step lookup ⟨false, true, false, false, .none, [], output⟩ c =
          some (⟨false, true, false, false, .none, [], output ++ [c]⟩, false) := by
        simp [Reading.step, hdollar, hend, hslash]
      rw [hquote, List.singleton_append, readValue, hstep]
      simp only
      rw [ih, List.append_assoc, List.singleton_append]

/-- At the end of a value stands what a variable without a name has, which is nothing. -/
theorem readValue_assigned {lookup : Lookup} (hlookup : lookup "" = "") (value : List Char) :
    readValue lookup .start ('"' :: (value.flatMap quoteChar ++ ['"'])) = some value := by
  have hopen : Reading.step lookup .start '"' =
      some (⟨false, true, false, false, .none, [], []⟩, false) := rfl
  have hclose : Reading.step lookup ⟨false, true, false, false, .none, [], value⟩ '"' =
      some (⟨false, false, false, false, .none, [], value⟩, false) := rfl
  rw [readValue, hopen]
  simp only
  rw [readValue_quoted, List.nil_append, readValue, hclose]
  simp only
  rw [readValue, Reading.apply, String.ofList_nil, hlookup]
  simp

/-! ## Assignments -/

theorem readName_append {name : String} (h : IsName name) {c : Char} (hc : isNameChar c = false)
    (cs : List Char) : readName (name.toList ++ c :: cs) = some (name.toList, c :: cs) := by
  obtain ⟨first, rest, hname, hfirst⟩ := h.start
  have hspan : (name.toList ++ c :: cs).span isNameChar = (name.toList, c :: cs) := by
    rw [List.span_eq_takeWhile_dropWhile, List.takeWhile_append_of_pos h.chars,
      List.dropWhile_append_of_pos h.chars, List.takeWhile_cons_of_neg (by simp [hc]),
      List.dropWhile_cons_of_neg (by simp [hc]), List.append_nil]
  rw [hname, List.cons_append] at hspan ⊢
  rw [readName, if_pos hfirst]
  exact congrArg some hspan

theorem readHead_assigned {name : String} (h : IsName name) (cs : List Char) :
    readHead (name.toList ++ '=' :: cs) = some (name.toList, cs) := by
  have hequals : readEquals ('=' :: cs) = some cs := rfl
  rw [readHead, readName_append h (by decide), Option.bind_eq_bind, Option.bind_some]
  simp only [hequals]
  split_ifs <;> rfl

theorem readLine_assignmentChars {e : String × String} (he : IsName e.1) {lookup : Lookup}
    (hlookup : lookup "" = "") : readLine lookup (assignmentChars e) = .assignment e.1 e.2 := by
  have hends : assignmentChars e =
      (e.1.toList ++ '=' :: '"' :: e.2.toList.flatMap quoteChar) ++ ['"'] := by
    simp [assignmentChars]
  have htrimEnd : trimEnd (assignmentChars e) = assignmentChars e := by
    rw [hends, trimEnd, dropEndWhile, List.reverse_concat,
      List.dropWhile_cons_of_neg (by decide), List.reverse_cons, List.reverse_reverse]
  have htrim := trimStart_assignmentChars he []
  have hhead : (assignmentChars e ++ []).head? ≠ some '#' := head?_assignmentChars he (by decide) _
  rw [List.append_nil] at htrim hhead
  have hne : assignmentChars e ≠ [] := by rw [hends]; exact List.concat_ne_nil _ _
  have hread : readHead (assignmentChars e) =
      some (e.1.toList, '"' :: (e.2.toList.flatMap quoteChar ++ ['"'])) := readHead_assigned he _
  have hquote (cs : List Char) : trimStart ('"' :: cs) = '"' :: cs := rfl
  rw [readLine, htrimEnd, htrim, if_neg (not_or.mpr ⟨hne, hhead⟩), hread]
  simp only [hquote]
  rw [if_neg (by simp), readValue_assigned hlookup]
  simp

/-! ## Environments -/

/-- What assignments add to an environment: those of names that are not set yet. -/
def fresh (env : Environment) : Environment → Environment
  | [] => []
  | e :: as => if (env.lookup e.1).isSome then fresh env as else e :: fresh (env ++ [e]) as

/-- What is set already stays, and of several assignments to a name the first counts. -/
theorem lookup_append_fresh (env as : Environment) (name : String) :
    (env ++ fresh env as).lookup name = (env.lookup name).or (as.lookup name) := by
  induction as generalizing env with
  | nil => rw [fresh, List.append_nil, List.lookup_nil, Option.or_none]
  | cons e as ih =>
    rw [fresh, List.lookup_cons]
    by_cases he : (env.lookup e.1).isSome = true
    · rw [if_pos he, ih]
      cases hname : name == e.1 with
      | false => rfl
      | true => rw [beq_iff_eq.mp hname, Option.or_of_isSome he, Option.or_of_isSome he]
    · rw [if_neg he, ← List.singleton_append, ← List.append_assoc, ih, List.lookup_append,
        Option.or_assoc, List.lookup_cons, List.lookup_nil]
      cases name == e.1 <;> rfl

theorem mem_of_mem_fresh {env as : Environment} {e : String × String} (h : e ∈ fresh env as) :
    e ∈ as ∧ env.lookup e.1 = none := by
  induction as generalizing env with
  | nil => exact absurd h List.not_mem_nil
  | cons e' as ih =>
    rw [fresh] at h
    split_ifs at h with he'
    · exact (ih h).imp_left (List.mem_cons_of_mem _)
    · rcases List.mem_cons.mp h with rfl | h
      · exact ⟨List.mem_cons_self, Option.not_isSome_iff_eq_none.mp he'⟩
      · obtain ⟨hmem, hnone⟩ := ih h
        rw [List.lookup_append, Option.or_eq_none_iff] at hnone
        exact ⟨List.mem_cons_of_mem _ hmem, hnone.1⟩

/-- A variable with this name and this value can be set by a file. -/
structure IsWritable (e : String × String) : Prop where
  name : IsName e.1
  value : '\x00' ∉ e.2.toList

theorem loadLines?_assignmentChars {env stored as : Environment} (henv : env.lookup "" = none)
    (hstored : stored.lookup "" = none) (has : ∀ e ∈ as, IsWritable e) :
    loadLines? env stored (as.map fun e ↦ some (assignmentChars e)) =
      some (env ++ fresh env as) := by
  induction as generalizing env stored with
  | nil => rw [fresh, List.append_nil]; rfl
  | cons e as ih =>
    obtain ⟨⟨hname, hvalue⟩, has⟩ := List.forall_mem_cons.mp has
    have hline : readLine (fun name ↦ ((env.lookup name).orElse fun _ ↦
        stored.lookup name).getD "") (assignmentChars e) = .assignment e.1 e.2 := by
      refine readLine_assignmentChars hname ?_
      rw [henv, hstored]
      rfl
    have hempty : ("" == e.1) = false := by
      obtain ⟨c, cs, hcons, -⟩ := hname.start
      exact beq_false_of_ne fun h ↦ by simp [← h] at hcons
    have hstored' : List.lookup "" ((e.1, e.2) :: stored) = none := by
      rw [List.lookup_cons, hempty]
      exact hstored
    have henv' : List.lookup "" (env ++ [(e.1, e.2)]) = none := by
      rw [List.lookup_append, henv, List.lookup_cons, hempty]
      rfl
    rw [List.map_cons, loadLines?]
    simp only [hline]
    rw [fresh]
    split_ifs with hset hnull
    · exact ih henv hstored' has
    · exact absurd (List.contains_iff_mem.mp hnull) hvalue
    · rw [ih henv' hstored' has, List.append_assoc, List.singleton_append]

/-- **A file that sets variables.** Whatever variables are to be set, there is a file that adds
them to an environment. -/
theorem load?_write {env as : Environment} (hempty : env.lookup "" = none)
    (has : ∀ e ∈ as, IsWritable e) : load? env (write as) = some (env ++ fresh env as) := by
  have hmark : (write as).toList.head? ≠ some '\ufeff' := by
    rw [write, String.toList_ofList]
    cases as with
    | nil => exact nofun
    | cons e as =>
      rw [List.flatMap_cons, List.append_assoc]
      exact head?_assignmentChars (has e List.mem_cons_self).name (by decide) _
  rw [load?]
  simp only [if_neg hmark]
  rw [logicalLines_write fun e he ↦ (has e he).name]
  exact loadLines?_assignmentChars hempty rfl has

end FirewallExporter.Settings.DotEnv
