import Mathlib
import FirewallExporter.Settings.Sources

/-!
# Settings in layers

The configuration file and the variables of the environment are written into one tree, one path
after the other, and a setting is read at the path of its area and its field. Of two paths one may
be the other, they may lead *apart* at some key, or one may run through the other. Writing at a path
leaves alone what lies apart from it (`valueAt?_setPath_of_apart`). So where every variable gives a
setting or lies apart from all of them, the tree has at each setting the last variable that gives
it, else what the file has (`valueAt?_writeAll`).
-/

namespace FirewallExporter.Settings

open DotEnv (Environment)

/-! ## Names of variables -/

section Names

open Text

/-- The form of a character below those with an accent: only the letters from A to Z change. -/
def lowerLatin (c : Char) : Char :=
  if 0x41 ≤ c.toNat ∧ c.toNat ≤ 0x5A then Char.ofNat (c.toNat + 32) else c

theorem lowerSimple_of_lt {c : Char} (hc : c.toNat < 0xC0) : lowerSimple c = lowerLatin c := by
  have hruns : lowerRuns = ⟨0x41, 0x5A, 1, 32⟩ :: lowerRuns.tail := rfl
  have hlater : ∀ r ∈ lowerRuns.tail, 0xC0 ≤ r.first := by decide +kernel
  have hnone : lowerRuns.tail.find? (·.contains c.toNat) = none := by
    refine List.find?_eq_none.mpr fun r hr hcontains ↦ ?_
    simp only [CaseRun.contains, Bool.and_eq_true, decide_eq_true_eq] at hcontains
    have hfirst := hlater r hr
    omega
  have hfirst : CaseRun.contains ⟨0x41, 0x5A, 1, 32⟩ c.toNat =
      decide (0x41 ≤ c.toNat ∧ c.toNat ≤ 0x5A) := by
    simp [CaseRun.contains, Nat.mod_one]
  rw [lowerSimple, hruns, List.find?_cons, hnone, hfirst, lowerLatin]
  by_cases h : 0x41 ≤ c.toNat ∧ c.toNat ≤ 0x5A
  · rw [decide_eq_true h, if_pos h]
    rfl
  · rw [decide_eq_false h, if_neg h]

theorem lowercase_of_lt {s : String} (hs : ∀ c ∈ s.toList, c.toNat < 0xC0) :
    lowercase s = String.ofList (s.toList.map lowerLatin) := by
  have hfrom : ∀ cs before, (∀ c ∈ cs, c.toNat < 0xC0) →
      lowerFrom before cs = cs.map lowerLatin := by
    intro cs
    induction cs with
    | nil => exact fun _ _ ↦ rfl
    | cons c cs ih =>
      intro before hcs
      obtain ⟨hc, hcs⟩ := List.forall_mem_cons.mp hcs
      have hsigma : c ≠ 'Σ' := by rintro rfl; exact absurd hc (by decide)
      have hdotted : c ≠ 'İ' := by rintro rfl; exact absurd hc (by decide)
      rw [lowerFrom, lowerAt, if_neg hsigma, if_neg hdotted, lowerSimple_of_lt hc, ih _ hcs]
      rfl
  rw [lowercase, hfrom _ _ hs]

/-- The path of the setting that a name of such characters gives. -/
def lowerPath? (cs : List Char) : Option String :=
  if variableStart.isPrefixOf (cs.map lowerLatin) then
    some (String.ofList (separateKeys ((cs.map lowerLatin).drop variableStart.length)))
  else none

theorem settingPath?_of_lt {name : String} (hname : ∀ c ∈ name.toList, c.toNat < 0xC0) :
    settingPath? name = lowerPath? name.toList := by
  rw [settingPath?, lowercase_of_lt hname, String.toList_ofList, lowerPath?]

end Names

namespace Tree

/-! ## Entries -/

section Entries

variable {key key' : String} (f : Tree → Tree) (es : List (String × Tree))

theorem lookup_alterEntry_self (key : String) :
    (alterEntry key f es).lookup key = some (f ((es.lookup key).getD null)) := by
  induction es with
  | nil => simp [alterEntry]
  | cons e rest ih =>
    obtain ⟨k, v⟩ := e
    by_cases hk : k = key
    · subst hk
      simp [alterEntry]
    · rw [alterEntry, if_neg hk, List.lookup_cons, List.lookup_cons,
        beq_false_of_ne (Ne.symm hk), ih]

theorem lookup_alterEntry_of_ne (hne : key' ≠ key) :
    (alterEntry key f es).lookup key' = es.lookup key' := by
  induction es with
  | nil => simp [alterEntry, List.lookup_cons, beq_false_of_ne hne]
  | cons e rest ih =>
    obtain ⟨k, v⟩ := e
    by_cases hk : k = key
    · subst hk
      rw [alterEntry, if_pos rfl, List.lookup_cons, List.lookup_cons, beq_false_of_ne hne]
    · rw [alterEntry, if_neg hk, List.lookup_cons, List.lookup_cons, ih]

end Entries

/-! ## Paths -/

/-- The paths lead to different places: at some step they take different keys of one table. -/
def Apart : List Step → List Step → Prop
  | .key k :: p, .key l :: q => k ≠ l ∨ Apart p q
  | _, _ => False

instance decidableApart : (p q : List Step) → Decidable (Apart p q)
  | .key k :: p, .key l :: q =>
    have := decidableApart p q
    inferInstanceAs (Decidable (k ≠ l ∨ Apart p q))
  | [], _ | .index _ :: _, _ | .key _ :: _, [] | .key _ :: _, .index _ :: _ => isFalse id

theorem not_apart_nil (p : List Step) : ¬Apart p [] := by
  rcases p with _ | ⟨_ | _, _⟩ <;> exact id

theorem not_apart_self (p : List Step) : ¬Apart p p := by
  induction p with
  | nil => exact id
  | cons step p ih =>
    cases step with
    | key k => exact fun h ↦ h.elim (absurd rfl) ih
    | index i => exact id

/-- The path of a field of an area. -/
def fieldPath (area field : String) : List Step := [.key area, .key field]

/-- The fields of an area. -/
def areaOf (t : Tree) (area : String) : List (String × Tree) :=
  ((t.entries.lookup area).getD null).entries

/-- The value of a field of an area. -/
def valueAt? (t : Tree) (area field : String) : Option Tree := (t.areaOf area).lookup field

def isTable : Tree → Bool
  | table _ => true
  | _ => false

theorem exists_of_isTable {t : Tree} (h : t.isTable = true) : ∃ es, t = table es := by
  cases t with
  | table es => exact ⟨es, rfl⟩
  | _ => nomatch h

/-- The area is missing, or a table. -/
def HasTable (t : Tree) (area : String) : Prop := (t.entries.lookup area).all isTable = true

instance (t : Tree) (area : String) : Decidable (t.HasTable area) :=
  inferInstanceAs (Decidable (_ = true))

/-- The path is that of the field, or leads apart from it. -/
def Fits (p : List Step) (area field : String) : Prop :=
  p = fieldPath area field ∨ Apart p (fieldPath area field)

instance (p : List Step) (area field : String) : Decidable (Fits p area field) :=
  inferInstanceAs (Decidable (p = fieldPath area field ∨ Apart p (fieldPath area field)))

theorem Apart.exists_key {p : List Step} {area field : String}
    (h : Apart p (fieldPath area field)) :
    ∃ k q, p = .key k :: q ∧ (k ≠ area ∨ ∃ l q', q = .key l :: q' ∧ l ≠ field) := by
  match p, h with
  | .key k :: q, .inl hk => exact ⟨k, q, rfl, .inl hk⟩
  | .key k :: .key l :: q, .inr h =>
    have hl : l ≠ field := h.resolve_right (not_apart_nil q)
    exact ⟨k, _, rfl, .inr ⟨l, q, rfl, hl⟩⟩

section Writing

variable {area field : String} {p : List Step} (v t : Tree)

theorem valueAt?_setPath_self (s : String) :
    (setPath (text s) (fieldPath area field) t).valueAt? area field = some (text s) := by
  rw [valueAt?, areaOf, fieldPath, setPath, entries, lookup_alterEntry_self, Option.getD_some,
    setPath, entries, lookup_alterEntry_self, setPath]
  rfl

theorem valueAt?_setPath_of_apart (h : Apart p (fieldPath area field)) :
    (setPath v p t).valueAt? area field = t.valueAt? area field := by
  obtain ⟨k, q, rfl, hk | ⟨l, q, rfl, hl⟩⟩ := h.exists_key
  · rw [valueAt?, areaOf, setPath, entries, lookup_alterEntry_of_ne _ _ (Ne.symm hk), valueAt?,
      areaOf]
  · by_cases hk : k = area
    · subst hk
      rw [valueAt?, areaOf, setPath, entries, lookup_alterEntry_self, Option.getD_some, setPath,
        entries, lookup_alterEntry_of_ne _ _ (Ne.symm hl), valueAt?, areaOf]
    · rw [valueAt?, areaOf, setPath, entries, lookup_alterEntry_of_ne _ _ (Ne.symm hk), valueAt?,
        areaOf]

variable {t}

theorem HasTable.setPath (ht : t.HasTable area) (h : Fits p area field) :
    (setPath v p t).HasTable area := by
  obtain ⟨k, q, rfl, hk⟩ : ∃ k q, p = .key k :: q ∧ (k ≠ area ∨ ∃ l q', q = .key l :: q') := by
    rcases h with rfl | h
    · exact ⟨area, _, rfl, .inr ⟨field, [], rfl⟩⟩
    · obtain ⟨k, q, rfl, hk⟩ := h.exists_key
      exact ⟨k, q, rfl, hk.imp_right fun ⟨l, q', hq, _⟩ ↦ ⟨l, q', hq⟩⟩
  rw [HasTable, Tree.setPath, entries]
  by_cases hka : k = area
  · subst hka
    obtain ⟨l, q', rfl⟩ := hk.resolve_left fun hne ↦ hne rfl
    rw [lookup_alterEntry_self]
    rfl
  · rw [lookup_alterEntry_of_ne _ _ (Ne.symm hka)]
    exact ht

end Writing

/-! ## Sources -/

/-- Write every entry of a source, wherever its path leads. -/
def writeAll (source : List (String × Tree)) (t : Tree) : Tree :=
  source.foldl (fun t e ↦ setPath e.2 (pathOf e.1) t) t

theorem writeAll_concat (source : List (String × Tree)) (e : String × Tree) (t : Tree) :
    writeAll (source ++ [e]) t = setPath e.2 (pathOf e.1) (writeAll source t) :=
  List.foldl_concat ..

theorem writeSource?_eq {source : List (String × Tree)}
    (h : ∀ e ∈ source, (pathOf e.1).all Step.isInReach = true) (t : Tree) :
    writeSource? source t = some (writeAll source t) := by
  rw [writeSource?, writeAll]
  induction source generalizing t with
  | nil => rfl
  | cons e source ih =>
    obtain ⟨he, hrest⟩ := List.forall_mem_cons.mp h
    rw [List.foldlM_cons, List.foldl_cons]
    simp only [he, if_true]
    exact ih hrest _

section Sources

variable {area field : String} {source : List (String × Tree)} {t : Tree}

theorem HasTable.writeAll (ht : t.HasTable area)
    (h : ∀ e ∈ source, Fits (pathOf e.1) area field) : (writeAll source t).HasTable area := by
  induction source generalizing t with
  | nil => exact ht
  | cons e source ih =>
    obtain ⟨he, hrest⟩ := List.forall_mem_cons.mp h
    exact ih (ht.setPath e.2 he) hrest

/-- The last text that a source has for a field. -/
def lastText? (area field : String) (texts : List (String × String)) : Option String :=
  ((texts.filter fun e ↦ pathOf e.1 == fieldPath area field).getLast?).map Prod.snd

/-- **Layers of settings.** The last text that is written to a field hides what was there. -/
theorem valueAt?_writeAll {texts : List (String × String)}
    (h : ∀ e ∈ texts, Fits (pathOf e.1) area field) (t : Tree) :
    (Tree.writeAll (texts.map fun e ↦ (e.1, text e.2)) t).valueAt? area field =
      ((lastText? area field texts).map text).or (t.valueAt? area field) := by
  -- The last write settles the field, or leaves it as it was.
  induction texts using List.reverseRecOn with
  | nil => rfl
  | append_singleton texts e ih =>
    obtain ⟨hrest, he⟩ := List.forall_mem_append.mp h
    rw [List.map_append, List.map_singleton, writeAll_concat, lastText?, List.filter_append,
      List.filter_singleton]
    rcases List.forall_mem_singleton.mp he with he | he
    · rw [he, beq_self_eq_true, cond_true, List.getLast?_concat, valueAt?_setPath_self]
      rfl
    · have hne : pathOf e.1 ≠ fieldPath area field := fun heq ↦
        not_apart_self _ (heq ▸ he)
      rw [beq_false_of_ne hne, cond_false, List.append_nil, valueAt?_setPath_of_apart _ _ he,
        ih hrest, lastText?]

end Sources

end Tree

end FirewallExporter.Settings
