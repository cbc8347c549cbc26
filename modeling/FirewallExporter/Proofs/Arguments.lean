import Mathlib
import FirewallExporter.Settings.Arguments

/-!
# The values of arguments

Whatever the words of a command line are, no argument ends up with two values or a bad one
(`sound_readWords`): every value goes through `Given.add`, which refuses both. So it does not matter
in which order the values are written over the settings, and a variable of the environment is what
an argument without a value has (`addVariables_eq`).
-/

namespace FirewallExporter.Settings

open DotEnv (Environment)

/-- A computation in two steps succeeds step by step. -/
theorem exists_of_bind_eq_ok {ε α β : Type} {x : Except ε α} {f : α → Except ε β} {b : β}
    (h : x.bind f = .ok b) : ∃ a, x = .ok a ∧ f a = .ok b := by
  cases x with
  | error e => nomatch h
  | ok a => exact ⟨a, rfl, h⟩

/-! ## Values given -/

namespace Given

/-- No argument has two values, and every value is good. -/
structure Sound (given : Given) : Prop where
  nodup : (given.map Prod.fst).Nodup
  good : ∀ g ∈ given, g.1.kind.fault? g.2 = none

theorem sound_nil : Sound [] := ⟨List.nodup_nil, nofun⟩

variable {given given' : Given} {a : Argument} {value : String}

theorem value?_eq_none_iff : given.value? a = none ↔ a ∉ given.map Prod.fst := by
  rw [value?, List.lookup_eq_none_iff, List.mem_map]
  constructor
  · rintro h ⟨g, hg, rfl⟩
    exact absurd (h g hg) (by simp)
  · intro h g hg
    exact bne_iff_ne.mpr fun he ↦ h ⟨g, hg, he.symm⟩

theorem add_eq_ok (h : given.add a value = .ok given') :
    given.value? a = none ∧ a.kind.fault? value = none ∧ given' = given ++ [(a, value)] := by
  rw [add] at h
  split_ifs at h with hany
  split at h
  · nomatch h
  case h_2 hfault =>
    refine ⟨value?_eq_none_iff.mpr fun hmem ↦ hany ?_, hfault, (Except.ok.inj h).symm⟩
    obtain ⟨g, hg, rfl⟩ := List.mem_map.mp hmem
    exact List.any_eq_true.mpr ⟨g, hg, beq_self_eq_true _⟩

/-- A good value can be given to an argument without one. -/
theorem add_of_value?_eq_none (hnone : given.value? a = none)
    (hfault : a.kind.fault? value = none) : given.add a value = .ok (given ++ [(a, value)]) := by
  have hany : ¬(given.any fun g ↦ g.1 == a) = true := by
    rw [List.any_eq_true]
    rintro ⟨g, hg, he⟩
    exact value?_eq_none_iff.mp hnone (List.mem_map.mpr ⟨g, hg, beq_iff_eq.mp he⟩)
  rw [add, if_neg hany, hfault]

theorem Sound.concat (h : given.Sound) (hnone : given.value? a = none)
    (hfault : a.kind.fault? value = none) : Sound (given ++ [(a, value)]) where
  nodup := by
    rw [List.map_append, List.map_singleton]
    exact List.nodup_append'.mpr ⟨h.nodup, List.nodup_singleton _,
      List.disjoint_singleton.mpr (value?_eq_none_iff.mp hnone)⟩
  good := List.forall_mem_append.mpr ⟨h.good, List.forall_mem_singleton.mpr hfault⟩

theorem Sound.add (h : given.Sound) (hadd : given.add a value = .ok given') : given'.Sound := by
  obtain ⟨hnone, hfault, rfl⟩ := add_eq_ok hadd
  exact h.concat hnone hfault

theorem value?_concat (given : Given) (a : Argument) (value : String) (b : Argument) :
    value? (given ++ [(a, value)]) b =
      (given.value? b).or (if b = a then some value else none) := by
  rw [value?, List.lookup_append, List.lookup_cons, List.lookup_nil]
  by_cases hb : b = a
  · rw [if_pos hb, beq_iff_eq.mpr hb]
    rfl
  · rw [if_neg hb, beq_false_of_ne hb]
    rfl

end Given

/-! ## Words -/

namespace Progress

variable {p p' : Progress} {a : Argument} {given : Given}

theorem sound_settle (hp : p.given.Sound) (h : p.settle = .ok given) : given.Sound := by
  rw [settle] at h
  split at h
  · exact Except.ok.inj h ▸ hp
  · nomatch h
  · exact hp.add h

theorem sound_take {value : String} (hp : p.given.Sound) (h : p.take a value = .ok p') :
    p'.given.Sound := by
  obtain ⟨given, hsettle, h⟩ := exists_of_bind_eq_ok h
  obtain ⟨given', hadd, h⟩ := exists_of_bind_eq_ok h
  obtain rfl := Except.ok.inj h
  exact (sound_settle hp hsettle).add hadd

theorem sound_await (hp : p.given.Sound) (h : p.await a = .ok p') : p'.given.Sound := by
  obtain ⟨given, hsettle, h⟩ := exists_of_bind_eq_ok h
  obtain rfl := Except.ok.inj h
  exact sound_settle hp hsettle

theorem sound_flip (hp : p.given.Sound) (h : p.flip a = .ok p') : p'.given.Sound := by
  obtain ⟨given, hsettle, h⟩ := exists_of_bind_eq_ok h
  split at h
  · nomatch h
  · nomatch h
  · obtain ⟨given', hadd, h⟩ := exists_of_bind_eq_ok h
    obtain rfl := Except.ok.inj h
    exact (sound_settle hp hsettle).add hadd

theorem sound_option {value : Option String} (hp : p.given.Sound) (h : p.option a value = .ok p') :
    p'.given.Sound := by
  cases value with
  | none => exact sound_await hp h
  | some value => exact sound_take hp h

end Progress

section Words

variable {p p' : Progress} {given : Given}

theorem sound_readLong {cs : List Char} (hp : p.given.Sound) (h : readLong p cs = .ok p') :
    p'.given.Sound := by
  rw [readLong] at h
  cases ha : Argument.ofLong? (splitValue cs).1 with
  | none =>
    simp only [ha] at h
    nomatch h
  | some a =>
    simp only [ha] at h
    split_ifs at h
    · exact Progress.sound_flip hp h
    · exact Progress.sound_option hp h

theorem sound_readLetters {cs : List Char} (hp : p.given.Sound) (h : readLetters p cs = .ok p') :
    p'.given.Sound := by
  induction cs generalizing p with
  | nil => exact Except.ok.inj h ▸ hp
  | cons c cs ih =>
    rw [readLetters] at h
    split at h
    · nomatch h
    · split_ifs at h
      · obtain ⟨p₁, hflip, h⟩ := exists_of_bind_eq_ok h
        exact ih (Progress.sound_flip hp hflip) h
      · exact Progress.sound_option hp h

theorem sound_readPlain {word : String} (hp : p.given.Sound) (h : readPlain p word = .ok p') :
    p'.given.Sound := by
  rw [readPlain] at h
  split at h
  · exact Except.ok.inj h ▸ hp
  · nomatch h

/-- **No argument has two values or a bad one.** -/
theorem sound_readWords {words : List String} (hp : p.given.Sound)
    (h : readWords p words = .ok given) : given.Sound := by
  induction words generalizing p with
  | nil => exact Progress.sound_settle hp h
  | cons word words ih =>
    rw [readWords] at h
    split at h
    · split_ifs at h
      exact Progress.sound_settle hp h
    · obtain ⟨p₁, hlong, h⟩ := exists_of_bind_eq_ok h
      exact ih (sound_readLong hp hlong) h
    · obtain ⟨p₁, hletters, h⟩ := exists_of_bind_eq_ok h
      exact ih (sound_readLetters hp hletters) h
    · obtain ⟨p₁, hplain, h⟩ := exists_of_bind_eq_ok h
      exact ih (sound_readPlain hp hplain) h

end Words

/-! ## Variables of arguments -/

/-- The value of the variable that stands in for an argument. -/
def Argument.standIn? (env : Environment) (a : Argument) : Option String :=
  a.environmentName?.bind fun name ↦ env.lookup name

theorem Argument.mem_all (a : Argument) : a ∈ all := by cases a <;> decide

theorem Argument.nodup_all : all.Nodup := by decide

section Variables

variable {env : Environment} {given : Given}

/-- One argument after the other is given the value of its variable, if it has no value yet. -/
theorem addVariables_cons {b : Argument} (as : List Argument) (hsound : given.Sound)
    (hgood : given.value? b = none → ∀ value, b.standIn? env = some value →
      b.kind.fault? value = none) :
    ∃ given', addVariables env given (b :: as) = addVariables env given' as ∧ given'.Sound ∧
      ∀ a, given'.value? a =
        (given.value? a).or (if a = b then b.standIn? env else none) := by
  have hstandIn : (b.environmentName?.bind fun name ↦ env.lookup name) = b.standIn? env := rfl
  rw [addVariables, hstandIn]
  cases hvar : b.standIn? env with
  | none => exact ⟨given, rfl, hsound, fun a ↦ by simp⟩
  | some value =>
    by_cases hgiven : (given.value? b).isSome = true
    · simp only [if_pos hgiven]
      refine ⟨given, rfl, hsound, fun a ↦ ?_⟩
      by_cases ha : a = b
      · rw [ha, Option.or_of_isSome hgiven]
      · rw [if_neg ha, Option.or_none]
    · have hnone : given.value? b = none := Option.not_isSome_iff_eq_none.mp hgiven
      have hfault := hgood hnone value hvar
      simp only [if_neg hgiven, Given.add_of_value?_eq_none hnone hfault]
      exact ⟨_, rfl, hsound.concat hnone hfault, fun a ↦ Given.value?_concat ..⟩

/-- **Variables stand in for absent arguments.** -/
theorem addVariables_eq {as : List Argument} (hsound : given.Sound) (hnodup : as.Nodup)
    (hgood : ∀ a ∈ as, given.value? a = none → ∀ value, a.standIn? env = some value →
      a.kind.fault? value = none) :
    ∃ given', addVariables env given as = .ok given' ∧ given'.Sound ∧ ∀ a,
      given'.value? a = (given.value? a).or (if a ∈ as then a.standIn? env else none) := by
  induction as generalizing given with
  | nil => exact ⟨given, rfl, hsound, fun a ↦ by simp⟩
  | cons b as ih =>
    obtain ⟨hb, hnodup⟩ := List.nodup_cons.mp hnodup
    obtain ⟨hgoodb, hgood⟩ := List.forall_mem_cons.mp hgood
    obtain ⟨given₁, hcons, hsound₁, hvalue₁⟩ := addVariables_cons as hsound hgoodb
    have hgood₁ : ∀ a ∈ as, given₁.value? a = none → ∀ value, a.standIn? env = some value →
        a.kind.fault? value = none := by
      intro a ha hnone
      rw [hvalue₁, Option.or_eq_none_iff] at hnone
      exact hgood a ha hnone.1
    obtain ⟨given', hadd, hsound', hvalue⟩ := ih hsound₁ hnodup hgood₁
    refine ⟨given', hcons.trans hadd, hsound', fun a ↦ ?_⟩
    rw [hvalue, hvalue₁, Option.or_assoc]
    by_cases ha : a = b
    · rw [ha, if_pos rfl, if_neg hb, if_pos List.mem_cons_self, Option.or_none]
    · simp [ha]

/-- Only variables that stand in for arguments are looked at. -/
theorem addVariables_congr {env' : Environment}
    (h : ∀ a : Argument, a.standIn? env = a.standIn? env') (given : Given) (as : List Argument) :
    addVariables env given as = addVariables env' given as := by
  induction as generalizing given with
  | nil => rfl
  | cons a as ih =>
    have ha := h a
    rw [Argument.standIn?, Argument.standIn?] at ha
    simp only [addVariables, ha, ih]

end Variables

end FirewallExporter.Settings
