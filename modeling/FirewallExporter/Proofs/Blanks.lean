import Mathlib
import FirewallExporter.Text.Blank

/-!
# White space around a text

Trimming takes white space off both ends and nothing else (`exists_trim`), so what is added there
makes no difference (`trim_append`), and a text without white space stays as it is.
-/

namespace FirewallExporter.Text

/-- White space of any length. -/
def IsBlanks (cs : List Char) : Prop := ∀ c ∈ cs, isBlank c = true

variable {w w' cs : List Char}

/-! ## One end -/

theorem trimStart_append (hw : IsBlanks w) (cs : List Char) : trimStart (w ++ cs) = trimStart cs :=
  List.dropWhile_append_of_pos hw

theorem trimEnd_append (hw : IsBlanks w) (cs : List Char) : trimEnd (cs ++ w) = trimEnd cs := by
  rw [trimEnd, dropEndWhile, List.reverse_append, List.dropWhile_append_of_pos]
  · rfl
  · exact fun c hc ↦ hw c (List.mem_reverse.mp hc)

theorem trimStart_eq_self (h : ∀ c ∈ cs.head?, isBlank c = false) : trimStart cs = cs := by
  cases cs with
  | nil => rfl
  | cons c cs =>
    have hc : ¬isBlank c = true := by rw [h c rfl]; exact nofun
    exact List.dropWhile_cons_of_neg hc

theorem isBlank_of_mem_head?_trimStart : ∀ c ∈ (trimStart cs).head?, isBlank c = false := by
  intro c hc
  have hstop := List.head?_dropWhile_not isBlank cs
  rwa [← trimStart, Option.mem_def.mp hc] at hstop

theorem trimEnd_eq_self (h : ∀ c ∈ cs.getLast?, isBlank c = false) : trimEnd cs = cs := by
  rw [← List.head?_reverse] at h
  rw [trimEnd, dropEndWhile, ← trimStart, trimStart_eq_self h, List.reverse_reverse]

theorem exists_trimStart (cs : List Char) : ∃ w, IsBlanks w ∧ cs = w ++ trimStart cs :=
  ⟨cs.takeWhile isBlank, fun _ ↦ List.mem_takeWhile_imp, List.takeWhile_append_dropWhile.symm⟩

theorem exists_trimEnd (cs : List Char) : ∃ w, IsBlanks w ∧ cs = trimEnd cs ++ w := by
  obtain ⟨w, hw, hcs⟩ := exists_trimStart cs.reverse
  refine ⟨w.reverse, fun c hc ↦ hw c (List.mem_reverse.mp hc), ?_⟩
  have hreverse := congrArg List.reverse hcs
  rwa [List.reverse_reverse, List.reverse_append] at hreverse

/-! ## Both ends -/

theorem exists_trim (cs : List Char) :
    ∃ w w', IsBlanks w ∧ IsBlanks w' ∧ cs = w ++ (trim cs ++ w') := by
  obtain ⟨w, hw, hstart⟩ := exists_trimStart cs
  obtain ⟨w', hw', hend⟩ := exists_trimEnd (trimStart cs)
  exact ⟨w, w', hw, hw', by rw [trim, ← hend, ← hstart]⟩

theorem trim_append (hw : IsBlanks w) (hw' : IsBlanks w') (cs : List Char) :
    trim (w ++ (cs ++ w')) = trim cs := by
  rw [trim, trim, trimStart_append hw, trimStart, List.dropWhile_append, trimStart]
  split_ifs with hempty
  · rw [List.isEmpty_iff.mp hempty, List.dropWhile_eq_nil_iff.mpr hw']
  · exact trimEnd_append hw' _

theorem trim_eq_self_of_ends (hhead : ∀ c ∈ cs.head?, isBlank c = false)
    (hlast : ∀ c ∈ cs.getLast?, isBlank c = false) : trim cs = cs := by
  rw [trim, trimStart_eq_self hhead, trimEnd_eq_self hlast]

theorem trim_eq_self (h : ∀ c ∈ cs, isBlank c = false) : trim cs = cs :=
  trim_eq_self_of_ends (fun c hc ↦ h c (List.mem_of_mem_head? hc))
    fun c hc ↦ h c (List.mem_of_mem_getLast? hc)

/-- Of texts without white space, one is found by trimming when it has white space around it. -/
theorem trim_iff_exists {p : List Char → Prop} (hp : ∀ cs, p cs → ∀ c ∈ cs, isBlank c = false) :
    p (trim cs) ↔ ∃ w text w', IsBlanks w ∧ IsBlanks w' ∧ cs = w ++ (text ++ w') ∧ p text := by
  constructor
  · intro h
    obtain ⟨w, w', hw, hw', hcs⟩ := exists_trim cs
    exact ⟨w, trim cs, w', hw, hw', hcs, h⟩
  · rintro ⟨w, text, w', hw, hw', rfl, h⟩
    rwa [trim_append hw hw', trim_eq_self (hp text h)]

end FirewallExporter.Text
