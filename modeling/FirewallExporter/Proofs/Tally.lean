import FirewallExporter.Exporter.Scraper
import FirewallExporter.Proofs.Families

/-!
# Laws of the tally

What the exporter says about itself comes from four families with names of their own, so what a
document shows under one of these names is what that family holds (`exposes_own_iff`).

The error counters are described by a function from endpoint names to numbers (`Tally.Counts`). One
more error is one more at one name, and counting the errors of a list of tasks adds, at every name,
the number of tasks that failed there (`Counts.countErrors`). Counting does not depend on the order
of the tasks (`countErrors_perm`).
-/

namespace FirewallExporter

namespace Tally

/-! ## What is shown -/

/-- The families of a tally, those without series included. -/
def allFamilies (t : Tally) : List Family :=
  [t.errorsFamily, t.scrapesFamily, t.firewallFamily, t.upFamily] ++
    t.process.elim [] ProcessReading.families

theorem mem_families {t : Tally} {f : Family} :
    f ∈ t.families ↔ f ∈ t.allFamilies ∧ f.series ≠ [] := by
  rw [families, ← allFamilies, List.mem_filter]
  simp

/-- The families that are about the exporter itself. -/
def ownFamilies (t : Tally) : List Family :=
  [t.errorsFamily, t.scrapesFamily, t.firewallFamily, t.upFamily]

/-- Their names. -/
def ownNames : List String :=
  ["opnsense_exporter_endpoint_errors_total", "opnsense_exporter_scrapes_total",
    "opnsense_firewall_status", "opnsense_up"]

theorem name_mem_ownNames {t : Tally} {f : Family} (hf : f ∈ t.ownFamilies) :
    f.name ∈ ownNames :=
  List.mem_map_of_mem hf

/-- A family of a tally is one of its own or one of the process. -/
theorem mem_own_or_process {t : Tally} {f : Family} (hf : f ∈ t.families) :
    f ∈ t.ownFamilies ∨ ∃ r, t.process = some r ∧ f ∈ r.families := by
  refine (List.mem_append.mp (mem_families.mp hf).1).imp_right fun hf ↦ ?_
  cases hprocess : t.process with
  | none =>
    rw [hprocess] at hf
    exact absurd hf List.not_mem_nil
  | some r =>
    rw [hprocess] at hf
    exact ⟨r, rfl, hf⟩

theorem nodup_allFamilies (t : Tally) : (t.allFamilies.map Family.name).Nodup := by
  obtain ⟨monitored, health, scrapes, errors, process⟩ := t
  cases process with
  | none =>
    change ["opnsense_exporter_endpoint_errors_total", "opnsense_exporter_scrapes_total",
      "opnsense_firewall_status", "opnsense_up"].Nodup
    decide
  | some r =>
    change ["opnsense_exporter_endpoint_errors_total", "opnsense_exporter_scrapes_total",
      "opnsense_firewall_status", "opnsense_up", "process_cpu_seconds_total", "process_max_fds",
      "process_open_fds", "process_resident_memory_bytes", "process_start_time_seconds",
      "process_threads", "process_virtual_memory_bytes"].Nodup
    decide

/-- Under the name of one of its own families a tally shows what this family holds. -/
theorem exposes_own_iff {t : Tally} {f : Family}
    (hf : f ∈ [t.errorsFamily, t.scrapesFamily, t.firewallFamily, t.upFamily])
    {labels : List (String × String)} {v : Double} :
    Exposes t.families f.name labels v ↔ (⟨labels, v⟩ : Series) ∈ f.series := by
  have hmem : f ∈ t.allFamilies := List.mem_append_left _ hf
  constructor
  · rintro ⟨g, hg, hname, hsr⟩
    rwa [← List.inj_on_of_nodup_map t.nodup_allFamilies (mem_families.mp hg).1 hmem hname]
  · intro hsr
    exact ⟨f, mem_families.mpr ⟨hmem, List.ne_nil_of_mem hsr⟩, rfl, hsr⟩

theorem exposes_up_iff {t : Tally} {v : Double} :
    Exposes t.families "opnsense_up" [t.instancePair] v ↔ v = Double.ofBool t.health.systemUp := by
  refine (exposes_own_iff (f := t.upFamily) (by simp)).trans ?_
  simp [upFamily]

theorem exposes_firewall_iff {t : Tally} {v : Double} :
    Exposes t.families "opnsense_firewall_status" [t.instancePair] v ↔
      v = Double.ofBool t.health.firewallOk := by
  refine (exposes_own_iff (f := t.firewallFamily) (by simp)).trans ?_
  simp [firewallFamily]

theorem exposes_scrapes_iff {t : Tally} {v : Double} :
    Exposes t.families "opnsense_exporter_scrapes_total" [t.instancePair] v ↔
      v = Double.ofNat t.scrapes := by
  refine (exposes_own_iff (f := t.scrapesFamily) (by simp)).trans ?_
  simp [scrapesFamily]

theorem exposes_errors_iff {t : Tally} {endpoint : String} {v : Double} :
    Exposes t.families "opnsense_exporter_endpoint_errors_total"
        [("endpoint", endpoint), t.instancePair] v ↔
      ∃ n, (endpoint, n) ∈ t.errors ∧ v = Double.ofNat n := by
  refine (exposes_own_iff (f := t.errorsFamily) (by simp)).trans ?_
  simp [errorsFamily, eq_comm]

theorem one_eq_ofBool_iff {b : Bool} : Double.ofNat 1 = Double.ofBool b ↔ b = true := by
  cases b <;> decide

theorem zero_eq_ofBool_iff {b : Bool} : Double.ofNat 0 = Double.ofBool b ↔ b = false := by
  cases b <;> decide

/-! ## Counting errors -/

/-- The error counters: an endpoint of the list has one, and so has every endpoint with an error.
The counter of `e` shows `n e`. -/
structure Counts (t : Tally) (endpoints : List String) (n : String → Nat) : Prop where
  sorted : t.errors.Sorted
  get?_errors : ∀ e, t.errors.get? e = if e ∈ endpoints ∨ 0 < n e then some (n e) else none

variable {t : Tally} {endpoints : List String} {n : String → Nat}

theorem counts_fresh (monitored : String) (endpoints : List String)
    (process : Option ProcessReading) :
    (fresh monitored endpoints process).Counts endpoints fun _ ↦ 0 where
  sorted := SortedTable.sorted_ofList _
  get?_errors e := by
    rw [fresh, SortedTable.get?_ofList_map_const]
    simp

theorem Counts.errorCount (h : t.Counts endpoints n) (e : String) : t.errorCount e = n e := by
  rw [Tally.errorCount, h.get?_errors]
  by_cases he : e ∈ endpoints ∨ 0 < n e
  · rw [if_pos he, Option.getD_some]
  · rw [if_neg he, Option.getD_none]
    exact (Nat.eq_zero_of_not_pos fun hn ↦ he (.inr hn)).symm

theorem Counts.mem_errors_iff (h : t.Counts endpoints n) {e : String} {k : Nat} :
    (e, k) ∈ t.errors ↔ (e ∈ endpoints ∨ 0 < n e) ∧ k = n e := by
  have hget : (e, k) ∈ t.errors ↔ t.errors.get? e = some k :=
    ⟨h.sorted.get?_of_mem, SortedTable.mem_of_get?⟩
  rw [hget, h.get?_errors, Option.ite_none_right_eq_some, Option.some_inj, eq_comm]

/-- What the error counters show. -/
theorem Counts.exposes_errors_iff (h : t.Counts endpoints n) {e : String} {v : Double} :
    Exposes t.families "opnsense_exporter_endpoint_errors_total"
        [("endpoint", e), t.instancePair] v ↔
      (e ∈ endpoints ∨ 0 < n e) ∧ v = Double.ofNat (n e) := by
  rw [Tally.exposes_errors_iff]
  constructor
  · rintro ⟨k, hk, rfl⟩
    obtain ⟨he, rfl⟩ := h.mem_errors_iff.mp hk
    exact ⟨he, rfl⟩
  · rintro ⟨he, rfl⟩
    exact ⟨_, h.mem_errors_iff.mpr ⟨he, rfl⟩, rfl⟩

theorem Counts.recordError (h : t.Counts endpoints n) (e : String) :
    (t.recordError e).Counts endpoints fun e' ↦ n e' + if e' = e then 1 else 0 where
  sorted := h.sorted.alter _ _
  get?_errors e' := by
    rw [Tally.recordError]
    by_cases he : e' = e
    · subst he
      have hn : (t.errors.get? e').getD 0 = n e' := h.errorCount e'
      rw [SortedTable.get?_alter_self, hn, if_pos rfl, if_pos (.inr (Nat.succ_pos _))]
    · rw [SortedTable.get?_alter_of_ne he, h.get?_errors, if_neg he, Nat.add_zero]

/-- Recording an error adds one to the counter of its endpoint. -/
theorem errorCount_recordError (t : Tally) (e e' : String) :
    (t.recordError e).errorCount e' = t.errorCount e' + if e' = e then 1 else 0 := by
  rw [Tally.errorCount, Tally.recordError, Tally.errorCount]
  by_cases he : e' = e
  · rw [he, SortedTable.get?_alter_self, Option.getD_some, if_pos rfl]
  · rw [SortedTable.get?_alter_of_ne he, if_neg he, Nat.add_zero]

/-- Counting the errors of tasks changes the error counters only. -/
theorem exists_countErrors_eq (t : Tally) (outcomes : List TaskOutcome) :
    ∃ errors, Scraper.countErrors t outcomes = { t with errors := errors } := by
  rw [Scraper.countErrors]
  induction outcomes.filterMap Scraper.endpointOf? generalizing t with
  | nil => exact ⟨t.errors, rfl⟩
  | cons e es ih => exact ih (t.recordError e)

theorem countErrors_cons (t : Tally) (o : TaskOutcome) (outcomes : List TaskOutcome) :
    Scraper.countErrors t (o :: outcomes) =
      Scraper.countErrors ((Scraper.endpointOf? o).elim t t.recordError) outcomes := by
  rw [Scraper.countErrors, Scraper.countErrors]
  cases ho : Scraper.endpointOf? o with
  | none => rw [List.filterMap_cons_none ho, Option.elim_none]
  | some e => rw [List.filterMap_cons_some ho, Option.elim_some, List.foldl_cons]

/-- Every task that failed at an endpoint adds one to its counter. -/
theorem errorCount_countErrors (t : Tally) (outcomes : List TaskOutcome) (e : String) :
    (Scraper.countErrors t outcomes).errorCount e =
      t.errorCount e + outcomes.countP fun o ↦ Scraper.endpointOf? o == some e := by
  induction outcomes generalizing t with
  | nil => rfl
  | cons o outcomes ih =>
    rw [countErrors_cons, ih, List.countP_cons]
    cases Scraper.endpointOf? o with
    | none => rfl
    | some e' =>
      rw [Option.elim_some, errorCount_recordError]
      by_cases he : e = e'
      · subst he
        simp only [if_pos, BEq.rfl]
        omega
      · have hne : (some e' == some e) = false :=
          beq_false_of_ne fun h ↦ he (Option.some.inj h).symm
        rw [if_neg he, hne, if_neg Bool.false_ne_true]
        omega

theorem Counts.countErrors (h : t.Counts endpoints n) (outcomes : List TaskOutcome) :
    (Scraper.countErrors t outcomes).Counts endpoints fun e ↦
      n e + outcomes.countP fun o ↦ Scraper.endpointOf? o == some e := by
  induction outcomes generalizing t n with
  | nil => exact h
  | cons o outcomes ih =>
    rw [countErrors_cons]
    cases ho : Scraper.endpointOf? o with
    | none =>
      have hn : (fun e ↦ n e + (o :: outcomes).countP fun o ↦ Scraper.endpointOf? o == some e) =
          fun e ↦ n e + outcomes.countP fun o ↦ Scraper.endpointOf? o == some e := by
        funext e
        rw [List.countP_cons_of_neg (by simp [ho])]
      rw [hn]
      exact ih h
    | some e =>
      have hn : (fun e' ↦ n e' + (o :: outcomes).countP fun o ↦ Scraper.endpointOf? o == some e') =
          fun e' ↦ (n e' + if e' = e then 1 else 0) +
            outcomes.countP fun o ↦ Scraper.endpointOf? o == some e' := by
        funext e'
        by_cases he : e' = e
        · rw [List.countP_cons_of_pos (by simp [ho, he]), if_pos he]
          omega
        · rw [List.countP_cons_of_neg (by simp [ho, Ne.symm he]), if_neg he, Nat.add_zero]
      rw [hn]
      exact ih (h.recordError e)

/-- Errors of endpoints that have a counter add no counter. -/
theorem keys_errors_countErrors (ht : t.errors.Sorted) {outcomes : List TaskOutcome}
    (h : ∀ o ∈ outcomes, ∀ e, Scraper.endpointOf? o = some e → e ∈ t.errors.keys) :
    (Scraper.countErrors t outcomes).errors.keys = t.errors.keys ∧
      (Scraper.countErrors t outcomes).errors.Sorted := by
  induction outcomes generalizing t with
  | nil => exact ⟨rfl, ht⟩
  | cons o outcomes ih =>
    obtain ⟨hfirst, hrest⟩ := List.forall_mem_cons.mp h
    rw [countErrors_cons]
    cases ho : Scraper.endpointOf? o with
    | none => exact ih ht hrest
    | some e =>
      have hkeys : (t.recordError e).errors.keys = t.errors.keys := ht.keys_alter (hfirst e ho) _
      obtain ⟨hsame, hsorted⟩ :=
        ih (t := t.recordError e) (ht.alter _ _) fun o ho e he ↦ hkeys ▸ hrest o ho e he
      exact ⟨hsame.trans hkeys, hsorted⟩

/-- Errors may be counted in any order. -/
theorem countErrors_perm {outcomes outcomes' : List TaskOutcome} (h : outcomes.Perm outcomes')
    (t : Tally) : Scraper.countErrors t outcomes = Scraper.countErrors t outcomes' := by
  have hcomm : ∀ e e' (t : Tally),
      (t.recordError e).recordError e' = (t.recordError e').recordError e := by
    intro e e' t
    by_cases he : e = e'
    · rw [he]
    · simp only [recordError, SortedTable.alter_comm he]
  rw [Scraper.countErrors, Scraper.countErrors]
  exact (h.filterMap _).foldl_eq' (fun e _ e' _ t ↦ hcomm e e' t) t

theorem countErrors_append (t : Tally) (outcomes outcomes' : List TaskOutcome) :
    Scraper.countErrors t (outcomes ++ outcomes') =
      Scraper.countErrors (Scraper.countErrors t outcomes) outcomes' := by
  rw [Scraper.countErrors, List.filterMap_append, List.foldl_append]
  rfl

theorem countErrors_concat (t : Tally) (outcomes : List TaskOutcome) (o : TaskOutcome) :
    Scraper.countErrors t (outcomes ++ [o]) =
      (Scraper.endpointOf? o).elim (Scraper.countErrors t outcomes)
        (Scraper.countErrors t outcomes).recordError := by
  rw [countErrors_append, countErrors_cons]
  rfl

/-- The error of one task leaves the counters of other endpoints as they stand. -/
theorem filter_errors_countErrors {es : List String} {o : TaskOutcome}
    (ho : ∀ e, Scraper.endpointOf? o = some e → e ∈ es) (t : Tally)
    (before after : List TaskOutcome) :
    (Scraper.countErrors t (before ++ o :: after)).errors.filter (fun e ↦ e.1 ∉ es) =
      (Scraper.countErrors t (before ++ after)).errors.filter fun e ↦ e.1 ∉ es := by
  -- The order of counting is free, so this error may be counted last.
  have hlast : (before ++ o :: after).Perm (before ++ after ++ [o]) :=
    List.perm_middle.trans (List.perm_append_singleton _ _).symm
  rw [countErrors_perm hlast, countErrors_concat]
  cases he : Scraper.endpointOf? o with
  | none => rfl
  | some e =>
    exact SortedTable.filter_alter_of_not (p := fun e ↦ decide (e ∉ es))
      (decide_eq_false (not_not.mpr (ho e he))) _ _

end Tally

end FirewallExporter
