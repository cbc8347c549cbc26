import FirewallExporter.Proofs.Document
import FirewallExporter.Proofs.Isolation

/-!
# Leaving collectors out

A scraper that runs some of the collectors of another one does the same as the other one, less what
is due to the collectors that are left out. The two runs are compared pass by pass. Their logs need
not be the same, since the collectors left out send requests in one of the runs only, but the logs
agree on the paths of all others, and a responder that keeps its paths apart cannot tell the
difference there. So this agreement is what one pass hands to the next (`Pass.Of.selects`).

What a document shows is then compared by counting and by name: the failures of a pass are those of
the collectors that were kept, and so are its samples, metric by metric.
-/

namespace FirewallExporter

/-! ## Selections -/

namespace Registry

/-- The endpoints of the collectors. -/
def endpointNames (r : Registry) : List String := r.flatMap Collector.endpoints

theorem mem_endpointNames {r : Registry} {e : String} :
    e ∈ r.endpointNames ↔ ∃ c ∈ r, e ∈ c.endpoints :=
  List.mem_flatMap

theorem mem_metricNames {r : Registry} {name : String} :
    name ∈ r.metricNames ↔ ∃ c ∈ r, ∃ d ∈ c.descriptors, d.name = name := by
  rw [metricNames, List.mem_map]
  simp only [List.mem_flatMap]
  constructor
  · rintro ⟨d, ⟨c, hc, hd⟩, hname⟩
    exact ⟨c, hc, d, hd, hname⟩
  · rintro ⟨c, hc, d, hd, hname⟩
    exact ⟨d, ⟨c, hc, hd⟩, hname⟩

/-- An endpoint is that of one collector only. -/
theorem eq_of_mem_endpoints {c c' : Collector} (hc : c ∈ all) (hc' : c' ∈ all) {e : String}
    (he : e ∈ c.endpoints) (he' : e ∈ c'.endpoints) : c = c' := by
  by_contra hne
  have hpair := (List.nodup_flatMap.mp (List.nodup_cons.mp nodup_endpoints_all).2).2
  have hsymm : Std.Symm (Function.onFun List.Disjoint Collector.endpoints) :=
    ⟨fun _ _ h ↦ h.symm⟩
  exact hpair.forall hc hc' hne he he'

end Registry

namespace Scraper

/-- The scraper with the collectors of a selection only. -/
def select (s : Scraper) (keep : Collector → Bool) : Scraper :=
  { s with collectors := s.collectors.filter keep }

/-- The collectors that a selection leaves out. -/
def leftOut (s : Scraper) (keep : Collector → Bool) : Registry :=
  s.collectors.filter fun c ↦ !keep c

/-- The paths that belong to no collector left out. -/
def freePaths (s : Scraper) (keep : Collector → Bool) : Set String :=
  {path | ∀ c ∈ s.leftOut keep, path ∉ c.paths s.client}

variable {s : Scraper} {keep : Collector → Bool} {c : Collector}

theorem mem_leftOut : c ∈ s.leftOut keep ↔ c ∈ s.collectors ∧ keep c = false := by
  rw [leftOut, List.mem_filter, Bool.not_eq_true']

/-- A free path is none of a collector left out. -/
theorem keep_of_mem_freePaths (hc : c ∈ s.collectors) {path : String}
    (hpath : path ∈ s.freePaths keep) (hmem : path ∈ c.paths s.client) : keep c = true := by
  by_contra hkeep
  exact hpath c (mem_leftOut.mpr ⟨hc, Bool.eq_false_iff.mpr hkeep⟩) hmem

namespace Stock

variable (hs : s.Stock)

include hs

theorem select (keep : Collector → Bool) : (s.select keep).Stock where
  subperm := List.filter_sublist.subperm.trans hs.subperm
  endpoints_eq := hs.endpoints_eq

theorem paths_subset_freePaths (hc : c ∈ s.collectors) (hkeep : keep c = true) :
    c.paths s.client ⊆ s.freePaths keep := by
  intro path hpath c' hc'
  obtain ⟨hmem, hleft⟩ := mem_leftOut.mp hc'
  have hne : c ≠ c' := by
    rintro rfl
    exact Bool.false_ne_true (hleft.symm.trans hkeep)
  exact hs.paths_subset_compl hmem hc hne hpath

theorem within_freePaths (keep : Collector → Bool) :
    (s.client.fetch Health.query).Within (s.freePaths keep) := by
  have hname : Health.query.endpoint.name ∈ [Endpoint.health.name] := List.mem_cons_self
  refine (s.client.within_fetch Health.query hname).mono ?_
  intro path hpath c hc
  exact hs.health_subset_compl (mem_leftOut.mp hc).1 hpath

end Stock

end Scraper

/-! ## One pass -/

/-- The pass `q` of the selection does what the pass `p` does, less what is due to the collectors
that are left out. -/
structure Pass.Selects (s : Scraper) (keep : Collector → Bool) (p q : Pass) : Prop where
  check_eq : q.check = p.check
  failures_eq : ∀ e, q.failures (s.select keep) e =
    if e ∈ (s.leftOut keep).endpointNames then 0 else p.failures s e
  filter_samples_eq : ∀ name, (q.samples.filter fun x ↦ x.name == name) =
    if name ∈ (s.leftOut keep).metricNames then [] else p.samples.filter fun x ↦ x.name == name

/-- Blocks that are left out do not show if they are empty. -/
private theorem flatMap_filter_of_nil {α β : Type} {keep : α → Bool} {f : α → List β} {as : List α}
    (h : ∀ a ∈ as, keep a = false → f a = []) : (as.filter keep).flatMap f = as.flatMap f := by
  induction as with
  | nil => rfl
  | cons a as ih =>
    obtain ⟨ha, has⟩ := List.forall_mem_cons.mp h
    cases hkeep : keep a with
    | true => rw [List.filter_cons_of_pos hkeep, List.flatMap_cons, List.flatMap_cons, ih has]
    | false =>
      rw [List.filter_cons_of_neg (by simp [hkeep]), List.flatMap_cons, ha hkeep, List.nil_append,
        ih has]

namespace Pass

variable {s : Scraper} {keep : Collector → Bool} {p q : Pass}

theorem ran_select (h : q.check = p.check) : q.ran (s.select keep) = (p.ran s).filter keep := by
  rw [ran, ran, health, health, h]
  split_ifs
  · rfl
  · rfl

namespace Of

variable {other : Responder} {t t' : Tally} {log log' : Log} {g : Collector → TaskOutcome}

theorem failures_eq_countP_ran (hp : p.Of s other t log) (hg : p.outcomes = (p.ran s).map g)
    (e : String) :
    p.failures s e = (p.ran s).countP fun c ↦ Scraper.endpointOf? (g c) == some e := by
  rw [hp.failures_eq, hp.joined_perm.countP_eq, hg, List.countP_map]
  rfl

section

variable (hs : s.Stock) (hp : p.Of s other t log) (hq : q.Of (s.select keep) other t' log')
  (hcheck : q.check = p.check) (hg : p.outcomes = (p.ran s).map g)
  (hgq : q.outcomes = (q.ran (s.select keep)).map g)
  (hallows : ∀ c ∈ p.ran s, c.Allows s.monitored (g c))

include hs hp hq hcheck hg hgq hallows

/-- The failures of a selection are those of the collectors that are kept. -/
theorem failures_select (e : String) : q.failures (s.select keep) e =
    if e ∈ (s.leftOut keep).endpointNames then 0 else p.failures s e := by
  have hmem : ∀ c ∈ p.ran s, c ∈ s.collectors := (Pass.ran_sublist s p).subset
  rw [hq.failures_eq_countP_ran hgq, hp.failures_eq_countP_ran hg, ran_select hcheck,
    List.countP_filter]
  by_cases he : e ∈ (s.leftOut keep).endpointNames
  · rw [if_pos he, List.countP_eq_zero]
    intro c hc hfailed
    obtain ⟨c', hc', he'⟩ := Registry.mem_endpointNames.mp he
    obtain ⟨hmem', hleft⟩ := Scraper.mem_leftOut.mp hc'
    obtain ⟨hfails, hkeep⟩ := Bool.and_eq_true_iff.mp hfailed
    have heq : c = c' := Registry.eq_of_mem_endpoints (hs.mem_all (hmem c hc))
      (hs.mem_all hmem') ((hallows c hc).endpoint_mem (beq_iff_eq.mp hfails)) he'
    exact Bool.false_ne_true (hleft.symm.trans (heq ▸ hkeep))
  · rw [if_neg he]
    refine List.countP_congr fun c hc ↦ ?_
    rw [Bool.and_eq_true_iff, and_iff_left_iff_imp]
    intro hfails
    by_contra hkeep
    refine he (Registry.mem_endpointNames.mpr ⟨c, Scraper.mem_leftOut.mpr ⟨hmem c hc, ?_⟩,
      (hallows c hc).endpoint_mem (beq_iff_eq.mp hfails)⟩)
    exact Bool.eq_false_iff.mpr hkeep

/-- The samples of a selection are those of the collectors that are kept. -/
theorem filter_samples_select (name : String) : (q.samples.filter fun x ↦ x.name == name) =
    if name ∈ (s.leftOut keep).metricNames then []
      else p.samples.filter fun x ↦ x.name == name := by
  have hmem : ∀ c ∈ p.ran s, c ∈ s.collectors := (Pass.ran_sublist s p).subset
  have hran : q.ran (s.select keep) = (p.ran s).filter keep := ran_select hcheck
  have hallows' : ∀ c ∈ q.ran (s.select keep), c.Allows s.monitored (g c) := by
    intro c hc
    rw [hran] at hc
    exact hallows c (List.mem_of_mem_filter hc)
  rw [hq.filter_samples (hs.select keep) hgq hallows', hp.filter_samples hs hg hallows, hran,
    List.filter_flatMap, List.filter_flatMap]
  by_cases hname : name ∈ (s.leftOut keep).metricNames
  · rw [if_pos hname, List.flatMap_eq_nil_iff]
    intro c hc
    obtain ⟨hc, hkeep⟩ := List.mem_filter.mp hc
    refine (hallows c hc).filter_samplesOf_eq_nil fun d hd hdname ↦ ?_
    obtain ⟨c', hc', d', hd', hdname'⟩ := Registry.mem_metricNames.mp hname
    obtain ⟨hmem', hleft⟩ := Scraper.mem_leftOut.mp hc'
    have heq : c = c' := hs.eq_of_name_eq (hmem c hc) hmem' hd hd' (hdname.trans hdname'.symm)
    exact Bool.false_ne_true (hleft.symm.trans (heq ▸ hkeep))
  · rw [if_neg hname]
    refine flatMap_filter_of_nil fun c hc hkeep ↦ ?_
    refine (hallows c hc).filter_samplesOf_eq_nil fun d hd hdname ↦ hname ?_
    exact Registry.mem_metricNames.mpr
      ⟨c, Scraper.mem_leftOut.mpr ⟨hmem c hc, hkeep⟩, d, hd, hdname⟩

end

/-- **One pass with collectors left out.** Where the logs before the passes agree, the passes do the
same, and the logs after them agree. -/
theorem selects (hs : s.Stock) (hother : other.Local) (hp : p.Of s other t log)
    (hq : q.Of (s.select keep) other t' log') (hlog : log.AgreeOn (s.freePaths keep) log') :
    p.Selects s keep q ∧
      (log ++ p.exchanges).AgreeOn (s.freePaths keep) (log' ++ q.exchanges) := by
  have hmem : ∀ c ∈ p.ran s, c ∈ s.collectors := (Pass.ran_sublist s p).subset
  obtain ⟨hsame, hhealth⟩ :=
    Dialogue.run_congr (hother.agree _) (hs.within_freePaths keep) hlog
  have hcheck : q.check = p.check := by
    rw [← hp.check_eq, ← hq.check_eq, hsame]
    rfl
  have hran : q.ran (s.select keep) = (p.ran s).filter keep := ran_select hcheck
  obtain ⟨g, hg, hall⟩ := hp.alone hs
  obtain ⟨g', hg', hall'⟩ := hq.alone (hs.select keep)
  -- A collector that is kept cannot tell the two passes apart.
  have hagree : ∀ c ∈ p.ran s, keep c = true →
      log.AgreeOn (c.paths s.client) log' := by
    intro c hc hkeep path hpath
    exact hlog path (hs.paths_subset_freePaths (hmem c hc) hkeep hpath)
  have hgq : q.outcomes = (q.ran (s.select keep)).map g := by
    rw [hg']
    refine List.map_congr_left fun c hc ↦ ?_
    have hc' := hc
    rw [hran] at hc'
    obtain ⟨hc', hkeep⟩ := List.mem_filter.mp hc'
    rw [((hall c hc').2 other log' (hother.agree _) (hagree c hc' hkeep)).1,
      ((hall' c hc).2 other log' (hother.agree _) (Log.AgreeOn.refl _ _)).1]
    rfl
  have hallows : ∀ c ∈ p.ran s, c.Allows s.monitored (g c) := fun c hc ↦ (hall c hc).1
  refine ⟨⟨hcheck, hp.failures_select hs hq hcheck hg hgq hallows,
    hp.filter_samples_select hs hq hcheck hg hgq hallows⟩, fun path hpath ↦ ?_⟩
  by_cases hsome : ∃ c ∈ p.ran s, path ∈ c.paths s.client
  · obtain ⟨c, hc, hcpath⟩ := hsome
    have hkeep := Scraper.keep_of_mem_freePaths (hmem c hc) hpath hcpath
    have hc' : c ∈ q.ran (s.select keep) := by
      rw [hran]
      exact List.mem_filter.mpr ⟨hc, hkeep⟩
    rw [((hall c hc).2 other log' (hother.agree _) (hagree c hc hkeep)).2 path hcpath]
    exact (((hall' c hc').2 other log' (hother.agree _) (Log.AgreeOn.refl _ _)).2 path hcpath).symm
  · have hnot : ∀ c ∈ p.ran s, path ∉ c.paths s.client := fun c hc hcpath ↦ hsome ⟨c, hc, hcpath⟩
    have hnot' : ∀ c ∈ q.ran (s.select keep), path ∉ c.paths s.client := by
      intro c hc
      rw [hran] at hc
      exact hnot c (List.mem_of_mem_filter hc)
    rw [hp.onPath_of_not_mem hs hnot, hhealth path hpath]
    exact (hq.onPath_of_not_mem (hs.select keep) hnot').symm

end Of

end Pass

/-! ## Runs -/

/-- **Runs with collectors left out** are alike pass by pass. -/
theorem Run.selects {s : Scraper} {keep : Collector → Bool} {other : Responder} {t t' : Tally}
    {log log' : Log} {ps qs : List Pass} (hs : s.Stock) (hother : other.Local)
    (h : Run s other t log ps) (h' : Run (s.select keep) other t' log' qs)
    (hlog : log.AgreeOn (s.freePaths keep) log') :
    ∀ u ∈ ps.zip qs, u.1.Selects s keep u.2 := by
  induction h generalizing t' log' qs with
  | nil => simp
  | cons hp _ ih =>
    cases h' with
    | nil => simp
    | cons hq hrest =>
      obtain ⟨hselects, hlog'⟩ := hp.selects hs hother hq hlog
      exact List.forall_mem_cons.mpr ⟨hselects, ih hrest hlog'⟩

/-- So are the numbers of failures over several passes. -/
theorem Pass.sum_failures_select {s : Scraper} {keep : Collector → Bool} {ps qs : List Pass}
    (hlen : ps.length = qs.length) (h : ∀ u ∈ ps.zip qs, u.1.Selects s keep u.2) (e : String) :
    (qs.map fun q ↦ q.failures (s.select keep) e).sum =
      if e ∈ (s.leftOut keep).endpointNames then 0 else (ps.map fun p ↦ p.failures s e).sum := by
  have hall : List.Forall₂ (Selects s keep) ps qs :=
    List.forall₂_iff_zip.mpr ⟨hlen, fun {p q} hpq ↦ h (p, q) hpq⟩
  induction hall with
  | nil => simp
  | @cons p q ps qs hpq hrest ih =>
    have hlen' : ps.length = qs.length := hrest.length_eq
    have hsum := ih hlen' fun u hu ↦ h u (List.mem_cons_of_mem _ hu)
    simp only [List.map_cons, List.sum_cons, hpq.failures_eq, hsum]
    split_ifs
    · rfl
    · rfl

/-- A pass of the selection sends no request for a path of a collector left out. -/
theorem Pass.Of.path_mem_freePaths {s : Scraper} {keep : Collector → Bool} {other : Responder}
    {t : Tally} {log : Log} {q : Pass} (hs : s.Stock) (hq : q.Of (s.select keep) other t log) :
    ∀ x ∈ q.exchanges, x.request.path ∈ s.freePaths keep := by
  intro x hx c hc hpath
  obtain ⟨hmem, hleft⟩ := Scraper.mem_leftOut.mp hc
  have hnot : ∀ c' ∈ q.ran (s.select keep), x.request.path ∉ c'.paths s.client := by
    intro c' hc' hpath'
    obtain ⟨hmem', hkeep⟩ := List.mem_filter.mp ((Pass.ran_sublist _ q).subset hc')
    exact hs.paths_subset_freePaths hmem' hkeep hpath' c hc hpath
  -- On this path the log stands still.
  have hstill : (log ++ q.exchanges).onPath x.request.path = log.onPath x.request.path := by
    rw [hq.onPath_of_not_mem (hs.select keep) hnot]
    exact (hs.within_health hmem).onPath_run other log (not_not.mpr hpath)
  rw [Log.onPath_append, List.append_right_eq_self] at hstill
  have hx' : x ∈ q.exchanges.onPath x.request.path :=
    List.mem_filter.mpr ⟨hx, beq_self_eq_true _⟩
  exact List.ne_nil_of_mem hx' hstill

/-! ## Error counters -/

namespace Tally

/-- The tally with the error counters of some endpoints at 0. -/
def clear (t : Tally) (es : List String) : Tally :=
  { t with errors := t.errors.map fun e ↦ (e.1, if e.1 ∈ es then 0 else e.2) }

theorem sorted_errors_clear {t : Tally} (ht : t.errors.Sorted) (es : List String) :
    (t.clear es).errors.Sorted :=
  List.pairwise_map.mpr ht

/-- Counters that are never counted up stand at 0. -/
theorem Counts.errors_eq_clear {t t' : Tally} {endpoints es : List String} {n n' : String → Nat}
    (h : t.Counts endpoints n) (h' : t'.Counts endpoints n') (hes : es ⊆ endpoints)
    (hn : ∀ e, n' e = if e ∈ es then 0 else n e) : t'.errors = (t.clear es).errors := by
  refine h'.sorted.ext (sorted_errors_clear h.sorted es) fun ⟨e, k⟩ ↦ ?_
  have hclear : (e, k) ∈ (t.clear es).errors ↔
      (e ∈ endpoints ∨ 0 < n e) ∧ k = if e ∈ es then 0 else n e := by
    rw [clear, List.mem_map]
    constructor
    · rintro ⟨⟨e', k'⟩, hmem, he⟩
      obtain ⟨rfl, rfl⟩ := Prod.mk.inj he
      obtain ⟨hshown, rfl⟩ := h.mem_errors_iff.mp hmem
      exact ⟨hshown, rfl⟩
    · rintro ⟨hshown, rfl⟩
      exact ⟨(e, n e), h.mem_errors_iff.mpr ⟨hshown, rfl⟩, rfl⟩
  rw [h'.mem_errors_iff, hclear, hn e]
  by_cases he : e ∈ es
  · simp [he, hes he]
  · simp [he]

end Tally

/-! ## Documents -/

namespace Registry

/-- Set the error counters of the collectors' endpoints to 0. -/
def resetErrors (off : Registry) (f : Family) : Family :=
  if f.name = "opnsense_exporter_endpoint_errors_total" then
    { f with
      series := f.series.map fun sr ↦
        if off.endpointNames.any fun e ↦ sr.labels.contains ("endpoint", e) then
          { sr with value := Double.ofNat 0 }
        else sr }
  else f

/-- The families without those of the collectors, and with the error counters of the collectors'
endpoints at 0. -/
def withdraw (off : Registry) (families : List Family) : List Family :=
  (families.filter fun f ↦ f.name ∉ off.metricNames).map off.resetErrors

variable {off : Registry}

theorem withdraw_append (fs gs : List Family) :
    off.withdraw (fs ++ gs) = off.withdraw fs ++ off.withdraw gs := by
  rw [withdraw, List.filter_append, List.map_append]
  rfl

theorem resetErrors_errorsFamily (off : Registry) (t : Tally) :
    off.resetErrors t.errorsFamily = (t.clear off.endpointNames).errorsFamily := by
  have hname : t.errorsFamily.name = "opnsense_exporter_endpoint_errors_total" := rfl
  have hother : "endpoint" ≠ Descriptor.instanceLabel := by decide
  have hseries : (t.errorsFamily.series.map fun sr ↦
      if off.endpointNames.any fun e ↦ sr.labels.contains ("endpoint", e) then
        { sr with value := Double.ofNat 0 }
      else sr) = (t.clear off.endpointNames).errorsFamily.series := by
    rw [Tally.errorsFamily, Tally.errorsFamily, Tally.clear, List.map_map, List.map_map]
    refine List.map_congr_left fun e _ ↦ ?_
    by_cases he : e.1 ∈ off.endpointNames
    · simp [Tally.instancePair, hother, he]
    · simp [Tally.instancePair, hother, he]
  rw [resetErrors, if_pos hname, hseries]
  rfl

theorem isEmpty_series_resetErrors (off : Registry) (f : Family) :
    (off.resetErrors f).series.isEmpty = f.series.isEmpty := by
  rw [resetErrors]
  split_ifs
  · simp
  · rfl

theorem not_mem_metricNames (hoff : off ⊆ all) {t : Tally} {f : Family} (hf : f ∈ t.families) :
    f.name ∉ off.metricNames := by
  intro hname
  obtain ⟨c, hc, d, hd, he⟩ := mem_metricNames.mp hname
  obtain ⟨hown, hprocess⟩ := not_own (hoff hc) hd
  rw [he] at hown hprocess
  rcases Tally.mem_own_or_process hf with hf | ⟨r, -, hf⟩
  · exact hown (Tally.name_mem_ownNames hf)
  · exact hprocess (ProcessReading.prefix_of_mem_families hf)

/-- Of the exporter's own metrics only the error counters change. -/
theorem withdraw_families (hoff : off ⊆ all) (t : Tally) :
    off.withdraw t.families = (t.clear off.endpointNames).families := by
  have hfamilies : ∀ t : Tally, t.families = t.allFamilies.filter fun f ↦ !f.series.isEmpty :=
    fun _ ↦ rfl
  have hkept : (t.families.filter fun f ↦ f.name ∉ off.metricNames) = t.families :=
    List.filter_eq_self.mpr fun f hf ↦ decide_eq_true (not_mem_metricNames hoff hf)
  have hall : t.allFamilies.map off.resetErrors = (t.clear off.endpointNames).allFamilies := by
    have hnodup := t.nodup_allFamilies
    rw [show t.allFamilies = t.errorsFamily :: t.allFamilies.tail from rfl, List.map_cons,
      List.nodup_cons] at hnodup
    have htail : t.allFamilies.tail.map off.resetErrors = t.allFamilies.tail.map id := by
      refine List.map_congr_left fun f hf ↦ if_neg fun hname ↦ hnodup.1 ?_
      exact List.mem_map.mpr ⟨f, hf, hname⟩
    rw [show t.allFamilies = t.errorsFamily :: t.allFamilies.tail from rfl, List.map_cons,
      resetErrors_errorsFamily, htail, List.map_id]
    rfl
  rw [withdraw, hkept, hfamilies, hfamilies, ← hall, List.filter_map]
  refine congrArg (List.map off.resetErrors) (List.filter_congr fun f _ ↦ ?_)
  rw [Function.comp_apply, isEmpty_series_resetErrors]

/-- Of the families of samples those of the collectors are left out. -/
theorem withdraw_passFamilies {s : Scraper} (hs : s.collectors ⊆ all) {p : Pass}
    {fs : List Family} (hfs : passFamilies s.descriptors p.samples = .ok fs) :
    off.withdraw fs = fs.filter fun f ↦ f.name ∉ off.metricNames := by
  rw [withdraw]
  refine (List.map_congr_left fun f hf ↦ ?_).trans (List.map_id _)
  obtain ⟨d, hget, hname, -⟩ :=
    exists_descriptor_of_mem_passFamilies hs hfs (List.mem_of_mem_filter hf)
  obtain ⟨-, c, hc, hdc⟩ := exists_of_get?_descriptorTable hget
  refine if_neg fun herrors ↦ (not_own (hs hc) hdc).1 ?_
  rw [hname, herrors]
  exact List.mem_cons_self

end Registry

namespace Scraper.Stock

variable {s : Scraper} {keep : Collector → Bool}

theorem leftOut_subset (hs : s.Stock) : s.leftOut keep ⊆ Registry.all :=
  fun _ hc ↦ hs.mem_all (mem_leftOut.mp hc).1

/-- The client has a path for every endpoint of a collector left out. -/
theorem endpointNames_subset (hs : s.Stock) :
    (s.leftOut keep).endpointNames ⊆ s.client.endpoints.keys := by
  intro e he
  obtain ⟨c, hc, he⟩ := Registry.mem_endpointNames.mp he
  have hnames : (List.all Registry.all fun c ↦ c.endpoints.all fun e ↦
      Endpoint.defaultMapping.keys.contains e) = true := by decide +kernel
  have hmem := List.all_eq_true.mp (List.all_eq_true.mp hnames c (hs.leftOut_subset hc)) e he
  rw [hs.endpoints_eq]
  exact List.contains_iff_mem.mp hmem

end Scraper.Stock

section

variable {s : Scraper} {keep : Collector → Bool} {other : Responder} {t t' : Tally} {log log' : Log}
  {p q : Pass} {fs : List Family}

/-- The descriptors of the samples are the same with collectors left out. -/
theorem Pass.Of.get?_descriptors_select (hs : s.Stock) (hq : q.Of (s.select keep) other t' log')
    {x : Sample} (hx : x ∈ q.samples) :
    (s.select keep).descriptors.get? x.name = s.descriptors.get? x.name := by
  have hall : (s.select keep).collectors ⊆ Registry.all := (hs.select keep).subperm.subset
  obtain ⟨u, hu, e, he, rfl⟩ := hq.exists_emission hx
  have hdescribed := ((hq.allows hall u hu).sound he).described
  have hmem := (List.of_mem_zip hu).1
  have hget := Registry.get?_descriptorTable hall hmem hdescribed
  have hget' := Registry.get?_descriptorTable hs.subperm.subset (List.mem_of_mem_filter hmem)
    hdescribed
  exact hget.trans hget'.symm

theorem Pass.Selects.passFamilies_eq (h : p.Selects s keep q) (hs : s.Stock)
    (hq : q.Of (s.select keep) other t' log')
    (hfs : passFamilies s.descriptors p.samples = .ok fs) :
    passFamilies (s.select keep).descriptors q.samples =
      .ok (fs.filter fun f ↦ f.name ∉ (s.leftOut keep).metricNames) := by
  have hfilter := hs.wellFormed.filter_passFamilies
    (fun name ↦ decide (name ∉ (s.leftOut keep).metricNames)) hfs
  rw [passFamilies_congr_descriptors fun x hx ↦ hq.get?_descriptors_select hs hx, ← hfilter]
  refine passFamilies_congr fun name ↦ ?_
  rw [filter_name_filter fun name ↦ decide (name ∉ (s.leftOut keep).metricNames),
    h.filter_samples_eq]
  by_cases hname : name ∈ (s.leftOut keep).metricNames
  · simp [hname]
  · simp [hname]

end

/-- The families from which the document of a pass is written when the process shows `now`. -/
def Pass.families (s : Scraper) (p : Pass) (now : Option ProcessReading) :
    Except DescriptorFault (List Family) :=
  (passFamilies s.descriptors p.samples).map fun fs ↦
    fs ++ Tally.families { p.tally with process := now }

section

variable {s : Scraper} {now : Option ProcessReading} {fs : List Family}

theorem Pass.exists_passFamilies {p : Pass} (h : p.families s now = .ok fs) :
    ∃ gs, passFamilies s.descriptors p.samples = .ok gs ∧
      fs = gs ++ Tally.families { p.tally with process := now } := by
  rw [families] at h
  cases hgs : passFamilies s.descriptors p.samples with
  | error fault =>
    rw [hgs] at h
    nomatch h
  | ok gs =>
    rw [hgs] at h
    exact ⟨gs, rfl, (Except.ok.inj h).symm⟩

theorem Pass.passDocument_of_families {p : Pass} (h : p.families s now = .ok fs) :
    Tally.passDocument { p.tally with process := now } s.descriptors p.samples =
      .ok (Exposition.render fs) := by
  obtain ⟨gs, hgs, rfl⟩ := exists_passFamilies h
  exact Tally.passDocument_eq_ok hgs _

/-- The document of a pass is read back as its families. -/
theorem Pass.read?_render_families {p : Pass} (h : p.families s now = .ok fs) :
    Exposition.read? (Exposition.render fs) = some (fs.map Exposition.familyText) := by
  obtain ⟨gs, hgs, rfl⟩ := exists_passFamilies h
  exact Tally.read?_render_append hgs _

end

/-- **Documents with collectors left out.** The document of a pass is that of the pass with all
collectors, less the families of those left out, and with the error counters of their endpoints at
0. This does not depend on what the process shows at the time. -/
theorem Run.document_select {s : Scraper} {keep : Collector → Bool} {other : Responder}
    {process process' : Option ProcessReading} {log : Log} {before after before' after' : List Pass}
    {p q : Pass} (hs : s.Stock) (hother : other.Local)
    (h : Run s other (s.freshTally process) log (before ++ p :: after))
    (h' : Run (s.select keep) other ((s.select keep).freshTally process') log
      (before' ++ q :: after'))
    (hlen : before.length = before'.length) (now : Option ProcessReading) :
    ∃ fs, p.families s now = .ok fs ∧
      q.families (s.select keep) now = .ok ((s.leftOut keep).withdraw fs) := by
  obtain ⟨t, log₁, hp, hmonitored, hscrapes, hcounts⟩ := h.counts (Tally.counts_fresh _ _ _)
  obtain ⟨t', log₂, hq, hmonitored', hscrapes', hcounts'⟩ := h'.counts (Tally.counts_fresh _ _ _)
  have hselects := Run.selects hs hother h h' (Log.AgreeOn.refl _ log)
  rw [List.zip_append hlen, List.zip_cons_cons] at hselects
  have hbefore : ∀ u ∈ before.zip before', u.1.Selects s keep u.2 :=
    fun u hu ↦ hselects u (List.mem_append_left _ hu)
  have hpq : p.Selects s keep q := hselects (p, q) (List.mem_append_right _ List.mem_cons_self)
  obtain ⟨errors, hptally⟩ := hp.exists_tally_eq
  obtain ⟨errors', hqtally⟩ := hq.exists_tally_eq
  -- Both tallies show the failures so far, and one of them only those of the collectors kept.
  have herrors : q.tally.errors = (p.tally.clear (s.leftOut keep).endpointNames).errors := by
    refine Tally.Counts.errors_eq_clear (hp.counts hcounts) (hq.counts hcounts')
      hs.endpointNames_subset fun e ↦ ?_
    rw [Pass.sum_failures_select hlen hbefore, hpq.failures_eq]
    split_ifs
    · rfl
    · rfl
  have htally : ({ q.tally with process := now } : Tally) =
      Tally.clear { p.tally with process := now } (s.leftOut keep).endpointNames := by
    have hhealth : q.tally.health = p.tally.health := by
      rw [hptally, hqtally]
      exact congrArg Scraper.healthOf hpq.check_eq
    have hmonitored'' : q.tally.monitored = p.tally.monitored := by
      rw [hptally, hqtally]
      exact hmonitored'.trans hmonitored.symm
    have hscrapes'' : q.tally.scrapes = p.tally.scrapes := by
      rw [hptally, hqtally]
      exact congrArg (· + 1) (hscrapes'.trans (hlen ▸ hscrapes.symm))
    exact (Tally.mk.injEq ..).mpr ⟨hmonitored'', hhealth, hscrapes'', herrors, rfl⟩
  obtain ⟨fs, hfs⟩ : ∃ fs, passFamilies s.descriptors p.samples = .ok fs :=
    ⟨_, hs.wellFormed.passFamilies p.samples⟩
  refine ⟨fs ++ Tally.families { p.tally with process := now }, ?_, ?_⟩
  · rw [Pass.families, hfs]
    rfl
  · rw [Pass.families, hpq.passFamilies_eq hs hq hfs, Registry.withdraw_append,
      Registry.withdraw_passFamilies hs.subperm.subset hfs,
      Registry.withdraw_families hs.leftOut_subset, ← htally]
    rfl

end FirewallExporter
