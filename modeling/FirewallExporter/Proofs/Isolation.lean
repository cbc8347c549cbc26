import FirewallExporter.Proofs.FanOut

/-!
# Isolation of the areas

Two passes from the same state, against responders that may differ on the paths of one collector
only, show the same outside of the area of this collector. `Collector.redact` takes out of a
document what belongs to the area: the families under its prefix, and the error counters of its
endpoints. What is left is the same in both documents, in the same order, and so are the exchanges
on all other paths.

The collector itself may do anything that the rest of its endpoints' replies make it do. All that is
used of it is that it is proper: it does not crash the pass, emits under its own names, and fails
with errors of its own endpoints. The other collectors end as they would alone, against either of
the two responders.
-/

namespace FirewallExporter

/-! ## Areas -/

namespace Collector

/-- Whether a metric name begins with that of the area. -/
def owns (c : Collector) (name : String) : Bool :=
  (Descriptor.fullName c.name "").toList.isPrefixOf name.toList

/-- Take out the error counters of the collector's endpoints. -/
def redactErrors (c : Collector) (f : Family) : Family :=
  if f.name = "opnsense_exporter_endpoint_errors_total" then
    { f with
      series := f.series.filter fun sr ↦ !c.endpoints.any fun e ↦ ("endpoint", e) ∈ sr.labels }
  else f

/-- The families without those of the area and without the error counters of its endpoints. One
that has no series left is left out. -/
def redact (c : Collector) (families : List Family) : List Family :=
  ((families.filter fun f ↦ !c.owns f.name).map c.redactErrors).filter fun f ↦ !f.series.isEmpty

theorem redact_append (c : Collector) (fs gs : List Family) :
    c.redact (fs ++ gs) = c.redact fs ++ c.redact gs := by
  rw [redact, List.filter_append, List.map_append, List.filter_append]
  rfl

theorem series_ne_nil_of_redactErrors {c : Collector} {f : Family}
    (h : (c.redactErrors f).series ≠ []) : f.series ≠ [] := by
  rw [redactErrors] at h
  split_ifs at h
  · exact fun hnil ↦ h (by rw [hnil]; rfl)
  · exact h

theorem redact_filter_series (c : Collector) (families : List Family) :
    c.redact (families.filter fun f ↦ !f.series.isEmpty) = c.redact families := by
  rw [redact, redact, List.filter_filter, List.filter_map, List.filter_map, List.filter_filter,
    List.filter_filter]
  refine congrArg (List.map c.redactErrors) (List.filter_congr fun f _ ↦ ?_)
  by_cases hf : f.series = []
  · have hred : (c.redactErrors f).series = [] :=
      not_not.mp fun h ↦ series_ne_nil_of_redactErrors h hf
    simp [hf, hred]
  · rw [List.isEmpty_eq_false_iff.mpr hf, Bool.not_false, Bool.and_true]

theorem redact_singleton_congr (c : Collector) {f g : Family} (hname : f.name = g.name)
    (h : c.redactErrors f = c.redactErrors g) : c.redact [f] = c.redact [g] := by
  rw [redact, redact, List.filter_singleton, List.filter_singleton, hname]
  cases c.owns g.name with
  | false => simp only [Bool.not_false, cond_true, List.map_cons, h, List.map_nil]
  | true => rfl

theorem redactErrors_errorsFamily (c : Collector) (t : Tally) :
    c.redactErrors t.errorsFamily =
      { t with errors := t.errors.filter fun e ↦ e.1 ∉ c.endpoints }.errorsFamily := by
  have hname : t.errorsFamily.name = "opnsense_exporter_endpoint_errors_total" := rfl
  have hother : "endpoint" ≠ Descriptor.instanceLabel := by decide
  have hseries : (t.errorsFamily.series.filter fun sr ↦
      !c.endpoints.any fun e ↦ ("endpoint", e) ∈ sr.labels) =
      { t with errors := t.errors.filter fun e ↦ e.1 ∉ c.endpoints }.errorsFamily.series := by
    rw [Tally.errorsFamily, Tally.errorsFamily, List.filter_map]
    refine congrArg (List.map _) (List.filter_congr fun e _ ↦ ?_)
    rw [Bool.eq_iff_iff]
    suffices hmem : (∀ x ∈ c.endpoints, ¬x = e.1) ↔ e.1 ∉ c.endpoints by
      simpa [Tally.instancePair, hother] using hmem
    exact ⟨fun h he ↦ h e.1 he rfl, fun h x hx he ↦ h (he ▸ hx)⟩
  rw [redactErrors, if_pos hname, hseries]
  rfl

/-- What is left of a tally depends on the counters of other endpoints only. -/
theorem redact_families (c : Collector) (t : Tally) {errors errors' : SortedTable String Nat}
    (h : errors.filter (fun e ↦ e.1 ∉ c.endpoints) = errors'.filter fun e ↦ e.1 ∉ c.endpoints) :
    c.redact { t with errors := errors }.families =
      c.redact { t with errors := errors' }.families := by
  have hfamilies : ∀ t : Tally, c.redact t.families =
      c.redact [t.errorsFamily] ++ c.redact t.allFamilies.tail := by
    intro t
    rw [← c.redact_append]
    exact c.redact_filter_series t.allFamilies
  have herrors : c.redactErrors { t with errors := errors }.errorsFamily =
      c.redactErrors { t with errors := errors' }.errorsFamily := by
    rw [redactErrors_errorsFamily, redactErrors_errorsFamily]
    dsimp only
    rw [h]
  rw [hfamilies, hfamilies, c.redact_singleton_congr (by rfl) herrors]
  rfl

end Collector

namespace Registry

/-- The metrics of a collector are under its prefix. -/
theorem owns_of_mem {c : Collector} (hc : c ∈ all) {d : Descriptor} (hd : d ∈ c.descriptors) :
    c.owns d.name = true := by
  obtain ⟨x, hx⟩ := exists_fullName hc d hd
  refine List.isPrefixOf_iff_prefix.mpr ⟨x.toList, ?_⟩
  simp only [hx, Descriptor.fullName, String.toList_append, String.toList_empty, List.append_nil]

/-- No prefix goes on to that of another collector. -/
theorem name_eq_of_owns {c c' : Collector} (hc : c ∈ all) (hc' : c' ∈ all)
    (h : c.owns (Descriptor.fullName c'.name "") = true) : c.name = c'.name := by
  have hall : (List.all all fun c ↦ List.all all fun c' ↦
      !c.owns (Descriptor.fullName c'.name "") || c.name == c'.name) = true := by decide +kernel
  have hcc := List.all_eq_true.mp (List.all_eq_true.mp hall c hc) c' hc'
  rwa [h, Bool.not_true, Bool.false_or, beq_iff_eq] at hcc

/-- A metric is under the prefix of its own collector only. -/
theorem owns_iff {c c' : Collector} (hc : c ∈ all) (hc' : c' ∈ all) {d : Descriptor}
    (hd : d ∈ c'.descriptors) : c.owns d.name = true ↔ c = c' := by
  constructor
  · intro h
    have h' := owns_of_mem hc' hd
    refine List.inj_on_of_nodup_map nodup_names_all hc hc' ?_
    rcases List.prefix_or_prefix_of_prefix (List.isPrefixOf_iff_prefix.mp h)
      (List.isPrefixOf_iff_prefix.mp h') with hpre | hpre
    · exact name_eq_of_owns hc hc' (List.isPrefixOf_iff_prefix.mpr hpre)
    · exact (name_eq_of_owns hc' hc (List.isPrefixOf_iff_prefix.mpr hpre)).symm
  · rintro rfl
    exact owns_of_mem hc hd

end Registry

theorem Collector.Allows.endpoint_mem {c : Collector} {monitored : String} {o : TaskOutcome}
    (h : c.Allows monitored o) {e : String} (he : Scraper.endpointOf? o = some e) :
    e ∈ c.endpoints := by
  obtain ⟨emissions, failure, rfl, -, hfailure⟩ := h
  cases failure with
  | none => nomatch he
  | some e' => exact Option.some.inj he ▸ hfailure e' rfl

/-! ## Two passes -/

namespace Pass.Of

variable {s : Scraper} {one two : Responder} {t : Tally} {log : Log} {p q : Pass} {c : Collector}

section

variable (hp : p.Of s one t log) (hq : q.Of s two t log) (hs : s.Stock) (hc : c ∈ s.collectors)
  (hagree : one.Agree (c.paths s.client)ᶜ two)

include hp hq hs hc hagree

/-- The health check finds the same. -/
theorem health_eq : p.health = q.health := by
  have hrun := (Dialogue.run_congr hagree (hs.within_health hc) (Log.AgreeOn.refl _ log)).1
  rw [hp.check_eq, hq.check_eq] at hrun
  rw [Pass.health, Pass.health, hrun]

theorem ran_eq : q.ran s = p.ran s := by
  rw [Pass.ran, Pass.ran, hp.health_eq hq hs hc hagree]

/-- **Only the task of the collector may end differently.** -/
theorem exists_outcomes :
    ∃ g g' : Collector → TaskOutcome, p.outcomes = (p.ran s).map g ∧
      q.outcomes = (p.ran s).map g' ∧
      ∀ c' ∈ p.ran s, c'.Allows s.monitored (g c') ∧ c'.Allows s.monitored (g' c') ∧
        (c' ≠ c → g c' = g' c') := by
  obtain ⟨g, hg, hall⟩ := hp.alone hs
  obtain ⟨g', hg', hall'⟩ := hq.alone hs
  rw [hp.ran_eq hq hs hc hagree] at hg' hall'
  refine ⟨g, g', hg, hg', fun c' hc' ↦ ⟨(hall c' hc').1, (hall' c' hc').1, fun hne ↦ ?_⟩⟩
  have hmem := (Pass.ran_sublist s p).subset hc'
  have hother := hagree.mono (hs.paths_subset_compl hc hmem hne)
  rw [((hall c' hc').2 two log hother (Log.AgreeOn.refl _ _)).1,
    ((hall' c' hc').2 two log hother.right (Log.AgreeOn.refl _ _)).1]

/-- The requests on all other paths are the same, and so is what came of them. -/
theorem onPath_eq {path : String} (hpath : path ∉ c.paths s.client) :
    p.exchanges.onPath path = q.exchanges.onPath path := by
  refine hp.onPath_congr hq hs (hp.ran_eq hq hs hc hagree) hagree (hs.within_health hc) hpath ?_
  intro c' hc' hmem
  refine hs.paths_subset_compl hc ((Pass.ran_sublist s p).subset hc') fun he ↦ ?_
  exact hpath (he ▸ hmem)

/-- The samples of all metrics outside the area are the same. -/
theorem filter_samples_eq {name : String} (hname : c.owns name = false) :
    (p.samples.filter fun x ↦ x.name == name) = q.samples.filter fun x ↦ x.name == name := by
  obtain ⟨g, g', hg, hg', hall⟩ := hp.exists_outcomes hq hs hc hagree
  have hran := hp.ran_eq hq hs hc hagree
  rw [hp.filter_samples hs hg fun c' hc' ↦ (hall c' hc').1,
    hq.filter_samples hs (hran ▸ hg') (hran ▸ fun c' hc' ↦ (hall c' hc').2.1), hran,
    List.filter_flatMap, List.filter_flatMap]
  refine List.flatMap_congr fun c' hc' ↦ ?_
  by_cases hne : c' = c
  -- What the collector itself emits is all under its own prefix.
  · have hnone : ∀ d ∈ c'.descriptors, d.name ≠ name := by
      intro d hd he
      have howns := Registry.owns_of_mem (hs.mem_all hc) (hne ▸ hd)
      rw [he, hname] at howns
      exact Bool.false_ne_true howns
    rw [(hall c' hc').1.filter_samplesOf_eq_nil hnone,
      (hall c' hc').2.1.filter_samplesOf_eq_nil hnone]
  · rw [(hall c' hc').2.2 hne]

/-- The error counters of all other endpoints are the same. -/
theorem filter_errors_eq :
    (p.tally.errors.filter fun e ↦ e.1 ∉ c.endpoints) =
      q.tally.errors.filter fun e ↦ e.1 ∉ c.endpoints := by
  obtain ⟨g, g', hg, hg', hall⟩ := hp.exists_outcomes hq hs hc hagree
  rw [hp.tally_eq, hq.tally_eq, Tally.countErrors_perm hp.joined_perm,
    Tally.countErrors_perm hq.joined_perm, hg, hg', hp.health_eq hq hs hc hagree]
  by_cases hmem : c ∈ p.ran s
  · obtain ⟨before, after, hsplit⟩ := List.append_of_mem hmem
    have hnodup := (Pass.ran_sublist s p).nodup hs.nodup
    rw [hsplit, List.nodup_middle, List.nodup_cons, List.mem_append, not_or] at hnodup
    have hsame : ∀ c' ∈ before ++ after, g c' = g' c' := by
      intro c' hc'
      have hran : c' ∈ p.ran s := by
        rw [hsplit]
        exact List.perm_middle.mem_iff.mpr (List.mem_cons_of_mem _ hc')
      refine (hall c' hran).2.2 fun he ↦ ?_
      exact (not_or.mpr hnodup.1) (List.mem_append.mp (he ▸ hc'))
    have hrest : ∀ f : Collector → TaskOutcome, (∀ e, Scraper.endpointOf? (f c) = some e →
        e ∈ c.endpoints) → ((Scraper.countErrors (t.setHealth q.health)
          ((p.ran s).map f)).recordScrape.errors.filter fun e ↦ e.1 ∉ c.endpoints) =
        (Scraper.countErrors (t.setHealth q.health)
          ((before ++ after).map f)).errors.filter fun e ↦ e.1 ∉ c.endpoints := by
      intro f hf
      rw [hsplit, List.map_append, List.map_cons, List.map_append]
      exact Tally.filter_errors_countErrors hf _ _ _
    rw [hrest g fun e ↦ (hall c hmem).1.endpoint_mem,
      hrest g' fun e ↦ (hall c hmem).2.1.endpoint_mem, List.map_congr_left hsame]
  · rw [List.map_congr_left fun c' hc' ↦ (hall c' hc').2.2 fun he ↦ hmem (he ▸ hc')]

end

/-- **Isolation.** -/
theorem isolated (hs : s.Stock) (hc : c ∈ s.collectors)
    (hagree : one.Agree (c.paths s.client)ᶜ two) (hp : p.Of s one t log) (hq : q.Of s two t log) :
    (∃ fs gs, p.tally.passDocument s.descriptors p.samples =
          .ok (Exposition.render (fs ++ p.tally.families)) ∧
        q.tally.passDocument s.descriptors q.samples =
          .ok (Exposition.render (gs ++ q.tally.families)) ∧
        Exposition.read? (Exposition.render (fs ++ p.tally.families)) =
          some ((fs ++ p.tally.families).map Exposition.familyText) ∧
        Exposition.read? (Exposition.render (gs ++ q.tally.families)) =
          some ((gs ++ q.tally.families).map Exposition.familyText) ∧
        c.redact (fs ++ p.tally.families) = c.redact (gs ++ q.tally.families) ∧
        ∀ f ∈ fs ++ gs, c.owns f.name = true → f.name ∈ c.descriptors.map Descriptor.name) ∧
      p.tally.upFamily = q.tally.upFamily ∧ p.tally.firewallFamily = q.tally.firewallFamily ∧
      p.tally.scrapesFamily = q.tally.scrapesFamily ∧
      ∀ path ∉ c.paths s.client, p.exchanges.onPath path = q.exchanges.onPath path := by
  have hhealth := hp.health_eq hq hs hc hagree
  obtain ⟨perrors, hptally⟩ := hp.exists_tally_eq
  obtain ⟨qerrors, hqtally⟩ := hq.exists_tally_eq
  have hfilter := hp.filter_errors_eq hq hs hc hagree
  rw [hptally, hqtally, hhealth] at hfilter ⊢
  obtain ⟨fs, hfs⟩ : ∃ fs, passFamilies s.descriptors p.samples = .ok fs :=
    ⟨_, hs.wellFormed.passFamilies p.samples⟩
  obtain ⟨gs, hgs⟩ : ∃ gs, passFamilies s.descriptors q.samples = .ok gs :=
    ⟨_, hs.wellFormed.passFamilies q.samples⟩
  have hown : (fs.filter fun f ↦ !c.owns f.name) = gs.filter fun f ↦ !c.owns f.name := by
    have hpfilter := hs.wellFormed.filter_passFamilies (fun name ↦ !c.owns name) hfs
    have hqfilter := hs.wellFormed.filter_passFamilies (fun name ↦ !c.owns name) hgs
    refine Except.ok.inj (hpfilter.symm.trans (Eq.trans ?_ hqfilter))
    refine passFamilies_congr fun name ↦ ?_
    rw [filter_name_filter fun name ↦ !c.owns name, filter_name_filter fun name ↦ !c.owns name]
    cases hname : c.owns name with
    | true => rfl
    | false =>
      rw [Bool.not_false, if_pos rfl, if_pos rfl]
      exact hp.filter_samples_eq hq hs hc hagree hname
  -- A family under the prefix has a descriptor, and no other collector has one there.
  have hnames : ∀ f ∈ fs ++ gs, c.owns f.name = true →
      f.name ∈ c.descriptors.map Descriptor.name := by
    intro f hf howns
    obtain ⟨name, d, hd, _, rfl⟩ : ∃ name d, s.descriptors.get? name = some d ∧ ∃ samples,
        f = d.family samples := by
      rcases List.mem_append.mp hf with hf | hf
      · obtain ⟨-, name, d, hd, rfl⟩ := (mem_passFamilies hfs).mp hf
        exact ⟨name, d, hd, _, rfl⟩
      · obtain ⟨-, name, d, hd, rfl⟩ := (mem_passFamilies hgs).mp hf
        exact ⟨name, d, hd, _, rfl⟩
    obtain ⟨-, c', hc', hdc'⟩ := Registry.exists_of_get?_descriptorTable hd
    rw [(Registry.owns_iff (hs.mem_all hc) (hs.mem_all hc') hdc').mp howns]
    exact List.mem_map_of_mem hdc'
  refine ⟨⟨fs, gs, Tally.passDocument_eq_ok hfs _, Tally.passDocument_eq_ok hgs _,
    Tally.read?_render_append hfs _, Tally.read?_render_append hgs _, ?_, hnames⟩, rfl, rfl, rfl,
    fun path hpath ↦ ?_⟩
  · rw [c.redact_append, c.redact_append, Collector.redact, hown, ← Collector.redact]
    exact congrArg _
      (c.redact_families { t with health := q.health, scrapes := t.scrapes + 1 } hfilter)
  · exact hp.onPath_eq hq hs hc hagree hpath

end Pass.Of

/-- A firewall like the steady one, except that it rejects requests for the ARP table. -/
def Responder.arpless : Responder := .perPath fun path _ ↦
  if path = Endpoint.arp.path then .answered ⟨500, some []⟩ else .oneRow

/-- A pass over the two tables of which one cannot be had. -/
def Pass.halved : Pass :=
  Scraper.ofTables.pass .arpless .document (Scraper.ofTables.freshTally none) []

theorem Pass.Of.isolated_halved :
    Scraper.ofTables.Stock ∧ ArpTable.collector ∈ Scraper.ofTables.collectors ∧
      Responder.steady.Agree (ArpTable.collector.paths Scraper.ofTables.client)ᶜ .arpless ∧
      Pass.forward.Of .ofTables .steady (Scraper.ofTables.freshTally none) [] ∧
      Pass.halved.Of .ofTables .arpless (Scraper.ofTables.freshTally none) [] ∧
      Pass.forward.samples.length = 2 ∧ Pass.halved.samples.length = 1 ∧
      Pass.halved.tally.errorCount "arp" = 1 ∧
      Pass.forward.exchanges.onPath Endpoint.cron.path =
        Pass.halved.exchanges.onPath Endpoint.cron.path := by
  have hs := Scraper.stock_ofTables
  have hc : ArpTable.collector ∈ Scraper.ofTables.collectors :=
    List.mem_cons_of_mem _ List.mem_cons_self
  have hagree : Responder.steady.Agree (ArpTable.collector.paths Scraper.ofTables.client)ᶜ
      .arpless := by
    refine Responder.agree_perPath fun path hpath ↦ ?_
    funext n
    rw [if_neg]
    rintro rfl
    exact hpath ⟨Endpoint.arp.name, List.mem_cons_self, by decide +kernel⟩
  have hp : Pass.forward.Of .ofTables .steady (Scraper.ofTables.freshTally none) [] :=
    Pass.of_pass ..
  have hq : Pass.halved.Of .ofTables .arpless (Scraper.ofTables.freshTally none) [] :=
    Pass.of_pass ..
  have hcron : Endpoint.cron.path ∉ ArpTable.collector.paths Scraper.ofTables.client := by
    rintro ⟨e, he, hpath⟩
    obtain rfl := List.mem_singleton.mp he
    exact absurd hpath (by decide +kernel)
  obtain ⟨-, -, -, -, hpaths⟩ := Pass.Of.isolated hs hc hagree hp hq
  exact ⟨hs, hc, hagree, hp, hq, by decide +kernel, by decide +kernel, by decide +kernel,
    hpaths _ hcron⟩

end FirewallExporter
