import FirewallExporter.Proofs.Run

/-!
# The fan-out of a pass

The tasks of a pass run at the same time and are joined in any order. Under the default mapping no
two built-in collectors send a request for the same path, so each task ends as it would have ended
alone (`Pass.Of.alone`), and the order of the steps does not show in the outcomes at all. The order
of joining shows in the order of the blocks of samples, but a document is made metric by metric, and
no metric belongs to two collectors.
-/

namespace FirewallExporter

/-! ## Stock scrapers -/

/-- A scraper with some of the built-in collectors, in any order, and the default mapping. -/
structure Scraper.Stock (s : Scraper) : Prop where
  subperm : s.collectors.Subperm Registry.all
  endpoints_eq : s.client.endpoints = Endpoint.defaultMapping

/-- Different endpoints have different default paths. -/
theorem Endpoint.eq_of_get?_defaultMapping {e e' path : String}
    (h : Endpoint.defaultMapping.get? e = some path)
    (h' : Endpoint.defaultMapping.get? e' = some path) : e = e' := by
  obtain ⟨x, hx, he⟩ := List.mem_map.mp (SortedTable.mem_of_get?_ofList h)
  obtain ⟨y, hy, he'⟩ := List.mem_map.mp (SortedTable.mem_of_get?_ofList h')
  have hpaths : (Endpoint.all.map Endpoint.path).Nodup := by decide
  have hpath : x.path = y.path := (Prod.mk.inj he).2.trans (Prod.mk.inj he').2.symm
  rw [← (Prod.mk.inj he).1, ← (Prod.mk.inj he').1, List.inj_on_of_nodup_map hpaths hx hy hpath]

namespace Scraper.Stock

variable {s : Scraper} (hs : s.Stock)

include hs

theorem mem_all {c : Collector} (hc : c ∈ s.collectors) : c ∈ Registry.all := hs.subperm.subset hc

theorem proper {c : Collector} (hc : c ∈ s.collectors) : c.Proper :=
  Registry.proper_of_mem_all (hs.mem_all hc)

theorem nodup : s.collectors.Nodup := by
  obtain ⟨l, hperm, hsub⟩ := hs.subperm
  exact hperm.nodup_iff.mp (hsub.nodup (Registry.nodup_names_all.of_map Collector.name))

theorem wellFormed : WellFormed s.descriptors :=
  Registry.wellFormed_descriptorTable hs.subperm.subset

/-- A path is that of one endpoint only. -/
theorem disjoint_pathsOf {es es' : List String} (h : es.Disjoint es') :
    s.client.pathsOf es ⊆ (s.client.pathsOf es')ᶜ := by
  rintro path ⟨e, he, hpath⟩ ⟨e', he', hpath'⟩
  rw [hs.endpoints_eq] at hpath hpath'
  exact h he (Endpoint.eq_of_get?_defaultMapping hpath hpath' ▸ he')

/-- No path is one of two collectors. -/
theorem paths_subset_compl {c c' : Collector} (hc : c ∈ s.collectors) (hc' : c' ∈ s.collectors)
    (hne : c' ≠ c) : c'.paths s.client ⊆ (c.paths s.client)ᶜ := by
  have hpair := (List.nodup_flatMap.mp (List.nodup_cons.mp Registry.nodup_endpoints_all).2).2
  have hsymm : Std.Symm (Function.onFun List.Disjoint Collector.endpoints) :=
    ⟨fun _ _ h ↦ h.symm⟩
  exact hs.disjoint_pathsOf (hpair.forall (hs.mem_all hc') (hs.mem_all hc) hne)

/-- No collector asks for the path of the health check. -/
theorem health_subset_compl {c : Collector} (hc : c ∈ s.collectors) :
    s.client.pathsOf [Endpoint.health.name] ⊆ (c.paths s.client)ᶜ := by
  refine hs.disjoint_pathsOf (List.singleton_disjoint.mpr fun hmem ↦ ?_)
  exact (List.nodup_cons.mp Registry.nodup_endpoints_all).1
    (List.mem_flatMap.mpr ⟨c, hs.mem_all hc, hmem⟩)

/-- The health check keeps off the paths of all collectors. -/
theorem within_health {c : Collector} (hc : c ∈ s.collectors) :
    (s.client.fetch Health.query).Within (c.paths s.client)ᶜ :=
  (s.client.within_fetch Health.query List.mem_cons_self).mono (hs.health_subset_compl hc)

/-- A metric belongs to one collector only. -/
theorem eq_of_name_eq {c c' : Collector} (hc : c ∈ s.collectors) (hc' : c' ∈ s.collectors)
    {d d' : Descriptor} (hd : d ∈ c.descriptors) (hd' : d' ∈ c'.descriptors)
    (hname : d.name = d'.name) : c = c' := by
  by_contra hne
  have hnames := Registry.nodup_metricNames_all
  rw [Registry.metricNames, List.map_flatMap, List.nodup_flatMap] at hnames
  have hsymm : Std.Symm (Function.onFun List.Disjoint
      fun c : Collector ↦ c.descriptors.map Descriptor.name) := ⟨fun _ _ h ↦ h.symm⟩
  have hdisjoint := hnames.2.forall (hs.mem_all hc) (hs.mem_all hc') hne
  exact hdisjoint (List.mem_map_of_mem hd) (hname ▸ List.mem_map_of_mem hd')

end Scraper.Stock

/-! ## Tasks that do not meet -/

/-- The collectors that a pass updated. -/
def Pass.ran (s : Scraper) (p : Pass) : List Collector :=
  if p.health.systemUp then s.collectors else []

theorem Pass.ran_of_up {s : Scraper} {p : Pass} (hup : p.health.systemUp = true) :
    p.ran s = s.collectors :=
  if_pos hup

theorem Pass.ran_of_down {s : Scraper} {p : Pass} (hdown : p.health.systemUp = false) :
    p.ran s = [] :=
  if_neg (Bool.eq_false_iff.mp hdown)

theorem Pass.ran_sublist (s : Scraper) (p : Pass) : (p.ran s).Sublist s.collectors := by
  rw [Pass.ran]
  split_ifs
  · exact List.Sublist.refl _
  · exact List.nil_sublist _

namespace Pass.Of

variable {s : Scraper} {one : Responder} {t : Tally} {log : Log} {p : Pass}

/-- **A task of a pass ends as if it were alone.** The run alone may be against any responder and
after any log that look the same on the paths of the collector. -/
theorem alone (hp : p.Of s one t log) (hs : s.Stock) :
    ∃ g : Collector → TaskOutcome, p.outcomes = (p.ran s).map g ∧
      ∀ c ∈ p.ran s, c.Allows s.monitored (g c) ∧ ∀ (two : Responder) (log₂ : Log),
        one.Agree (c.paths s.client) two → log.AgreeOn (c.paths s.client) log₂ →
        g c = ((c.update s.client s.monitored).run two log₂).1 ∧
          (log ++ p.exchanges).AgreeOn (c.paths s.client)
            ((c.update s.client s.monitored).run two log₂).2 := by
  cases hup : p.health.systemUp with
  | false =>
    rw [Pass.ran_of_down hup]
    exact ⟨fun _ ↦ .crashed, hp.outcomes_of_down hup, by simp⟩
  | true =>
    rw [Pass.ran_of_up hup]
    cases hp with
    | down _ hdown => exact absurd (hdown.symm.trans hup) Bool.false_ne_true
    | @up want check asked sent outcomes joined hcheck _ hrun _ =>
      have : Nonempty TaskOutcome := ⟨.crashed⟩
      obtain ⟨g, hg, hall⟩ := hrun.alone hs.nodup
      refine ⟨g, hg, fun c hc ↦ ⟨(hall c hc).1 _ ((hs.proper hc).ends _ _), ?_⟩⟩
      intro two log₂ hagree hlog
      -- The health check has not been on the paths of the collector.
      have hasked : (log ++ asked).AgreeOn (c.paths s.client) log := by
        intro path hpath
        have hsame := (hs.within_health hc).onPath_run one log (not_not.mpr hpath)
        rwa [hcheck] at hsame
      rw [← List.append_assoc]
      exact (hall c hc).2 (c.paths s.client) two log₂ ((hs.proper hc).within _ _)
        (fun c' hc' hne ↦ ((hs.proper hc').within _ _).mono (hs.paths_subset_compl hc hc' hne))
        hagree (hasked.trans hlog)

theorem log_of_down (hp : p.Of s one t log) (hdown : p.health.systemUp = false) :
    log ++ p.exchanges = ((s.client.fetch Health.query).run one log).2 := by
  cases hp with
  | down hcheck _ => rw [hcheck]
  | up _ hup _ _ => exact absurd (hdown.symm.trans hup) Bool.false_ne_true

/-- On a path of no collector there are the requests of the health check only. -/
theorem onPath_of_not_mem (hp : p.Of s one t log) (hs : s.Stock) {path : String}
    (hpath : ∀ c ∈ p.ran s, path ∉ c.paths s.client) :
    (log ++ p.exchanges).onPath path =
      ((s.client.fetch Health.query).run one log).2.onPath path := by
  cases hup : p.health.systemUp with
  | false => rw [hp.log_of_down hup]
  | true =>
    rw [Pass.ran_of_up hup] at hpath
    cases hp with
    | down _ hdown => exact absurd (hdown.symm.trans hup) Bool.false_ne_true
    | @up want check asked sent outcomes joined hcheck _ hrun _ =>
      rw [hcheck, ← List.append_assoc]
      refine hrun.onPath_of_within fun d hd ↦ ?_
      obtain ⟨c, hc, rfl⟩ := List.mem_map.mp hd
      exact ((hs.proper hc).within s.client s.monitored).mono
        (Set.subset_compl_singleton_iff.mpr (hpath c hc))

end Pass.Of

/-! ## Blocks of samples -/

/-- The samples of a task have names from the descriptors of its collector. -/
theorem Collector.Allows.exists_descriptor {c : Collector} {monitored : String} {o : TaskOutcome}
    (h : c.Allows monitored o) {x : Sample} (hx : x ∈ Scraper.samplesOf o) :
    ∃ d ∈ c.descriptors, d.name = x.name := by
  obtain ⟨emissions, failure, rfl, hsound, -⟩ := h
  obtain ⟨e, he, hsample⟩ := List.mem_filterMap.mp hx
  rw [Emission.sample?] at hsample
  split_ifs at hsample
  exact ⟨e.descriptor, (hsound e he).described, by rw [← Option.some.inj hsample]; rfl⟩

/-- A task leaves no samples of the metrics of other collectors. -/
theorem Collector.Allows.filter_samplesOf_eq_nil {c : Collector} {monitored : String}
    {o : TaskOutcome} (h : c.Allows monitored o) {name : String}
    (hname : ∀ d ∈ c.descriptors, d.name ≠ name) :
    (Scraper.samplesOf o).filter (fun x ↦ x.name == name) = [] := by
  refine List.filter_eq_nil_iff.mpr fun x hx he ↦ ?_
  obtain ⟨d, hd, hdname⟩ := h.exists_descriptor hx
  exact hname d hd (hdname.trans (beq_iff_eq.mp he))

/-- Blocks of which one at most is not empty make the same list in any order. -/
private theorem flatMap_perm_eq {α β : Type} {f : α → List β} {as bs : List α} (h : as.Perm bs)
    (hnodup : as.Nodup) (hone : ∀ a ∈ as, ∀ b ∈ as, f a ≠ [] → f b ≠ [] → a = b) :
    as.flatMap f = bs.flatMap f := by
  induction h with
  | nil => rfl
  | cons a _ ih =>
    rw [List.flatMap_cons, List.flatMap_cons, ih (List.nodup_cons.mp hnodup).2]
    exact fun x hx y hy ↦ hone x (List.mem_cons_of_mem _ hx) y (List.mem_cons_of_mem _ hy)
  | swap a b l =>
    have hne : b ≠ a := fun he ↦ (List.nodup_cons.mp hnodup).1 (he ▸ List.mem_cons_self)
    simp only [List.flatMap_cons]
    -- Of the two blocks that change places one is empty.
    by_cases ha : f a = []
    · rw [ha, List.nil_append, List.nil_append]
    · have hb : f b = [] := by
        by_contra hb
        exact hne (hone b List.mem_cons_self a (List.mem_cons_of_mem _ List.mem_cons_self) hb ha)
      rw [hb, List.nil_append, List.nil_append]
  | trans hab _ ih ih' =>
    rw [ih hnodup hone, ih' (hab.nodup_iff.mp hnodup)]
    exact fun x hx y hy ↦ hone x (hab.mem_iff.mpr hx) y (hab.mem_iff.mpr hy)

/-- Tasks that end in one order and are joined in another. -/
private theorem exists_order {α β : Type} {f : α → β} {as : List α} {bs : List β}
    (h : bs.Perm (as.map f)) : ∃ order : List α, order.Perm as ∧ bs = order.map f := by
  have hcomp : Relation.Comp (· = List.map f ·) List.Perm bs as := by
    rw [List.eq_map_comp_perm]
    exact h
  obtain ⟨order, hbs, hperm⟩ := hcomp
  exact ⟨order, hperm, hbs⟩

/-- The samples of one metric stand in one block, so the order of the blocks does not show in
them. -/
theorem Scraper.Stock.filter_flatMap_perm {s : Scraper} (hs : s.Stock) {as bs : List Collector}
    (hsub : as.Sublist s.collectors) (h : as.Perm bs) {g : Collector → TaskOutcome}
    (hg : ∀ c ∈ as, c.Allows s.monitored (g c)) (name : String) :
    (as.flatMap fun c ↦ Scraper.samplesOf (g c)).filter (fun x ↦ x.name == name) =
      (bs.flatMap fun c ↦ Scraper.samplesOf (g c)).filter fun x ↦ x.name == name := by
  rw [List.filter_flatMap, List.filter_flatMap]
  refine flatMap_perm_eq h (hsub.nodup hs.nodup) fun c hc c' hc' hne hne' ↦ ?_
  obtain ⟨x, hx⟩ := List.exists_mem_of_ne_nil _ hne
  obtain ⟨x', hx'⟩ := List.exists_mem_of_ne_nil _ hne'
  obtain ⟨hx, hname⟩ := List.mem_filter.mp hx
  obtain ⟨hx', hname'⟩ := List.mem_filter.mp hx'
  obtain ⟨d, hd, he⟩ := (hg c hc).exists_descriptor hx
  obtain ⟨d', hd', he'⟩ := (hg c' hc').exists_descriptor hx'
  refine hs.eq_of_name_eq (hsub.subset hc) (hsub.subset hc') hd hd' ?_
  rw [he, he', beq_iff_eq.mp hname, beq_iff_eq.mp hname']

/-- The samples of one metric do not depend on the order of joining. -/
theorem Pass.Of.filter_samples {s : Scraper} {other : Responder} {t : Tally} {log : Log} {p : Pass}
    (hp : p.Of s other t log) (hs : s.Stock) {g : Collector → TaskOutcome}
    (hg : p.outcomes = (p.ran s).map g) (hallows : ∀ c ∈ p.ran s, c.Allows s.monitored (g c))
    (name : String) : p.samples.filter (fun x ↦ x.name == name) =
      ((p.ran s).flatMap fun c ↦ Scraper.samplesOf (g c)).filter fun x ↦ x.name == name := by
  obtain ⟨order, horder, hjoined⟩ := exists_order (hg ▸ hp.joined_perm)
  rw [hs.filter_flatMap_perm (Pass.ran_sublist s p) horder.symm hallows, Pass.samples, hjoined,
    List.flatMap_map]

/-! ## The law of the fan-out -/

/-- How the task of a collector ends when nothing else goes on. -/
def Scraper.alone (s : Scraper) (other : Responder) (log : Log) (c : Collector) : TaskOutcome :=
  ((c.update s.client s.monitored).run other log).1

namespace Pass.Of

variable {s : Scraper} {other : Responder} {t : Tally} {log : Log} {p q : Pass}

theorem outcomes_eq_alone (hp : p.Of s other t log) (hs : s.Stock) (hother : other.Local) :
    p.outcomes = (p.ran s).map (s.alone other log) ∧
      ∀ c ∈ p.ran s, c.Allows s.monitored (s.alone other log c) := by
  obtain ⟨g, hg, hall⟩ := hp.alone hs
  have halone : ∀ c ∈ p.ran s, g c = s.alone other log c := fun c hc ↦
    ((hall c hc).2 other log (hother.agree _) (Log.AgreeOn.refl _ _)).1
  rw [← List.map_congr_left halone]
  exact ⟨hg, fun c hc ↦ halone c hc ▸ (hall c hc).1⟩

/-- On the path of a collector there are the requests that it sends when it is alone. -/
theorem onPath_of_mem (hp : p.Of s other t log) (hs : s.Stock) {c : Collector} (hc : c ∈ p.ran s)
    {two : Responder} (hagree : other.Agree (c.paths s.client) two) {path : String}
    (hpath : path ∈ c.paths s.client) :
    (log ++ p.exchanges).onPath path =
      ((c.update s.client s.monitored).run two log).2.onPath path := by
  obtain ⟨g, -, hall⟩ := hp.alone hs
  exact ((hall c hc).2 two log hagree (Log.AgreeOn.refl _ _)).2 path hpath

/-- Passes against responders that agree on a set of paths have the same exchanges on a path of
the set, if the health check and the collectors on this path keep to the set. -/
theorem onPath_congr {one two : Responder} {P : Set String} (hp : p.Of s one t log)
    (hq : q.Of s two t log) (hs : s.Stock) (hran : q.ran s = p.ran s) (hagree : one.Agree P two)
    (hhealth : (s.client.fetch Health.query).Within P) {path : String} (hpath : path ∈ P)
    (hkeep : ∀ c ∈ p.ran s, path ∈ c.paths s.client → c.paths s.client ⊆ P) :
    p.exchanges.onPath path = q.exchanges.onPath path := by
  rw [← Log.onPath_append_inj log]
  by_cases hsome : ∃ c ∈ p.ran s, path ∈ c.paths s.client
  · obtain ⟨c, hc, hmem⟩ := hsome
    have hown := hagree.mono (hkeep c hc hmem)
    rw [hp.onPath_of_mem hs hc hown hmem, hq.onPath_of_mem hs (hran ▸ hc) hown.right hmem]
  · have hnot : ∀ c ∈ p.ran s, path ∉ c.paths s.client := fun c hc hmem ↦ hsome ⟨c, hc, hmem⟩
    rw [hp.onPath_of_not_mem hs hnot, hq.onPath_of_not_mem hs (hran ▸ hnot)]
    exact (Dialogue.run_congr hagree hhealth (Log.AgreeOn.refl _ log)).2 path hpath

/-- **The order of a pass does not matter.** -/
theorem order_irrelevant (hs : s.Stock) (hother : other.Local) (hp : p.Of s other t log)
    (hq : q.Of s other t log) :
    (∃ order : List Collector, order.Perm (p.ran s) ∧ p.joined = order.map (s.alone other log) ∧
        p.samples = order.flatMap fun c ↦ Scraper.samplesOf (s.alone other log c)) ∧
      (∃ text, p.tally.passDocument s.descriptors p.samples = .ok text ∧
        q.tally.passDocument s.descriptors q.samples = .ok text) ∧
      p.tally = q.tally ∧ ∀ path, p.exchanges.onPath path = q.exchanges.onPath path := by
  have hhealth : p.health = q.health := by
    rw [Pass.health, Pass.health, ← hp.check_eq, ← hq.check_eq]
  have hran : q.ran s = p.ran s := by rw [Pass.ran, Pass.ran, hhealth]
  obtain ⟨hpout, hallows⟩ := hp.outcomes_eq_alone hs hother
  obtain ⟨hqout, -⟩ := hq.outcomes_eq_alone hs hother
  have hout : p.outcomes = q.outcomes := by rw [hpout, hqout, hran]
  have htally : p.tally = q.tally := by
    have hjoined : p.joined.Perm q.joined := hp.joined_perm.trans (hout ▸ hq.joined_perm.symm)
    rw [hp.tally_eq, hq.tally_eq, hhealth, Tally.countErrors_perm hjoined]
  have hfamilies : passFamilies s.descriptors p.samples =
      passFamilies s.descriptors q.samples := by
    refine passFamilies_congr fun name ↦ ?_
    rw [hp.filter_samples hs hpout hallows, hq.filter_samples hs hqout (hran ▸ hallows), hran]
  refine ⟨?_, ?_, htally, fun path ↦ ?_⟩
  · obtain ⟨order, horder, hjoined⟩ := exists_order (hpout ▸ hp.joined_perm)
    exact ⟨order, horder, hjoined, by rw [Pass.samples, hjoined, List.flatMap_map]⟩
  · refine ⟨_, by rw [Tally.passDocument, hs.wellFormed.passFamilies]; rfl, ?_⟩
    rw [Tally.passDocument, ← hfamilies, ← htally, hs.wellFormed.passFamilies]
    rfl
  · exact hp.onPath_congr hq hs hran hother (Dialogue.within_univ _) (Set.mem_univ _)
      fun _ _ _ ↦ Set.subset_univ _

end Pass.Of

/-- The pass with its tasks joined in another order. -/
def Pass.rejoin (p : Pass) (t : Tally) (joined : List TaskOutcome) : Pass :=
  { p with
    joined := joined
    tally := (Scraper.countErrors (t.setHealth p.health) joined).recordScrape }

theorem Pass.Of.rejoin {s : Scraper} {other : Responder} {t : Tally} {log : Log} {p : Pass}
    (hp : p.Of s other t log) {joined : List TaskOutcome} (h : joined.Perm p.joined) :
    (p.rejoin t joined).Of s other t log := by
  cases hp with
  | down hcheck hdown =>
    obtain rfl := h.eq_nil
    exact .down hcheck hdown
  | up hcheck hup hrun hjoined => exact .up hcheck hup hrun (h.trans hjoined)

/-- A scraper of two tables. -/
def Scraper.ofTables : Scraper where
  client := ⟨Endpoint.defaultMapping, "https://firewall", "key", "secret"⟩
  collectors := [Cron.collector, ArpTable.collector]
  monitored := "fw1"

/-- A reply that says that all is well and has one row. -/
def Outcome.oneRow : Outcome := .answered ⟨200, some (Utf8.encode
  "\x7b\"System\":\x7b\"status\":\"OK\"\x7d,\"rows\":[\x7b\"enabled\":\"1\"\x7d]\x7d")⟩

/-- A firewall that gives the same reply to everything. -/
def Responder.steady : Responder := .perPath fun _ _ ↦ .oneRow

/-- A pass over the two tables. -/
def Pass.forward : Pass :=
  Scraper.ofTables.pass .steady .document (Scraper.ofTables.freshTally none) []

/-- The same pass with the tasks joined the other way round. -/
def Pass.backward : Pass :=
  Pass.forward.rejoin (Scraper.ofTables.freshTally none) Pass.forward.joined.reverse

theorem Scraper.stock_ofTables : Scraper.ofTables.Stock where
  subperm :=
    have hsub : [ArpTable.collector, Cron.collector].Sublist Registry.all :=
      List.sublist_append_left _ _
    (List.Perm.swap _ _ _).subperm.trans hsub.subperm
  endpoints_eq := rfl

theorem Pass.Of.order_irrelevant_backward :
    Scraper.ofTables.Stock ∧ Responder.steady.Local ∧
      Pass.forward.Of .ofTables .steady (Scraper.ofTables.freshTally none) [] ∧
      Pass.backward.Of .ofTables .steady (Scraper.ofTables.freshTally none) [] ∧
      Pass.backward.samples = Pass.forward.samples.reverse ∧ Pass.forward.samples.length = 2 ∧
      Pass.forward.tally = Pass.backward.tally ∧
      ∃ text, Pass.forward.tally.passDocument Scraper.ofTables.descriptors Pass.forward.samples =
          .ok text ∧
        Pass.backward.tally.passDocument Scraper.ofTables.descriptors Pass.backward.samples =
          .ok text := by
  have hs := Scraper.stock_ofTables
  have hother : Responder.steady.Local := Responder.local_perPath _
  have hp : Pass.forward.Of .ofTables .steady (Scraper.ofTables.freshTally none) [] :=
    Pass.of_pass ..
  have hq : Pass.backward.Of .ofTables .steady (Scraper.ofTables.freshTally none) [] :=
    hp.rejoin (List.reverse_perm _)
  obtain ⟨-, hdocument, htally, -⟩ := Pass.Of.order_irrelevant hs hother hp hq
  exact ⟨hs, hother, hp, hq, by decide +kernel, by decide +kernel, htally, hdocument⟩

end FirewallExporter
