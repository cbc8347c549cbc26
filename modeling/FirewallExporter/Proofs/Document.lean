import FirewallExporter.Proofs.FanOut
import FirewallExporter.Proofs.Series

/-!
# The documents of a run

The document of a pass is made of the families of its samples and of those of the tally. There is
always one: the descriptors of the built-in collectors are well-formed, and no two of them describe
one metric. The same two facts, together with the names that the exporter keeps for itself, say that
no family stands in a document twice. Within a family the series are apart because their readings
are, and where a series comes from is found by going back from it to an emission of a task.
-/

namespace FirewallExporter

/-! ## Labels of a collector -/

theorem mem_labelPairs_of_getLast? {names values : List String} {name value : String}
    (hlength : values.length = names.length) (hname : names.getLast? = some name)
    (hvalue : values.getLast? = some value) : (name, value) ∈ labelPairs names values := by
  obtain ⟨names, rfl⟩ := List.getLast?_eq_some_iff.mp hname
  obtain ⟨values, rfl⟩ := List.getLast?_eq_some_iff.mp hvalue
  simp only [List.length_append, List.length_singleton, Nat.add_right_cancel_iff] at hlength
  rw [labelPairs, sortByText, List.mem_mergeSort, List.zip_append hlength.symm]
  exact List.mem_append_right _ List.mem_cons_self

namespace Registry

/-- The last label of every metric names the instance. -/
theorem getLast?_labels {c : Collector} (hc : c ∈ all) {d : Descriptor} (hd : d ∈ c.descriptors) :
    d.labels.getLast? = some Descriptor.instanceLabel := by
  have hall : ((all.flatMap Collector.descriptors).all fun d ↦
      d.labels.getLast? == some Descriptor.instanceLabel) = true := by decide +kernel
  exact beq_iff_eq.mp (List.all_eq_true.mp hall d (List.mem_flatMap.mpr ⟨c, hc, hd⟩))

/-- No two descriptors of the built-in collectors have one name. -/
theorem eq_of_name_eq {c c' : Collector} (hc : c ∈ all) (hc' : c' ∈ all) {d d' : Descriptor}
    (hd : d ∈ c.descriptors) (hd' : d' ∈ c'.descriptors) (hname : d.name = d'.name) : d = d' :=
  List.inj_on_of_nodup_map nodup_metricNames_all (List.mem_flatMap.mpr ⟨c, hc, hd⟩)
    (List.mem_flatMap.mpr ⟨c', hc', hd'⟩) hname

/-- The table of a registry has every descriptor of its collectors. -/
theorem get?_descriptorTable {r : Registry} (hr : r ⊆ all) {c : Collector} (hc : c ∈ r)
    {d : Descriptor} (hd : d ∈ c.descriptors) : r.descriptorTable.get? d.name = some d := by
  have hkey : d.name ∈
      ((r.flatMap Collector.descriptors).map fun d ↦ (d.name, d)).map Prod.fst := by
    rw [List.map_map]
    exact List.mem_map_of_mem (List.mem_flatMap.mpr ⟨c, hc, hd⟩)
  obtain ⟨d', hget⟩ := SortedTable.exists_get?_ofList hkey
  obtain ⟨hname, c', hc', hd'⟩ := exists_of_get?_descriptorTable hget
  exact eq_of_name_eq (hr hc') (hr hc) hd' hd hname ▸ hget

end Registry

/-! ## Emissions of a pass -/

/-- The values that a task emitted. -/
def TaskOutcome.emissions : TaskOutcome → List Emission
  | .finished emissions _ => emissions
  | .crashed => []

theorem Scraper.samplesOf_eq (o : TaskOutcome) : samplesOf o = Emission.record o.emissions := by
  cases o with
  | finished emissions failure => rfl
  | crashed => rfl

theorem Collector.Allows.sound {c : Collector} {monitored : String} {o : TaskOutcome}
    (h : c.Allows monitored o) {e : Emission} (he : e ∈ o.emissions) :
    e.Sound c.descriptors monitored := by
  obtain ⟨emissions, failure, rfl, hsound, -⟩ := h
  exact hsound e he

theorem Pass.Of.allows {s : Scraper} (hs : s.collectors ⊆ Registry.all) {other : Responder}
    {t : Tally} {log : Log} {p : Pass} (hp : p.Of s other t log) :
    ∀ u ∈ s.collectors.zip p.outcomes, u.1.Allows s.monitored u.2 := by
  cases hp with
  | down _ _ =>
    intro u hu
    rw [List.zip_nil_right] at hu
    exact absurd hu List.not_mem_nil
  | up _ _ hrun _ =>
    intro u hu
    have hends := List.forall₂_zip (List.forall₂_map_left_iff.mp hrun.forall₂_ends) hu
    exact hends _ ((Registry.proper_of_mem_all (hs (List.of_mem_zip hu).1)).ends _ _)

/-- A task that was joined is that of a collector. -/
theorem Pass.Of.exists_of_mem_joined {s : Scraper} {other : Responder} {t : Tally} {log : Log}
    {p : Pass} (hp : p.Of s other t log) {o : TaskOutcome} (ho : o ∈ p.joined) :
    ∃ c, (c, o) ∈ s.collectors.zip p.outcomes := by
  have ho' := hp.joined_perm.mem_iff.mp ho
  rw [← List.map_snd_zip hp.length_outcomes] at ho'
  obtain ⟨u, hu, rfl⟩ := List.mem_map.mp ho'
  exact ⟨u.1, hu⟩

/-- A sample of a pass was emitted by one of its tasks. -/
theorem Pass.Of.exists_emission {s : Scraper} {other : Responder} {t : Tally} {log : Log} {p : Pass}
    (hp : p.Of s other t log) {x : Sample} (hx : x ∈ p.samples) :
    ∃ u ∈ s.collectors.zip p.outcomes, ∃ e ∈ u.2.emissions, x = e.sample := by
  obtain ⟨o, ho, hxo⟩ := List.mem_flatMap.mp hx
  obtain ⟨c, hc⟩ := hp.exists_of_mem_joined ho
  rw [Scraper.samplesOf_eq] at hxo
  obtain ⟨e, he, hsample⟩ := List.mem_filterMap.mp hxo
  rw [Emission.sample?] at hsample
  split_ifs at hsample
  exact ⟨(c, o), hc, e, he, (Option.some.inj hsample).symm⟩

/-! ## Series of a family -/

/-- No two series of the family have the same set of labels. -/
def Family.Apart (f : Family) : Prop := f.series.Pairwise fun a b ↦ ¬a.labels.Perm b.labels

theorem Descriptor.apart_family {d : Descriptor} (hd : d.check = .ok ()) (samples : List Sample) :
    (d.family samples).Apart := by
  have hlength : ∀ r ∈ d.readings samples, r.1.length = d.labels.length := by
    intro r hr
    obtain ⟨x, hx, hlabels⟩ := exists_sample_of_mem_readings hr
    rw [← hlabels]
    exact beq_iff_eq.mp (List.mem_filter.mp hx).2
  rw [Family.Apart, Descriptor.family, sortSeries,
    List.Perm.pairwise_iff (fun h hperm ↦ h hperm.symm) (List.mergeSort_perm _ _),
    List.pairwise_map]
  refine List.Pairwise.imp_of_mem (fun hr hr' hne hperm ↦ ?_) (d.distinct_readings samples)
  -- The same set of labels would be the same label values, and these name one series.
  have heq :=
    eq_of_labelPairs_perm (Descriptor.nodup_labels hd) (hlength _ hr) (hlength _ hr') hperm
  rw [heq, sameSeries_iff.mpr rfl] at hne
  exact Bool.false_ne_true hne.symm

namespace ProcessReading

/-- The first part of the name of every metric of the process. -/
def namePrefix : List Char := "process_".toList

variable {r : ProcessReading} {f : Family}

theorem prefix_of_mem_families (hf : f ∈ r.families) : namePrefix <+: f.name.toList := by
  have hnames : ∀ name ∈ r.families.map Family.name, namePrefix <+: name.toList := by
    change ∀ name ∈ ["process_cpu_seconds_total", "process_max_fds", "process_open_fds",
      "process_resident_memory_bytes", "process_start_time_seconds", "process_threads",
      "process_virtual_memory_bytes"], namePrefix <+: name.toList
    decide
  exact hnames _ (List.mem_map_of_mem hf)

/-- A family of the process has one series. -/
theorem apart_of_mem_families (hf : f ∈ r.families) : f.Apart := by
  have hone : ∀ f ∈ r.families, ∃ sr, f.series = [sr] := by simp [families]
  obtain ⟨sr, hsr⟩ := hone f hf
  rw [Family.Apart, hsr]
  exact List.pairwise_singleton _ _

end ProcessReading

namespace Tally

variable {t : Tally} {f : Family}

/-- The error counters are told apart by their endpoints. -/
theorem apart_errorsFamily (ht : t.errors.Sorted) : t.errorsFamily.Apart := by
  rw [Family.Apart, errorsFamily, List.pairwise_map]
  refine List.Pairwise.imp (fun {a b} hlt hperm ↦ ?_) ht
  have hmem := hperm.mem_iff.mp List.mem_cons_self
  simp only [List.mem_cons, Prod.mk.injEq, instancePair, Descriptor.instanceLabel,
    List.not_mem_nil, or_false, true_and] at hmem
  rcases hmem with heq | ⟨hlabel, -⟩
  · exact absurd hlt (heq ▸ lt_irrefl _)
  · exact absurd hlabel (by decide)

theorem apart_of_mem_families (ht : t.errors.Sorted) (hf : f ∈ t.families) : f.Apart := by
  rcases mem_own_or_process hf with hf | ⟨r, -, hf⟩
  · simp only [ownFamilies, List.mem_cons, List.not_mem_nil, or_false] at hf
    rcases hf with rfl | rfl | rfl | rfl
    · exact apart_errorsFamily ht
    all_goals exact List.pairwise_singleton _ _
  · exact ProcessReading.apart_of_mem_families hf

theorem instancePair_mem (hf : f ∈ t.ownFamilies) :
    ∀ sr ∈ f.series, t.instancePair ∈ sr.labels := by
  intro sr hsr
  simp only [ownFamilies, List.mem_cons, List.not_mem_nil, or_false] at hf
  rcases hf with rfl | rfl | rfl | rfl
  · obtain ⟨e, -, rfl⟩ := List.mem_map.mp hsr
    exact List.mem_cons_of_mem _ List.mem_cons_self
  all_goals
    rw [List.mem_singleton.mp hsr]
    exact List.mem_cons_self

end Tally

theorem Descriptor.not_process (area metric : String) :
    ¬ProcessReading.namePrefix <+: (fullName area metric).toList := by
  -- The first characters differ.
  have hfirst : (fullName area metric).toList.head? = some 'o' := by
    rw [fullName, String.toList_append, String.toList_append, String.toList_append]
    rfl
  have hprefix : ProcessReading.namePrefix = 'p' :: "rocess_".toList := by decide
  intro h
  obtain ⟨rest, hrest⟩ := h
  rw [← hrest, hprefix] at hfirst
  exact absurd (Option.some.inj hfirst) (by decide)

/-- No collector describes a metric under a name of the exporter's own metrics. -/
theorem Registry.not_own {c : Collector} (hc : c ∈ all) {d : Descriptor} (hd : d ∈ c.descriptors) :
    d.name ∉ Tally.ownNames ∧ ¬ProcessReading.namePrefix <+: d.name.toList := by
  have hall : ((all.flatMap Collector.descriptors).all fun d ↦ !Tally.ownNames.contains d.name) =
      true := by decide +kernel
  constructor
  · simpa using List.all_eq_true.mp hall d (List.mem_flatMap.mpr ⟨c, hc, hd⟩)
  · obtain ⟨metric, hname⟩ := exists_fullName hc d hd
    rw [hname]
    exact Descriptor.not_process c.name metric

/-! ## The law of documents -/

/-- What holds of the document of a pass, whatever the process showed at the time. It has the
families `fs` of the samples, and behind them those of the tally `t`. -/
structure DocumentLaw (s : Scraper) (p : Pass) (fs : List Family) (t : Tally) : Prop where
  /-- There is a document. -/
  rendered : t.passDocument s.descriptors p.samples = .ok (Exposition.render (fs ++ t.families))
  /-- It is read back as these families. -/
  readable : ∃ text, t.passDocument s.descriptors p.samples = .ok text ∧
    Exposition.read? text = some ((fs ++ t.families).map Exposition.familyText)
  /-- No family stands in it twice. -/
  nodup_names : ((fs ++ t.families).map Family.name).Nodup
  /-- No series stands in it twice. -/
  apart : ∀ f ∈ fs ++ t.families, f.Apart
  /-- A series of a collector is that of an emission, and it stands under the descriptor of this
  emission, which is one of the collector. -/
  described : ∀ f ∈ fs, ∀ sr ∈ f.series, ∃ u ∈ s.collectors.zip p.outcomes, ∃ e ∈ u.2.emissions,
    e.descriptor ∈ u.1.descriptors ∧ f.name = e.descriptor.name ∧ f.help = e.descriptor.help ∧
      f.kind = e.descriptor.kind ∧ sr.labels = labelPairs e.descriptor.labels e.labels
  /-- The name of the instance is on everything that is not about the process. -/
  instance_mem : ∀ f ∈ fs ++ t.families, ¬ProcessReading.namePrefix <+: f.name.toList →
    ∀ sr ∈ f.series, (Descriptor.instanceLabel, s.monitored) ∈ sr.labels

section

variable {s : Scraper} (hs : s.collectors ⊆ Registry.all) {other : Responder} {t t' : Tally}
  {log : Log} {p : Pass} {fs : List Family} {f : Family}

include hs

theorem exists_descriptor_of_mem_passFamilies
    (hfs : passFamilies s.descriptors p.samples = .ok fs) (hf : f ∈ fs) :
    ∃ d, s.descriptors.get? f.name = some d ∧ d.name = f.name ∧
      f = d.family (p.samples.filter fun x ↦ x.name == f.name) := by
  obtain ⟨-, name, d, hget, hd⟩ := (mem_passFamilies hfs).mp hf
  obtain ⟨hname, -⟩ := Registry.wellFormed_descriptorTable hs hget
  have hfname : f.name = name := by
    rw [hd, ← hname]
    rfl
  exact ⟨d, hfname ▸ hget, hname.trans hfname.symm, hfname ▸ hd⟩

/-- **Where a series comes from.** -/
theorem Pass.Of.exists_emission_of_mem_series (hp : p.Of s other t log)
    (hfs : passFamilies s.descriptors p.samples = .ok fs) (hf : f ∈ fs) {sr : Series}
    (hsr : sr ∈ f.series) :
    ∃ u ∈ s.collectors.zip p.outcomes, ∃ e ∈ u.2.emissions, e.Sound u.1.descriptors s.monitored ∧
      f.name = e.descriptor.name ∧ f.help = e.descriptor.help ∧ f.kind = e.descriptor.kind ∧
      sr.labels = labelPairs e.descriptor.labels e.labels := by
  obtain ⟨d, hget, hname, hfamily⟩ := exists_descriptor_of_mem_passFamilies hs hfs hf
  obtain ⟨d', hget', x, hx, hxname, hlabels⟩ :=
    exists_sample_of_mem_passFamilies (Registry.wellFormed_descriptorTable hs) hfs hf hsr
  obtain rfl := Option.some.inj (hget.symm.trans hget')
  obtain ⟨u, hu, e, he, rfl⟩ := hp.exists_emission hx
  have hsound := (hp.allows hs u hu).sound he
  -- The descriptor of the family has the name of the emitted one, so it is the emitted one.
  obtain ⟨-, c, hc, hdc⟩ := Registry.exists_of_get?_descriptorTable hget
  have hd : e.descriptor = d :=
    Registry.eq_of_name_eq (hs (List.of_mem_zip hu).1) (hs hc) hsound.described hdc
      (hxname.trans hname.symm)
  refine ⟨u, hu, e, he, hsound, ?_⟩
  rw [hd, hname, hlabels, hfamily]
  exact ⟨rfl, rfl, rfl, rfl⟩

theorem Pass.Of.documentLaw (hp : p.Of s other t log) (ht' : t'.errors.Sorted)
    (hmonitored : t'.monitored = s.monitored) : ∃ fs, DocumentLaw s p fs t' := by
  have hwell := Registry.wellFormed_descriptorTable hs
  obtain ⟨fs, hfs⟩ : ∃ fs, passFamilies s.descriptors p.samples = .ok fs :=
    ⟨_, hwell.passFamilies p.samples⟩
  refine ⟨fs, ?_⟩
  constructor
  case rendered => exact t'.passDocument_eq_ok hfs
  case readable => exact t'.exists_read?_eq hfs
  case nodup_names =>
    rw [List.map_append]
    refine List.Nodup.append (passFamilies_eq_ok hfs).1
      (t'.nodup_allFamilies.sublist (List.filter_sublist.map _)) fun name hname hname' ↦ ?_
    obtain ⟨f, hf, rfl⟩ := List.mem_map.mp hname
    obtain ⟨g, hg, hgname⟩ := List.mem_map.mp hname'
    obtain ⟨d, hget, hd, -⟩ := exists_descriptor_of_mem_passFamilies hs hfs hf
    obtain ⟨-, c, hc, hdc⟩ := Registry.exists_of_get?_descriptorTable hget
    have hnot := Registry.not_own (hs hc) hdc
    rw [hd, ← hgname] at hnot
    rcases Tally.mem_own_or_process hg with hg | ⟨r, -, hg⟩
    · exact hnot.1 (Tally.name_mem_ownNames hg)
    · exact hnot.2 (ProcessReading.prefix_of_mem_families hg)
  case apart =>
    intro f hf
    rcases List.mem_append.mp hf with hf | hf
    · obtain ⟨d, hget, -, hd⟩ := exists_descriptor_of_mem_passFamilies hs hfs hf
      rw [hd]
      exact Descriptor.apart_family (hwell hget).2 _
    · exact Tally.apart_of_mem_families ht' hf
  case described =>
    intro f hf sr hsr
    obtain ⟨u, hu, e, he, hsound, hrest⟩ := hp.exists_emission_of_mem_series hs hfs hf hsr
    exact ⟨u, hu, e, he, hsound.described, hrest⟩
  case instance_mem =>
    intro f hf hprefix sr hsr
    rcases List.mem_append.mp hf with hf | hf
    · obtain ⟨u, hu, e, he, hsound, -, -, -, hlabels⟩ :=
        hp.exists_emission_of_mem_series hs hfs hf hsr
      rw [hlabels]
      -- The name of the instance is the last label value, and its label the last of the descriptor.
      exact mem_labelPairs_of_getLast? hsound.length_labels
        (Registry.getLast?_labels (hs (List.of_mem_zip hu).1) hsound.described)
        hsound.getLast?_labels
    · rcases Tally.mem_own_or_process hf with hf | ⟨r, -, hf⟩
      · rw [← hmonitored]
        exact Tally.instancePair_mem hf sr hsr
      · exact absurd (ProcessReading.prefix_of_mem_families hf) hprefix

/-! ## Answers without fail -/

theorem Server.Site.status_run_show (site : Site) (t : Tally) (page : Page) :
    ((site.show s t page).run other log).1.1.status ≠ 500 := by
  cases page with
  | landing => exact (by decide : (200 : Nat) ≠ 500)
  | health =>
    rw [Site.show, Dialogue.run_done, healthAnswer]
    split
    · exact (by decide : (200 : Nat) ≠ 500)
    · exact (by decide : (503 : Nat) ≠ 500)
  | metrics =>
    have hwell := Registry.wellFormed_descriptorTable hs
    rw [Site.show, Dialogue.run_bind, s.run_scrape other .document, Dialogue.run_done,
      Tally.passDocument]
    rw [Scraper.descriptors, hwell.passFamilies]
    exact (by decide : (200 : Nat) ≠ 500)

theorem Server.Site.status_run_answer (site : Site) (t : Tally) (method target : String) :
    ((site.answer s t method target).run other log).1.1.status ≠ 500 := by
  rw [Site.answer]
  cases requestPath? method target with
  | none => exact (by decide : (400 : Nat) ≠ 500)
  | some path =>
    cases hpage : site.page? path with
    | none =>
      simp only [hpage]
      exact (by decide : (404 : Nat) ≠ 500)
    | some page =>
      simp only [hpage]
      split
      · exact site.status_run_show hs t page
      · split
        · rw [Dialogue.run_bind]
          exact site.status_run_show hs t page
        · exact (by decide : (405 : Nat) ≠ 500)

end

/-- What a pass of a run leaves behind. -/
theorem Run.exists_of {s : Scraper} {process : Option ProcessReading} {other : Responder}
    {log : Log} {before after : List Pass} {p : Pass}
    (h : Run s other (s.freshTally process) log (before ++ p :: after)) :
    ∃ t log', p.Of s other t log' ∧ p.tally.monitored = s.monitored ∧ p.tally.errors.Sorted := by
  obtain ⟨t, log', hp, hmonitored, -, hcounts⟩ := h.counts (Tally.counts_fresh _ _ _)
  obtain ⟨errors, htally⟩ := hp.exists_tally_eq
  refine ⟨t, log', hp, ?_, (hp.counts hcounts).sorted⟩
  rw [htally, hmonitored]
  rfl

/-- **A scrape never fails.** Every pass of a run has a document, whoever asks for it and whatever
the process shows at the time, and the site never has to say that there is none. -/
theorem Run.document_law {s : Scraper} (hs : s.collectors ⊆ Registry.all)
    {process : Option ProcessReading} {other : Responder} {log : Log} {before after : List Pass}
    {p : Pass} (h : Run s other (s.freshTally process) log (before ++ p :: after)) :
    (∀ now : Option ProcessReading, ∃ fs, DocumentLaw s p fs { p.tally with process := now }) ∧
      (p.want = .document → ∃ text, p.gain s = .document (.ok text)) ∧
      ∀ (site : Server.Site) (t : Tally) (method target : String) (other' : Responder)
        (log' : Log), ((site.answer s t method target).run other' log').1.1.status ≠ 500 := by
  obtain ⟨t, log', hp, hmonitored, hsorted⟩ := h.exists_of
  have hlaw (now : Option ProcessReading) :
      ∃ fs, DocumentLaw s p fs { p.tally with process := now } :=
    hp.documentLaw hs hsorted hmonitored
  refine ⟨hlaw, fun hwant ↦ ?_, fun site t method target other' log' ↦
    site.status_run_answer hs t method target⟩
  obtain ⟨fs, hfs⟩ := hlaw p.tally.process
  rw [Pass.gain, hwant]
  exact ⟨_, congrArg Gain.document hfs.rendered⟩

theorem Run.document_law_forward :
    Scraper.ofTables.collectors ⊆ Registry.all ∧
      Run .ofTables .steady (Scraper.ofTables.freshTally none) [] [Pass.forward] ∧
      (∃ fs, DocumentLaw .ofTables Pass.forward fs
        { Pass.forward.tally with process := none }) ∧
      Pass.forward.samples.length = 2 := by
  have hs : Scraper.ofTables.collectors ⊆ Registry.all := Scraper.stock_ofTables.subperm.subset
  have hrun : Run .ofTables .steady (Scraper.ofTables.freshTally none) []
      ([] ++ Pass.forward :: []) := by
    have hp : Pass.forward.Of .ofTables .steady (Scraper.ofTables.freshTally none) [] :=
      Pass.of_pass ..
    exact .cons hp .nil
  exact ⟨hs, hrun, (Run.document_law hs hrun).1 none, by decide +kernel⟩

end FirewallExporter
