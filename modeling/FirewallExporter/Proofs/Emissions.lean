import FirewallExporter.Proofs.Document

/-!
# Nothing that is emitted is lost

A value may be left out in two places, and both only log a line. An emission without one label value
for each label of its descriptor is not recorded, and a sample without a descriptor, or with the
wrong number of label values, is not shown. For the built-in collectors neither happens: what they
emit is sound (`Collector.Allows.sound`), every sound emission is recorded, and the table of any
registry with the collector in it has the descriptor that the sample was made for. What else stands
among the samples of a document does not matter (`Kept`).
-/

namespace FirewallExporter

/-- The document of the samples has a place for `x`: there is a descriptor of its metric, `x` is
among the samples that fit it, and the family of the metric has the series of `x`, or of a sample
whose label values run together to the same text. -/
def Kept (descriptors : SortedTable String Descriptor) (samples : List Sample) (x : Sample) :
    Prop :=
  ∃ d fs, descriptors.get? x.name = some d ∧ x ∈ d.fitting (d.own samples) ∧
    passFamilies descriptors samples = .ok fs ∧ ∃ f ∈ fs, f.name = x.name ∧
      ∃ r ∈ d.readings (d.own samples), sameSeries r.1 x.labels = true ∧
        (⟨labelPairs d.labels r.1, r.2⟩ : Series) ∈ f.series

theorem kept_of_length_eq {descriptors : SortedTable String Descriptor}
    (hwell : WellFormed descriptors) {samples : List Sample} {x : Sample} (hx : x ∈ samples)
    {d : Descriptor} (hd : descriptors.get? x.name = some d)
    (hlength : x.labels.length = d.labels.length) : Kept descriptors samples x := by
  obtain ⟨hname, -⟩ := hwell hd
  have hown : x ∈ d.own samples := Descriptor.mem_own.mpr ⟨hx, hname.symm⟩
  have hfit : x ∈ d.fitting (d.own samples) :=
    List.mem_filter.mpr ⟨hown, beq_iff_eq.mpr hlength⟩
  have hclass : x ∈ d.classOf (d.own samples) x.labels :=
    List.mem_filter.mpr ⟨hfit, sameSeries_iff.mpr rfl⟩
  have hne := List.ne_nil_of_mem hclass
  -- The class of the sample has a first member, which gives its labels to the series.
  have hfirst := List.mem_filter.mp (List.head_mem hne)
  have hreading : (((d.classOf (d.own samples) x.labels).head hne).labels,
      d.kind.shown ((d.classOf (d.own samples) x.labels).getLast hne).value) ∈
        d.readings (d.own samples) := by
    apply Readings.mem_of_reading?
    rw [d.reading?_readings (d.own samples) x.labels, List.head?_eq_some_head hne,
      List.getLast?_eq_some_getLast hne]
    rfl
  have hfs := hwell.passFamilies samples
  have hfamily := family_mem_passFamilies hfs (hname.symm ▸ hd) (List.ne_nil_of_mem hreading)
  exact ⟨d, _, hd, hfit, hfs, _, hfamily, hname, _, hreading, hfirst.2,
    mem_series_family.mpr ⟨_, hreading, rfl⟩⟩

namespace Collector

variable {c : Collector} {monitored : String} {o : TaskOutcome}

/-- What a task of the collector leaves: every value that was emitted, as a sample of one of the
collector's metrics that no document leaves out. -/
structure Delivers (c : Collector) (monitored : String) (o : TaskOutcome) : Prop where
  /-- The task comes to its end, with an error or without one. -/
  finished : ∃ failure, o = .finished o.emissions failure
  /-- No emission goes unrecorded. -/
  length_samples : (Scraper.samplesOf o).length = o.emissions.length
  /-- A sample fits a metric of the collector, and the name of the instance stands last. -/
  fits : ∀ x ∈ Scraper.samplesOf o, ∃ d ∈ c.descriptors, x.name = d.name ∧
    x.labels.length = d.labels.length ∧ x.labels.getLast? = some monitored
  /-- It is shown among any other samples by any exporter that runs the collector. -/
  kept : ∀ r : Registry, r ⊆ Registry.all → c ∈ r → ∀ samples, ∀ x ∈ Scraper.samplesOf o,
    x ∈ samples → Kept r.descriptorTable samples x

theorem Allows.samplesOf_eq_map (h : c.Allows monitored o) :
    Scraper.samplesOf o = o.emissions.map Emission.sample := by
  rw [Scraper.samplesOf_eq, Emission.record_eq_map]
  intro e he
  exact beq_iff_eq.mpr (h.sound he).length_labels

theorem Allows.delivers (h : c.Allows monitored o) : c.Delivers monitored o := by
  have hfits : ∀ x ∈ Scraper.samplesOf o, ∃ d ∈ c.descriptors, x.name = d.name ∧
      x.labels.length = d.labels.length ∧ x.labels.getLast? = some monitored := by
    intro x hx
    rw [h.samplesOf_eq_map] at hx
    obtain ⟨e, he, rfl⟩ := List.mem_map.mp hx
    have hsound := h.sound he
    exact ⟨e.descriptor, hsound.described, rfl, hsound.length_labels, hsound.getLast?_labels⟩
  constructor
  case finished =>
    obtain ⟨emissions, failure, rfl, -⟩ := h
    exact ⟨failure, rfl⟩
  case length_samples => rw [h.samplesOf_eq_map, List.length_map]
  case fits => exact hfits
  case kept =>
    intro r hr hc samples x hx hmem
    obtain ⟨d, hd, hname, hlength, -⟩ := hfits x hx
    have hget := Registry.get?_descriptorTable hr hc hd
    exact kept_of_length_eq (Registry.wellFormed_descriptorTable hr) hmem (hname ▸ hget) hlength

end Collector

/-- The samples of a pass are all that its tasks emitted. -/
theorem Pass.Of.length_samples {s : Scraper} (hs : s.collectors ⊆ Registry.all)
    {other : Responder} {t : Tally} {log : Log} {p : Pass} (hp : p.Of s other t log) :
    p.samples.length = (p.joined.map fun o ↦ o.emissions.length).sum := by
  rw [samples, List.length_flatMap]
  congr 1
  refine List.map_congr_left fun o ho ↦ ?_
  obtain ⟨c, hc⟩ := hp.exists_of_mem_joined ho
  exact (hp.allows hs _ hc).delivers.length_samples

/-- **Nothing that a collector emits is lost**, neither when it is updated alone nor when it is one
of the collectors of a pass. -/
theorem Collector.delivers_all {c : Collector} (hc : c ∈ Registry.all) (client : Client)
    (monitored : String) (other : Responder) (log : Log) :
    c.Delivers monitored ((c.update client monitored).run other log).1 ∧
      ∀ (s : Scraper) (t : Tally) (log' : Log) (p : Pass), s.collectors ⊆ Registry.all →
        p.Of s other t log' →
        (∀ u ∈ s.collectors.zip p.outcomes, u.1.Delivers s.monitored u.2) ∧
          p.samples.length = (p.joined.map fun o ↦ o.emissions.length).sum ∧
          ∀ x ∈ p.samples, Kept s.descriptors p.samples x := by
  have hallows : c.Allows monitored ((c.update client monitored).run other log).1 :=
    ((Registry.proper_of_mem_all hc).ends client monitored).run other log
  refine ⟨hallows.delivers, fun s t log' p hs hp ↦ ⟨fun u hu ↦ (hp.allows hs u hu).delivers,
    hp.length_samples hs, fun x hx ↦ ?_⟩⟩
  obtain ⟨o, ho, hxo⟩ := List.mem_flatMap.mp hx
  obtain ⟨c', hc'⟩ := hp.exists_of_mem_joined ho
  exact (hp.allows hs _ hc').delivers.kept _ hs (List.of_mem_zip hc').1 _ x hxo hx

/-- A scraper of the IPsec tunnels. -/
def Scraper.ofTunnels : Scraper where
  client := ⟨Endpoint.defaultMapping, "https://firewall", "key", "secret"⟩
  collectors := [Ipsec.collector]
  monitored := "fw1"

/-- A firewall that lists one tunnel and rejects the call for its children. -/
def Responder.childless : Responder := .perPath fun path _ ↦
  if path = Endpoint.ipsecPhase2.path then .answered ⟨500, some []⟩ else .oneRow

/-- The update of the tunnels of this firewall. -/
def TaskOutcome.ofTunnels : TaskOutcome :=
  ((Ipsec.collector.update Scraper.ofTunnels.client "fw1").run .childless []).1

/-- A pass over them. -/
def Pass.overTunnels : Pass :=
  Scraper.ofTunnels.pass .childless .samples (Scraper.ofTunnels.freshTally none) []

theorem Collector.delivers_all_ofTunnels :
    Ipsec.collector ∈ Registry.all ∧ Ipsec.collector.Delivers "fw1" .ofTunnels ∧
      TaskOutcome.ofTunnels.emissions.length = 6 ∧
      Scraper.endpointOf? .ofTunnels = some "ipsecPhase2" ∧
      Pass.overTunnels.Of .ofTunnels .childless (Scraper.ofTunnels.freshTally none) [] ∧
      Pass.overTunnels.samples.length = 6 ∧
      ∀ x ∈ Pass.overTunnels.samples,
        Kept Scraper.ofTunnels.descriptors Pass.overTunnels.samples x := by
  have hc : Ipsec.collector ∈ Registry.all := by simp [Registry.all]
  obtain ⟨hdelivers, hpasses⟩ :=
    delivers_all hc Scraper.ofTunnels.client "fw1" .childless []
  have hs : Scraper.ofTunnels.collectors ⊆ Registry.all :=
    List.cons_subset.mpr ⟨hc, List.nil_subset _⟩
  have hp : Pass.overTunnels.Of .ofTunnels .childless (Scraper.ofTunnels.freshTally none) [] :=
    Pass.of_pass ..
  obtain ⟨-, -, hkept⟩ := hpasses _ _ _ _ hs hp
  exact ⟨hc, hdelivers, by decide +kernel, by decide +kernel, hp, by decide +kernel, hkept⟩

end FirewallExporter
