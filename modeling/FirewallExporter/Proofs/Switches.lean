import FirewallExporter.Proofs.Pruning
import FirewallExporter.Proofs.Selection
import FirewallExporter.Server.Startup

/-!
# Switching collectors off

Four vocabularies meet where a collector is switched off: the names of the switches, those of the
registry, the endpoints that the collectors call, and the prefixes of their metrics. Every switch
has the name of a built-in collector, so building the registry never fails and leaves the collectors
that are not switched off, in order. This makes the scraper of the settings a selection of the
scraper with all collectors, and what is known of selections is known of it.

One prefix is not that of a collector alone. The exporter's own `opnsense_firewall_status` looks
like a metric of the firewall collector, and it is shown whether that one is switched off or not.
-/

namespace FirewallExporter

/-! ## The registry -/

namespace Registry

/-- Of the exporter's own metrics only the status of the firewall looks like one of a collector. -/
theorem eq_firewallFamily_of_owns {c : Collector} (hc : c ∈ all) {t : Tally} {f : Family}
    (hf : f ∈ t.families) (howns : c.owns f.name = true) : f = t.firewallFamily := by
  have hnames : (List.all all fun c ↦ !c.owns "opnsense_exporter_endpoint_errors_total" &&
      !c.owns "opnsense_exporter_scrapes_total" && !c.owns "opnsense_up" &&
      !(Descriptor.fullName c.name "").toList.isPrefixOf ProcessReading.namePrefix) = true := by
    decide +kernel
  have hc' := List.all_eq_true.mp hnames c hc
  simp only [Bool.and_eq_true_iff, Bool.not_eq_true'] at hc'
  obtain ⟨⟨⟨herrors, hscrapes⟩, hup⟩, hprocess⟩ := hc'
  rcases Tally.mem_own_or_process hf with hf | ⟨r, -, hf⟩
  · simp only [Tally.ownFamilies, List.mem_cons, List.not_mem_nil, or_false] at hf
    rcases hf with rfl | rfl | rfl | rfl
    · exact absurd (herrors.symm.trans howns) Bool.false_ne_true
    · exact absurd (hscrapes.symm.trans howns) Bool.false_ne_true
    · rfl
    · exact absurd (hup.symm.trans howns) Bool.false_ne_true
  · rcases List.prefix_or_prefix_of_prefix (ProcessReading.prefix_of_mem_families hf)
      (List.isPrefixOf_iff_prefix.mp howns) with hpre | hpre
    · exact absurd hpre (Descriptor.not_process c.name "")
    · exact absurd (hprocess.symm.trans (List.isPrefixOf_iff_prefix.mpr hpre)) Bool.false_ne_true

end Registry

/-! ## The switches -/

namespace CollectorSwitches

/-- `s.TurnsOff name c`: the switch for the collector `c` is off, and `name` is its name. Each
switch has its own case, so this does not depend on how the switches are listed. -/
inductive TurnsOff (s : CollectorSwitches) : String → Collector → Prop
  | arpTable : s.arpTable = false → TurnsOff s "arp_table" ArpTable.collector
  | cron : s.cron = false → TurnsOff s "cron" Cron.collector
  | wireguard : s.wireguard = false → TurnsOff s "wireguard" WireGuard.collector
  | ipsec : s.ipsec = false → TurnsOff s "ipsec" Ipsec.collector
  | unboundDns : s.unboundDns = false → TurnsOff s "unbound_dns" UnboundDns.collector
  | openvpn : s.openvpn = false → TurnsOff s "openvpn" OpenVpn.collector
  | firewall : s.firewall = false → TurnsOff s "firewall" Firewall.collector
  | firmware : s.firmware = false → TurnsOff s "firmware" Firmware.collector
  | dhcp : s.dhcp = false → TurnsOff s "dhcp" Dhcp.collector

/-- Every switch is named after a built-in collector, and no two after one. -/
theorem disabled_sublist (s : CollectorSwitches) :
    s.disabled.Sublist ["arp_table", "cron", "wireguard", "ipsec", "unbound_dns", "openvpn",
      "firewall", "firmware", "dhcp"] :=
  List.filter_sublist.map Prod.fst

variable {s : CollectorSwitches} {name : String} {c : Collector}

theorem TurnsOff.mem_all (h : s.TurnsOff name c) : c ∈ Registry.all := by
  cases h <;> simp [Registry.all]

/-- The switch and the registry know the collector by one name. -/
theorem TurnsOff.name_eq (h : s.TurnsOff name c) : c.name = name := by
  cases h <;> rfl

theorem mem_disabled_iff : name ∈ s.disabled ↔ ∃ c, s.TurnsOff name c := by
  constructor
  · intro hname
    obtain ⟨⟨name, on⟩, hswitch, rfl⟩ := List.mem_map.mp hname
    obtain ⟨hmem, hoff⟩ := List.mem_filter.mp hswitch
    obtain rfl : on = false := by simpa using hoff
    simp only [byName, List.mem_cons, List.not_mem_nil, or_false, Prod.mk.injEq] at hmem
    rcases hmem with ⟨rfl, h⟩ | ⟨rfl, h⟩ | ⟨rfl, h⟩ | ⟨rfl, h⟩ | ⟨rfl, h⟩ | ⟨rfl, h⟩ | ⟨rfl, h⟩ |
      ⟨rfl, h⟩ | ⟨rfl, h⟩
    exacts [⟨_, .arpTable h.symm⟩, ⟨_, .cron h.symm⟩, ⟨_, .wireguard h.symm⟩, ⟨_, .ipsec h.symm⟩,
      ⟨_, .unboundDns h.symm⟩, ⟨_, .openvpn h.symm⟩, ⟨_, .firewall h.symm⟩, ⟨_, .firmware h.symm⟩,
      ⟨_, .dhcp h.symm⟩]
  · rintro ⟨c, h⟩
    cases h <;> simp [disabled, byName, *]

/-- A built-in collector is switched off by its own switch. -/
theorem name_mem_disabled_iff (hc : c ∈ Registry.all) :
    c.name ∈ s.disabled ↔ ∃ name, s.TurnsOff name c := by
  constructor
  · intro h
    obtain ⟨c', h'⟩ := mem_disabled_iff.mp h
    have heq : c' = c := List.inj_on_of_nodup_map Registry.nodup_names_all h'.mem_all hc h'.name_eq
    exact ⟨c.name, heq ▸ h'⟩
  · rintro ⟨name, h⟩
    exact mem_disabled_iff.mpr ⟨c, h.name_eq ▸ h⟩

end CollectorSwitches

namespace Settings

/-- Whether a collector is left running. -/
def keeps (s : Settings) (c : Collector) : Bool := c.name ∉ s.switches.disabled

/-- The collectors that are switched off. -/
def switchedOff (s : Settings) : Registry :=
  Registry.all.filter fun c ↦ c.name ∈ s.switches.disabled

/-- The settings with all collectors switched on. -/
def allOn (s : Settings) : Settings := { s with switches := {} }

theorem withoutAll_disabled (s : Settings) :
    Registry.all.withoutAll s.switches.disabled = (Registry.all.filter s.keeps, none) := by
  have hsub := s.switches.disabled_sublist
  exact Registry.withoutAll_eq Registry.nodup_names_all
    ⟨hsub.nodup (by decide), List.Subset.trans hsub.subset (by decide)⟩

theorem mem_switchedOff_iff {s : Settings} {c : Collector} :
    c ∈ s.switchedOff ↔ ∃ name, s.switches.TurnsOff name c := by
  rw [switchedOff, List.mem_filter, decide_eq_true_iff]
  refine ⟨fun ⟨hc, hoff⟩ ↦ (CollectorSwitches.name_mem_disabled_iff hc).mp hoff, ?_⟩
  rintro ⟨name, h⟩
  exact ⟨h.mem_all, (CollectorSwitches.name_mem_disabled_iff h.mem_all).mpr ⟨name, h⟩⟩

theorem mem_collectors_iff {s : Settings} {c : Collector} :
    c ∈ s.collectors ↔ c ∈ Registry.all ∧ ∀ name, ¬s.switches.TurnsOff name c := by
  rw [collectors, withoutAll_disabled, List.mem_filter, keeps, decide_eq_true_iff]
  refine and_congr_right fun hc ↦ ?_
  rw [CollectorSwitches.name_mem_disabled_iff hc, not_exists]

variable (s : Settings) (endpoints : SortedTable String String)

theorem collectors_allOn : s.allOn.collectors = Registry.all := rfl

/-- The scraper of the settings is a selection of the scraper with all collectors. -/
theorem scraper_eq_select :
    s.scraper endpoints = (s.allOn.scraper endpoints).select s.keeps := by
  rw [scraper, collectors, withoutAll_disabled, Scraper.select, scraper, collectors_allOn]
  rfl

theorem leftOut_keeps : (s.allOn.scraper endpoints).leftOut s.keeps = s.switchedOff := by
  rw [Scraper.leftOut, scraper, collectors_allOn, switchedOff]
  refine List.filter_congr fun c _ ↦ ?_
  simp [keeps]

theorem stock_scraper_allOn : (s.allOn.scraper Endpoint.defaultMapping).Stock where
  subperm := (List.Perm.of_eq s.collectors_allOn).subperm
  endpoints_eq := rfl

end Settings

/-! ## The law of switches -/

/-- A document shows no metric of a collector that is switched off, and nothing that looks like one
except the status of the firewall. -/
theorem Settings.exists_families (s : Settings) (q : Pass) (now : Option ProcessReading) :
    ∃ gs, q.families (s.scraper Endpoint.defaultMapping) now = .ok gs ∧
      ∀ f ∈ gs, f.name ∉ s.switchedOff.metricNames ∧
        ∀ c ∈ s.switchedOff, c.owns f.name = true → f = q.tally.firewallFamily := by
  have hselect := s.scraper_eq_select Endpoint.defaultMapping
  have hs : (s.scraper Endpoint.defaultMapping).collectors ⊆ Registry.all := by
    rw [hselect]
    exact (s.stock_scraper_allOn.select s.keeps).subperm.subset
  have hoff : s.switchedOff ⊆ Registry.all := fun _ hc ↦ List.mem_of_mem_filter hc
  obtain ⟨fs, hfs⟩ : ∃ fs, passFamilies (s.scraper Endpoint.defaultMapping).descriptors q.samples =
      .ok fs := ⟨_, (Registry.wellFormed_descriptorTable hs).passFamilies q.samples⟩
  refine ⟨fs ++ Tally.families { q.tally with process := now }, ?_, fun f hf ↦ ?_⟩
  · rw [Pass.families, hfs]
    rfl
  · rcases List.mem_append.mp hf with hf | hf
    · obtain ⟨d, hget, hname, -⟩ := exists_descriptor_of_mem_passFamilies hs hfs hf
      obtain ⟨-, c', hc', hd⟩ := Registry.exists_of_get?_descriptorTable hget
      -- The collector that describes the family is not switched off.
      have hnot : c' ∉ s.switchedOff := by
        intro hmem
        rw [hselect] at hc'
        have hkeep : s.keeps c' = true := (List.mem_filter.mp hc').2
        have hdisabled := of_decide_eq_true (List.mem_filter.mp hmem).2
        exact of_decide_eq_true hkeep hdisabled
      constructor
      · intro hmetric
        obtain ⟨c, hc, d', hd', hname'⟩ := Registry.mem_metricNames.mp hmetric
        have howns := Registry.owns_of_mem (hoff hc) hd'
        rw [hname', ← hname] at howns
        exact hnot ((Registry.owns_iff (hoff hc) (hs hc') hd).mp howns ▸ hc)
      · intro c hc howns
        rw [← hname] at howns
        exact absurd ((Registry.owns_iff (hoff hc) (hs hc') hd).mp howns ▸ hc) hnot
    · refine ⟨Registry.not_mem_metricNames hoff hf, fun c hc howns ↦ ?_⟩
      -- The status does not depend on what the process shows.
      have hstatus : f = Tally.firewallFamily { q.tally with process := now } :=
        Registry.eq_firewallFamily_of_owns (hoff hc) hf howns
      exact hstatus

private theorem exists_split {α : Type} {l : List α} {k : Nat} {a : α} (h : l[k]? = some a) :
    ∃ before after, l = before ++ a :: after ∧ before.length = k := by
  obtain ⟨hk, rfl⟩ := List.getElem?_eq_some_iff.mp h
  exact ⟨l.take k, l.drop (k + 1), by simp, by simp [hk.le]⟩

/-- **Switching collectors off removes their part and nothing else.** The collectors that are
switched off are those whose own switches are off, and the others run. The registry can always be
built. A scraper asks for no path of a collector that is switched off, and shows none of its
metrics. Beside a run with all collectors against the same firewall, the document of each pass is
that of the other run without the families of these collectors, and with the error counters of their
endpoints at 0, whatever the process shows at the time. -/
theorem Settings.removes_disabled {s : Settings} {other : Responder}
    {process : Option ProcessReading} {log : Log} {qs : List Pass}
    (h : Run (s.scraper Endpoint.defaultMapping) other
      ((s.scraper Endpoint.defaultMapping).freshTally process) log qs) :
    (∀ name, name ∈ s.switches.disabled ↔ ∃ c, s.switches.TurnsOff name c) ∧
      (∀ c, c ∈ s.switchedOff ↔ ∃ name, s.switches.TurnsOff name c) ∧
      (∀ c, c ∈ s.collectors ↔ c ∈ Registry.all ∧ ∀ name, ¬s.switches.TurnsOff name c) ∧
      Registry.all.withoutAll s.switches.disabled = (s.collectors, none) ∧
      (∀ q ∈ qs,
        (∀ x ∈ q.exchanges, ∀ c ∈ s.switchedOff,
          x.request.path ∉ c.paths (s.scraper Endpoint.defaultMapping).client) ∧
        ∀ now, ∃ gs, q.families (s.scraper Endpoint.defaultMapping) now = .ok gs ∧
          ∀ f ∈ gs, f.name ∉ s.switchedOff.metricNames ∧
            ∀ c ∈ s.switchedOff, c.owns f.name = true → f = q.tally.firewallFamily) ∧
      (other.Local → ∀ (process' : Option ProcessReading) (ps : List Pass),
        Run (s.allOn.scraper Endpoint.defaultMapping) other
          ((s.allOn.scraper Endpoint.defaultMapping).freshTally process') log ps →
        ∀ (k : Nat) (p q : Pass), ps[k]? = some p → qs[k]? = some q → ∀ now, ∃ fs,
          p.families (s.allOn.scraper Endpoint.defaultMapping) now = .ok fs ∧
          q.families (s.scraper Endpoint.defaultMapping) now = .ok (s.switchedOff.withdraw fs) ∧
          Tally.passDocument { p.tally with process := now }
            (s.allOn.scraper Endpoint.defaultMapping).descriptors p.samples =
              .ok (Exposition.render fs) ∧
          Tally.passDocument { q.tally with process := now }
            (s.scraper Endpoint.defaultMapping).descriptors q.samples =
              .ok (Exposition.render (s.switchedOff.withdraw fs)) ∧
          Exposition.read? (Exposition.render fs) = some (fs.map Exposition.familyText) ∧
          Exposition.read? (Exposition.render (s.switchedOff.withdraw fs)) =
            some ((s.switchedOff.withdraw fs).map Exposition.familyText)) := by
  have hselect := s.scraper_eq_select Endpoint.defaultMapping
  have hleft := s.leftOut_keeps Endpoint.defaultMapping
  have hstock := s.stock_scraper_allOn
  refine ⟨fun name ↦ CollectorSwitches.mem_disabled_iff, fun c ↦ mem_switchedOff_iff,
    fun c ↦ mem_collectors_iff, ?_, fun q hq ↦ ?_, fun hother process' ps hps k p q hp hq now ↦ ?_⟩
  · rw [withoutAll_disabled, collectors, withoutAll_disabled]
  · obtain ⟨before, after, rfl⟩ := List.append_of_mem hq
    obtain ⟨t, log', hof, -⟩ := h.exists_of
    refine ⟨fun x hx c hc ↦ ?_, s.exists_families q⟩
    rw [hselect] at hof
    exact hof.path_mem_freePaths hstock x hx c (hleft ▸ hc)
  · obtain ⟨before, after, rfl, hlen⟩ := exists_split hp
    obtain ⟨before', after', rfl, hlen'⟩ := exists_split hq
    rw [hselect] at h ⊢
    obtain ⟨fs, hfs, hgs⟩ :=
      Run.document_select hstock hother hps h (hlen.trans hlen'.symm) now
    rw [hleft] at hgs
    exact ⟨fs, hfs, hgs, Pass.passDocument_of_families hfs, Pass.passDocument_of_families hgs,
      Pass.read?_render_families hfs, Pass.read?_render_families hgs⟩

/-- Settings with the collector of the ARP table switched off. -/
def Settings.withoutArp : Settings := { switches := { arpTable := false } }

/-- A pass with all collectors, against a firewall that rejects requests for the ARP table. -/
def Pass.complete : Pass :=
  (Settings.withoutArp.allOn.scraper Endpoint.defaultMapping).pass .arpless .document
    ((Settings.withoutArp.allOn.scraper Endpoint.defaultMapping).freshTally none) []

/-- The pass without the collector of the ARP table. -/
def Pass.reduced : Pass :=
  (Settings.withoutArp.scraper Endpoint.defaultMapping).pass .arpless .document
    ((Settings.withoutArp.scraper Endpoint.defaultMapping).freshTally none) []

theorem Settings.removes_disabled_withoutArp :
    Run (Settings.withoutArp.scraper Endpoint.defaultMapping) .arpless
        ((Settings.withoutArp.scraper Endpoint.defaultMapping).freshTally none) []
        [Pass.reduced] ∧
      Responder.arpless.Local ∧ Pass.complete.exchanges.length = 15 ∧
      Pass.reduced.exchanges.length = 14 ∧ Pass.complete.tally.errorCount "arp" = 1 ∧
      Pass.reduced.tally.errorCount "arp" = 0 ∧ ∃ fs,
        Pass.complete.families (Settings.withoutArp.allOn.scraper Endpoint.defaultMapping) none =
          .ok fs ∧
        Pass.reduced.families (Settings.withoutArp.scraper Endpoint.defaultMapping) none =
          .ok (Settings.withoutArp.switchedOff.withdraw fs) := by
  have hrun : Run (Settings.withoutArp.scraper Endpoint.defaultMapping) .arpless
      ((Settings.withoutArp.scraper Endpoint.defaultMapping).freshTally none) []
      [Pass.reduced] := .cons (Pass.of_pass ..) .nil
  have hcomplete : Run (Settings.withoutArp.allOn.scraper Endpoint.defaultMapping) .arpless
      ((Settings.withoutArp.allOn.scraper Endpoint.defaultMapping).freshTally none) []
      [Pass.complete] := .cons (Pass.of_pass ..) .nil
  have hother : Responder.arpless.Local := Responder.local_perPath _
  obtain ⟨-, -, -, -, -, hcompare⟩ := Settings.removes_disabled hrun
  obtain ⟨fs, hfs, hgs, -⟩ := hcompare hother none _ hcomplete 0 _ _ rfl rfl none
  exact ⟨hrun, hother, by decide +kernel, by decide +kernel, by decide +kernel, by decide +kernel,
    fs, hfs, hgs⟩

end FirewallExporter
