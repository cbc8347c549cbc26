import FirewallExporter.Area.Registry
import FirewallExporter.Proofs.Dialogue
import FirewallExporter.Proofs.Families

/-!
# What a collector keeps to

A collector is *proper* when it sends requests for the paths of its own endpoints only, emits values
that fit its own descriptors, and fails with errors of its own endpoints only. All built-in
collectors are proper (`proper_of_mem_all`). Whatever holds of a fan-out because its tasks do not
meddle with each other follows from this one fact and from the two lists of names below it: no two
built-in collectors share an endpoint, and no two share a metric.

All but one collector make a single call, and for them it is enough to look at what they emit. The
collector for IPsec makes one call for each tunnel of a first reply; it is proper by induction on
the tunnels.
-/

namespace FirewallExporter

/-! ## Calls -/

namespace Client

variable {α : Type}

theorem within_sendUpTo (r : Request) (n : Nat) : (sendUpTo r n).Within {r.path} := by
  induction n with
  | zero => trivial
  | succ n ih =>
    refine ⟨rfl, fun o ↦ ?_⟩
    dsimp only
    split
    · trivial
    · exact ih

/-- The paths of a list of endpoint names. -/
def pathsOf (c : Client) (endpoints : List String) : Set String :=
  {path | ∃ e ∈ endpoints, c.endpoints.get? e = some path}

theorem within_fetch (c : Client) (q : Query α) {endpoints : List String}
    (h : q.endpoint.name ∈ endpoints) : (c.fetch q).Within (c.pathsOf endpoints) := by
  rw [fetch, call]
  cases hpath : c.endpoints.get? q.endpoint.name with
  | none => trivial
  | some path =>
    refine (Dialogue.Within.mono ?_ (within_sendUpTo _ _)).bind fun _ ↦ trivial
    exact Set.singleton_subset_iff.mpr ⟨_, h, hpath⟩

/-- A call fails with an error of the endpoint that it is for. -/
theorem ends_fetch (c : Client) (q : Query α) :
    (c.fetch q).Ends fun result ↦ ∀ e, result = .error e → e.endpoint = q.endpoint.name := by
  rw [fetch, call]
  cases c.endpoints.get? q.endpoint.name with
  | none =>
    intro e he
    rw [← Except.error.inj he]
  | some path =>
    refine (Dialogue.ends_true _).bind fun response _ ↦ ?_
    intro e he
    cases hc : conclude shortAttempts q.decode response with
    | ok a => rw [hc] at he; nomatch he
    | error fault =>
      rw [hc] at he
      rw [← Except.error.inj he]

/-- What a call returns was decoded from some body. -/
theorem ends_fetch_ok (c : Client) (q : Query α) :
    (c.fetch q).Ends fun result ↦ ∀ a, result = .ok a → ∃ bytes, q.decode bytes = some (.ok a) := by
  rw [fetch, call]
  cases c.endpoints.get? q.endpoint.name with
  | none =>
    intro a ha
    nomatch ha
  | some path =>
    refine (Dialogue.ends_true _).bind fun response _ ↦ ?_
    intro a ha
    cases response with
    | none => nomatch ha
    | some r =>
      rw [conclude, judge] at ha
      cases hbody : r.body with
      | none => rw [hbody] at ha; nomatch ha
      | some body =>
        rw [hbody] at ha
        dsimp only at ha
        split_ifs at ha
        · cases hdecode : q.decode body with
          | none => rw [hdecode] at ha; nomatch ha
          | some result =>
            cases result with
            | error cause => rw [hdecode] at ha; nomatch ha
            | ok a' =>
              rw [hdecode] at ha
              rw [← Except.ok.inj ha]
              exact ⟨body, hdecode⟩
        · nomatch ha

theorem run_sendUpTo_log (r : Request) (n : Nat) (other : Responder) (log : Log) :
    ∃ new : Log, ((sendUpTo r n).run other log).2 = log ++ new ∧ ∀ x ∈ new, x.request = r := by
  induction n generalizing log with
  | zero => exact ⟨[], by simp [sendUpTo], by simp⟩
  | succ n ih =>
    rw [sendUpTo, Dialogue.run]
    cases (other log r).response? with
    | some response =>
      exact ⟨[⟨r, other log r⟩], rfl, fun x hx ↦ by rw [List.mem_singleton.mp hx]⟩
    | none =>
      obtain ⟨new, hnew, hmem⟩ := ih (Dialogue.logAfter other log r)
      refine ⟨⟨r, other log r⟩ :: new, ?_, List.forall_mem_cons.mpr ⟨rfl, hmem⟩⟩
      rw [hnew, Dialogue.logAfter, List.append_assoc]
      rfl

/-- The requests of a call are all the same one. -/
theorem run_fetch_log (c : Client) (q : Query α) (other : Responder) (log : Log) :
    ∃ new : Log, ((c.fetch q).run other log).2 = log ++ new ∧ ∀ x ∈ new,
      ∃ path, c.endpoints.get? q.endpoint.name = some path ∧
        x.request = c.request q.method path q.body := by
  rw [fetch, call]
  cases c.endpoints.get? q.endpoint.name with
  | none => exact ⟨[], by simp, by simp⟩
  | some path =>
    rw [Dialogue.run_bind]
    obtain ⟨new, hnew, hmem⟩ := run_sendUpTo_log (c.request q.method path q.body) shortAttempts
      other log
    exact ⟨new, hnew, fun x hx ↦ ⟨path, rfl, hmem x hx⟩⟩

end Client

/-! ## Proper collectors -/

/-- The value is for one of the descriptors, with one label value for each of its labels, and the
name of the instance stands last. -/
structure Emission.Sound (descriptors : List Descriptor) (monitored : String) (e : Emission) :
    Prop where
  described : e.descriptor ∈ descriptors
  length_labels : e.labels.length = e.descriptor.labels.length
  getLast?_labels : e.labels.getLast? = some monitored

theorem Emission.Sound.mono {ds ds' : List Descriptor} {monitored : String} {e : Emission}
    (h : e.Sound ds monitored) (hds : ds ⊆ ds') : e.Sound ds' monitored :=
  ⟨hds h.described, h.length_labels, h.getLast?_labels⟩

namespace Collector

/-- The paths of the collector's endpoints. -/
def paths (c : Collector) (client : Client) : Set String := client.pathsOf c.endpoints

/-- How a task of the collector may end: never in a crash, with sound values, and with an error
of one of its endpoints if with any. -/
def Allows (c : Collector) (monitored : String) (o : TaskOutcome) : Prop :=
  ∃ emissions failure, o = .finished emissions failure ∧
    (∀ e ∈ emissions, e.Sound c.descriptors monitored) ∧
    ∀ e, failure = some e → e.endpoint ∈ c.endpoints

structure Proper (c : Collector) : Prop where
  within : ∀ client monitored, (c.update client monitored).Within (c.paths client)
  ends : ∀ client monitored, (c.update client monitored).Ends (c.Allows monitored)

/-- A collector that makes one call is proper when what it emits is sound. -/
theorem proper_ofQuery {α : Type} {name : String} {ds : List Descriptor} {query : Query α}
    {emissions : String → α → List Emission}
    (h : ∀ monitored a, ∀ e ∈ emissions monitored a, e.Sound ds monitored) :
    (ofQuery name ds query emissions).Proper where
  within client monitored :=
    (client.within_fetch query List.mem_cons_self).bind fun _ ↦ trivial
  ends client monitored := by
    refine (client.ends_fetch query).bind fun result hresult ↦ ?_
    cases result with
    | ok a => exact ⟨_, _, rfl, h monitored a, by simp⟩
    | error e =>
      refine ⟨_, _, rfl, by simp, fun e' he' ↦ ?_⟩
      rw [← Option.some.inj he', hresult e rfl]
      exact List.mem_cons_self

end Collector

/-- A value for one of a list of metrics that all have the same number of labels. -/
theorem Emission.sound_of_metric {β : Type} {metrics : List (Descriptor × β)} {n : Nat}
    (hn : ∀ d ∈ metrics.map Prod.fst, n = d.labels.length) {m : Descriptor × β} (hm : m ∈ metrics)
    {monitored : String} {labels : List String} (hlength : labels.length = n)
    (hlast : labels.getLast? = some monitored) (value : Double) :
    Emission.Sound (metrics.map Prod.fst) monitored ⟨m.1, value, labels⟩ :=
  have hd : m.1 ∈ metrics.map Prod.fst := List.mem_map_of_mem hm
  ⟨hd, hlength.trans (hn _ hd), hlast⟩

/-! ## The collectors with one call -/

theorem ArpTable.proper : ArpTable.collector.Proper := by
  refine Collector.proper_ofQuery fun monitored r e he ↦ ?_
  obtain ⟨entry, -, rfl⟩ := List.mem_map.mp he
  exact ⟨List.mem_cons_self, rfl, rfl⟩

theorem Cron.proper : Cron.collector.Proper := by
  refine Collector.proper_ofQuery fun monitored r e he ↦ ?_
  obtain ⟨job, -, rfl⟩ := List.mem_map.mp he
  exact ⟨List.mem_cons_self, rfl, rfl⟩

theorem Services.proper : Services.collector.Proper := by
  refine Collector.proper_ofQuery fun monitored r e he ↦ ?_
  rcases List.mem_append.mp he with he | he
  · obtain ⟨service, -, rfl⟩ := List.mem_map.mp he
    exact ⟨by simp [Services.statusEmission], rfl, rfl⟩
  · simp only [List.mem_cons, List.not_mem_nil, or_false] at he
    rcases he with rfl | rfl <;> exact ⟨by simp, rfl, rfl⟩

theorem Firewall.proper : Firewall.collector.Proper := by
  refine Collector.proper_ofQuery fun monitored r e he ↦ ?_
  obtain ⟨entry, -, he⟩ := List.mem_flatMap.mp he
  obtain ⟨m, hm, rfl⟩ := List.mem_map.mp he
  exact Emission.sound_of_metric (n := 2) (by decide) hm rfl rfl _

theorem Interfaces.proper : Interfaces.collector.Proper := by
  refine Collector.proper_ofQuery fun monitored r e he ↦ ?_
  obtain ⟨i, -, he⟩ := List.mem_flatMap.mp he
  obtain ⟨m, hm, rfl⟩ := List.mem_map.mp he
  exact Emission.sound_of_metric (n := 4) (by decide) hm rfl rfl _

theorem Protocol.proper : Protocol.collector.Proper := by
  refine Collector.proper_ofQuery fun monitored r e he ↦ ?_
  rcases List.mem_append.mp he with he | he
  · obtain ⟨entry, -, rfl⟩ := List.mem_map.mp he
    exact ⟨List.mem_cons_self, rfl, rfl⟩
  · obtain ⟨m, hm, rfl⟩ := List.mem_map.mp he
    exact (Emission.sound_of_metric (n := 1) (by decide) hm rfl rfl _).mono
      (List.subset_cons_self _ _)

theorem Gateways.proper : Gateways.collector.Proper := by
  refine Collector.proper_ofQuery fun monitored r e he ↦ ?_
  obtain ⟨g, -, he⟩ := List.mem_flatMap.mp he
  rcases List.mem_cons.mp he with rfl | he
  · exact ⟨List.mem_cons_self, rfl, rfl⟩
  · obtain ⟨m, hm, he⟩ := List.mem_filterMap.mp he
    obtain ⟨v, -, rfl⟩ := Option.map_eq_some_iff.mp he
    exact (Emission.sound_of_metric (n := 3) (by decide) hm rfl rfl _).mono
      (List.subset_cons_self _ _)

theorem Firmware.proper : Firmware.collector.Proper := by
  refine Collector.proper_ofQuery fun monitored r e he ↦ ?_
  rcases List.mem_append.mp he with he | he
  · obtain ⟨m, hm, rfl⟩ := List.mem_map.mp he
    exact (Emission.sound_of_metric (n := 2) (by decide) hm rfl rfl _).mono
      (List.subset_append_left _ _)
  · obtain ⟨m, hm, rfl⟩ := List.mem_map.mp he
    exact (Emission.sound_of_metric (n := 2) (by decide) hm rfl rfl _).mono
      (List.subset_append_right _ _)

theorem OpenVpn.proper : OpenVpn.collector.Proper := by
  refine Collector.proper_ofQuery fun monitored r e he ↦ ?_
  obtain ⟨v, -, rfl⟩ := List.mem_map.mp he
  exact ⟨List.mem_cons_self, rfl, rfl⟩

theorem WireGuard.proper : WireGuard.collector.Proper := by
  refine Collector.proper_ofQuery fun monitored r e he ↦ ?_
  rcases List.mem_append.mp he with he | he
  · obtain ⟨i, -, rfl⟩ := List.mem_map.mp he
    exact ⟨List.mem_cons_self, rfl, rfl⟩
  · obtain ⟨p, -, he⟩ := List.mem_flatMap.mp he
    obtain ⟨m, hm, rfl⟩ := List.mem_map.mp he
    exact (Emission.sound_of_metric (n := 5) (by decide) hm rfl rfl _).mono
      (List.subset_cons_self _ _)

theorem UnboundDns.proper : UnboundDns.collector.Proper := by
  refine Collector.proper_ofQuery fun monitored r e he ↦ ?_
  rcases List.mem_append.mp he with he | he
  · rcases List.mem_append.mp he with he | he
    · obtain ⟨m, hm, rfl⟩ := List.mem_map.mp he
      exact (Emission.sound_of_metric (n := 1) (by decide) hm rfl rfl _).mono
        (List.subset_append_left _ _)
    · obtain ⟨entry, -, rfl⟩ := List.mem_map.mp he
      exact ⟨List.mem_append_right _ List.mem_cons_self, rfl, rfl⟩
  · obtain ⟨entry, -, rfl⟩ := List.mem_map.mp he
    exact ⟨List.mem_append_right _ (by simp), rfl, rfl⟩

theorem Dhcp.proper : Dhcp.collector.Proper := by
  refine Collector.proper_ofQuery fun monitored r e he ↦ ?_
  obtain ⟨entry, -, rfl⟩ := List.mem_map.mp he
  exact ⟨List.mem_cons_self, rfl, rfl⟩

/-! ## The collector with many calls -/

namespace Ipsec

theorem sound_tunnelEmissions (monitored : String) (t : Tunnel) :
    ∀ e ∈ tunnelEmissions monitored t, e.Sound collector.descriptors monitored := by
  intro e he
  obtain ⟨m, hm, rfl⟩ := List.mem_map.mp he
  exact (Emission.sound_of_metric (n := 3) (by decide) hm rfl rfl _).mono
    (List.subset_append_left _ _)

theorem sound_childEmissions (monitored tunnel : String) (c : Child) :
    ∀ e ∈ childEmissions monitored tunnel c, e.Sound collector.descriptors monitored := by
  intro e he
  obtain ⟨m, hm, rfl⟩ := List.mem_map.mp he
  exact (Emission.sound_of_metric (n := 6) (by decide) hm rfl rfl _).mono
    (List.subset_append_right _ _)

theorem sound_tunnelBlock (monitored : String) (t : Tunnel)
    (children : Except FetchError (List Child)) :
    ∀ e ∈ tunnelBlock monitored t children, e.Sound collector.descriptors monitored := by
  intro e he
  cases children with
  | error _ => exact sound_tunnelEmissions monitored t e he
  | ok children =>
    rcases List.mem_append.mp he with he | he
    · exact sound_tunnelEmissions monitored t e he
    · obtain ⟨c, -, he⟩ := List.mem_flatMap.mp he
      exact sound_childEmissions monitored t.name c e he

theorem name_childrenQuery_mem (tunnel : String) :
    (childrenQuery tunnel).endpoint.name ∈ collector.endpoints :=
  List.mem_cons_of_mem _ List.mem_cons_self

theorem within_visit (client : Client) (monitored : String) (tunnels : List Tunnel) :
    (visit client monitored tunnels).Within (collector.paths client) := by
  induction tunnels with
  | nil => trivial
  | cons t ts ih =>
    exact (client.within_fetch _ (name_childrenQuery_mem t.name)).bind fun _ ↦
      ih.bind fun _ ↦ trivial

theorem ends_visit (client : Client) (monitored : String) (tunnels : List Tunnel) :
    (visit client monitored tunnels).Ends fun result ↦
      (∀ e ∈ result.1, e.Sound collector.descriptors monitored) ∧
        ∀ e, result.2 = some e → e.endpoint ∈ collector.endpoints := by
  induction tunnels with
  | nil => exact ⟨by simp, by simp⟩
  | cons t ts ih =>
    refine (client.ends_fetch (childrenQuery t.name)).bind fun children hchildren ↦ ?_
    -- The first error of the tunnels counts; what was emitted is kept in any case.
    refine ih.bind fun rest hrest ↦ ⟨fun e he ↦ ?_, fun e he ↦ ?_⟩
    · rcases List.mem_append.mp he with he | he
      · exact sound_tunnelBlock monitored t children e he
      · exact hrest.1 e he
    · cases children with
      | ok _ => exact hrest.2 e he
      | error e' =>
        rw [← Option.some.inj he, hchildren e' rfl]
        exact name_childrenQuery_mem t.name

theorem proper : collector.Proper where
  within client monitored := by
    refine (client.within_fetch tunnelsQuery (by decide)).bind fun result ↦ ?_
    cases result with
    | error e => trivial
    | ok tunnels => exact (within_visit client monitored tunnels).bind fun _ ↦ trivial
  ends client monitored := by
    refine (client.ends_fetch tunnelsQuery).bind fun result hresult ↦ ?_
    cases result with
    | error e =>
      refine ⟨_, _, rfl, by simp, fun e' he' ↦ ?_⟩
      rw [← Option.some.inj he', hresult e rfl]
      decide
    | ok tunnels =>
      exact (ends_visit client monitored tunnels).bind fun result h ↦ ⟨_, _, rfl, h.1, h.2⟩

end Ipsec

/-! ## All of them -/

namespace Registry

theorem proper_of_mem_all {c : Collector} (h : c ∈ all) : c.Proper := by
  simp only [all, List.mem_cons, List.not_mem_nil, or_false] at h
  rcases h with rfl | rfl | rfl | rfl | rfl | rfl | rfl | rfl | rfl | rfl | rfl | rfl | rfl
  · exact ArpTable.proper
  · exact Cron.proper
  · exact Services.proper
  · exact Firewall.proper
  · exact Interfaces.proper
  · exact Protocol.proper
  · exact Gateways.proper
  · exact Firmware.proper
  · exact OpenVpn.proper
  · exact WireGuard.proper
  · exact Ipsec.proper
  · exact UnboundDns.proper
  · exact Dhcp.proper

/-- The names of all metrics of a registry, collector by collector. -/
def metricNames (r : Registry) : List String :=
  (r.flatMap Collector.descriptors).map Descriptor.name

/-- No two collectors share an endpoint, and none uses that of the health check. -/
theorem nodup_endpoints_all :
    (Endpoint.health.name :: all.flatMap Collector.endpoints).Nodup := by decide

theorem nodup_metricNames_all : all.metricNames.Nodup := by decide +kernel

theorem nodup_names_all : all.names.Nodup := by decide

/-- A metric is named after the area of its collector. -/
theorem exists_fullName {c : Collector} (h : c ∈ all) :
    ∀ d ∈ c.descriptors, ∃ x, d.name = Descriptor.fullName c.name x := by
  simp only [all, List.mem_cons, List.not_mem_nil, or_false] at h
  rcases h with rfl | rfl | rfl | rfl | rfl | rfl | rfl | rfl | rfl | rfl | rfl | rfl | rfl <;>
    repeat' first
      | exact List.forall_mem_nil _
      | refine List.forall_mem_cons.mpr ⟨⟨_, rfl⟩, ?_⟩

private theorem isOk_check_all :
    ((all.flatMap Collector.descriptors).all fun d ↦ d.check.isOk) = true := by decide +kernel

/-- What a table of descriptors holds is described by one of the collectors. -/
theorem exists_of_get?_descriptorTable {r : Registry} {name : String} {d : Descriptor}
    (h : r.descriptorTable.get? name = some d) :
    d.name = name ∧ ∃ c ∈ r, d ∈ c.descriptors := by
  obtain ⟨d', hd', he⟩ := List.mem_map.mp (SortedTable.mem_of_get?_ofList h)
  obtain ⟨rfl, rfl⟩ := Prod.mk.inj he
  exact ⟨rfl, List.mem_flatMap.mp hd'⟩

/-- The built-in collectors describe well-formed metrics, each under its own name. -/
theorem wellFormed_descriptorTable {r : Registry} (hr : r ⊆ all) :
    WellFormed r.descriptorTable := by
  intro name d hd
  obtain ⟨hname, c, hc, hdc⟩ := exists_of_get?_descriptorTable hd
  have hok := List.all_eq_true.mp isOk_check_all d (List.mem_flatMap.mpr ⟨c, hr hc, hdc⟩)
  refine ⟨hname, ?_⟩
  cases hcheck : d.check with
  | ok u => rfl
  | error fault => rw [hcheck] at hok; nomatch hok

end Registry

end FirewallExporter
