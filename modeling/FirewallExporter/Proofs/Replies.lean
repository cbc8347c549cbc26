import FirewallExporter.Proofs.Client
import FirewallExporter.Proofs.Decoding
import FirewallExporter.Proofs.Emissions

/-!
# What an update makes of its reply

A collector with one call decodes the reply, converts it and emits from the result. Here the call is
taken apart from what is made of the reply: given that the same call, without the conversion, brings
a reply, the update ends with what the conversion makes of it, and nothing more is exchanged
(`Collector.run_update_ofShape`). So a law about replies is a law about one conversion and one list
of emissions.
-/

namespace FirewallExporter

/-- The sample of a metric of an area. -/
def Sample.ofArea (area metric : String) (labels : List String) (value : Double) : Sample :=
  ⟨Descriptor.fullName area metric, labels, value⟩

/-- The task came to its end without an error and left these samples, one for each emission. -/
structure TaskOutcome.Leaves (o : TaskOutcome) (samples : List Sample) : Prop where
  finished : o = .finished o.emissions none
  samples_eq : Scraper.samplesOf o = samples
  length_emissions : o.emissions.length = samples.length

namespace Collector

section

variable {ρ α : Type} {name : String} {ds : List Descriptor} {endpoint : Endpoint}
  {method : Method} {body : Option String} {shape : Json.Shape ρ}
  {convert : ρ → Except Unparsable α} {emissions : String → α → List Emission}
  {client : Client} {monitored : String} {other : Responder} {log later : Log} {reply : ρ}

/-- The update ends with what is made of the reply that its call brings. -/
theorem run_update_ofShape
    (h : (client.fetch (.ofShape endpoint method body shape .ok)).run other log =
      (.ok reply, later)) :
    ((ofQuery name ds (.ofShape endpoint method body shape convert) emissions).update client
        monitored).run other log =
      (outcomeOf (emissions monitored)
        ((convert reply).mapError (⟨endpoint.name, .unparsable ·⟩)), later) := by
  have hcall := client.run_call_convert Client.shortAttempts method endpoint.name body shape convert
    other log
  have hreply : (client.callFor Client.shortAttempts method endpoint.name body shape).run other
      log = (.ok reply, later) := h
  rw [hreply] at hcall
  rw [ofQuery]
  dsimp only
  rw [Dialogue.run_bind, Client.fetch]
  exact congrArg (fun ended : Except FetchError α × Log ↦
    (outcomeOf (emissions monitored) ended.1, ended.2)) hcall

/-- A proper collector records all that it emits. -/
theorem Proper.leaves {c : Collector} (hc : c.Proper) {es : List Emission}
    (h : (c.update client monitored).run other log = (.finished es none, later))
    {samples : List Sample} (hsamples : es.map Emission.sample = samples) :
    (TaskOutcome.finished es none).Leaves samples := by
  have hallows : c.Allows monitored (.finished es none) := by
    have hends := (hc.ends client monitored).run other log
    rwa [h] at hends
  refine ⟨rfl, hallows.samplesOf_eq_map.trans hsamples, ?_⟩
  rw [← hsamples, List.length_map]
  rfl

/-- A collector whose conversion cannot fail shows its reply. -/
theorem leaves_update {convert : ρ → α}
    (hc : (ofQuery name ds (.ofShape endpoint method body shape fun r ↦ .ok (convert r))
      emissions).Proper)
    (h : (client.fetch (.ofShape endpoint method body shape .ok)).run other log =
      (.ok reply, later)) {samples : List Sample}
    (hsamples : (emissions monitored (convert reply)).map Emission.sample = samples) :
    ∃ o, ((ofQuery name ds (.ofShape endpoint method body shape fun r ↦ .ok (convert r))
      emissions).update client monitored).run other log = (o, later) ∧ o.Leaves samples :=
  ⟨_, run_update_ofShape h, hc.leaves (run_update_ofShape h) hsamples⟩

end

end Collector

/-- What a call brings was decoded from the body of a response, so it has every property that all
documents of its shape have. -/
theorem Client.forall_of_run {ρ : Type} {client : Client} {endpoint : Endpoint} {method : Method}
    {body : Option String} {shape : Json.Shape ρ} {other : Responder} {log later : Log} {reply : ρ}
    (h : (client.fetch (.ofShape endpoint method body shape .ok)).run other log =
      (.ok reply, later)) {P : ρ → Prop}
    (hP : ∀ depth d r, shape.decode depth d = some r → P r) : P reply := by
  have hends := (client.ends_fetch_ok (.ofShape endpoint method body shape .ok)).run other log
  obtain ⟨bytes, hbytes⟩ := hends reply (congrArg Prod.fst h)
  obtain ⟨reply', hread, heq⟩ := Option.map_eq_some_iff.mp hbytes
  obtain ⟨d, -, hd⟩ := Option.bind_eq_some_iff.mp hread
  exact Except.ok.inj heq ▸ hP 0 d reply' hd

/-- A firewall with one answer for everything. -/
def Responder.constantly (body : String) : Responder := .perPath fun _ _ ↦
  .answered ⟨200, some (Utf8.encode body)⟩

end FirewallExporter
