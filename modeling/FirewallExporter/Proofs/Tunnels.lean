import FirewallExporter.Proofs.Client
import FirewallExporter.Proofs.Emissions
import FirewallExporter.Proofs.Quoting
import FirewallExporter.Proofs.Selection

/-!
# The update of the IPsec tunnels

The update makes two kinds of calls: one for the list of tunnels, and then one for each tunnel of
the list. What it comes to is told by the outcomes of these calls and by nothing else (`Reports`).
The calls themselves are told apart from what is made of them: `CalledInTurn` is the sequence of
calls for a list of tunnels, in which every tunnel has its place, whatever came of the calls before
it.

The loop puts a block of samples in front of those of the tunnels that follow and keeps the error of
a tunnel in front of theirs, so both statements are inductions on the tunnels. For a task among
others only the possible ends of a dialogue are known; there the same induction is done over
`Dialogue.Ends` (`ends_visit_reports`).
-/

namespace FirewallExporter

namespace Ipsec

/-! ## What a tunnel should show -/

/-- The outcome of the call for the children of a tunnel. -/
abbrev Answer := Except FetchError (List Child)

/-- The call for the children succeeded. -/
def Succeeds (a : Answer) : Prop := ∃ children, a = .ok children

/-- The sample of a metric of this area. -/
def sampleOf (metric : String) (labels : List String) (value : Int) : Sample :=
  ⟨"opnsense_ipsec_" ++ metric, labels, Double.ofInt value⟩

/-- The six samples of a tunnel. -/
def tunnelSamples (monitored : String) (t : Tunnel) : List Sample :=
  let labels := [t.description, t.name, monitored]
  [sampleOf "phase1_status" labels (if t.connected then 1 else 0),
    sampleOf "phase1_install_time" labels t.installTime,
    sampleOf "phase1_bytes_in" labels t.bytesIn,
    sampleOf "phase1_bytes_out" labels t.bytesOut,
    sampleOf "phase1_packets_in" labels t.packetsIn,
    sampleOf "phase1_packets_out" labels t.packetsOut]

/-- The seven samples of a child, with the name of its tunnel. -/
def childSamples (monitored tunnel : String) (c : Child) : List Sample :=
  let labels := [c.description, c.name, c.spiIn, c.spiOut, tunnel, monitored]
  [sampleOf "phase2_install_time" labels c.installTime,
    sampleOf "phase2_bytes_in" labels c.bytesIn,
    sampleOf "phase2_bytes_out" labels c.bytesOut,
    sampleOf "phase2_packets_in" labels c.packetsIn,
    sampleOf "phase2_packets_out" labels c.packetsOut,
    sampleOf "phase2_rekey_time" labels c.rekeyTime,
    sampleOf "phase2_life_time" labels c.lifeTime]

/-- The samples of a tunnel, and those of its children if the call for them succeeded. -/
def blockSamples (monitored : String) : Tunnel × Answer → List Sample
  | (t, .ok children) =>
    tunnelSamples monitored t ++ children.flatMap (childSamples monitored t.name)
  | (t, .error _) => tunnelSamples monitored t

/-- The error is that of the first call that failed. -/
def FirstError (e : FetchError) (answers : List Answer) : Prop :=
  ∃ before after, answers = before ++ .error e :: after ∧ ∀ a ∈ before, Succeeds a

/-- A task ended as the outcomes of the calls for the children of the tunnels demand. -/
structure Reports (monitored : String) (tunnels : List Tunnel) (answers : List Answer)
    (o : TaskOutcome) : Prop where
  /-- There is one outcome for each tunnel. -/
  length_eq : answers.length = tunnels.length
  finished : ∃ failure, o = .finished o.emissions failure ∧
    (failure = none ↔ ∀ a ∈ answers, Succeeds a) ∧
      ∀ e, failure = some e ↔ FirstError e answers
  /-- Every emission is recorded, tunnel by tunnel. -/
  samples : Scraper.samplesOf o = (tunnels.zip answers).flatMap (blockSamples monitored)
  length_samples : (Scraper.samplesOf o).length = o.emissions.length

/-! ## What a tunnel emits -/

theorem map_sample_tunnelEmissions (monitored : String) (t : Tunnel) :
    (tunnelEmissions monitored t).map Emission.sample = tunnelSamples monitored t := rfl

theorem map_sample_tunnelBlock (monitored : String) (t : Tunnel) (a : Answer) :
    (tunnelBlock monitored t a).map Emission.sample = blockSamples monitored (t, a) := by
  cases a with
  | error e => exact map_sample_tunnelEmissions monitored t
  | ok children =>
    rw [tunnelBlock, List.map_append, List.map_flatMap, map_sample_tunnelEmissions]
    rfl

theorem record_tunnelBlock (monitored : String) (t : Tunnel) (a : Answer) :
    Emission.record (tunnelBlock monitored t a) = blockSamples monitored (t, a) := by
  rw [Emission.record_eq_map, map_sample_tunnelBlock]
  exact fun e he ↦ beq_iff_eq.mpr (sound_tunnelBlock monitored t a e he).length_labels

/-! ## The loop -/

/-- What the loop makes of a tunnel and of the tunnels after it. -/
def combine (monitored : String) (t : Tunnel) (a : Answer)
    (rest : List Emission × Option FetchError) : List Emission × Option FetchError :=
  (tunnelBlock monitored t a ++ rest.1, match a with | .ok _ => rest.2 | .error e => some e)

theorem visit_cons (client : Client) (monitored : String) (t : Tunnel) (ts : List Tunnel) :
    visit client monitored (t :: ts) = (client.fetch (childrenQuery t.name)).bind fun a ↦
      (visit client monitored ts).bind fun rest ↦ .done (combine monitored t a rest) := rfl

theorem reports_nil (monitored : String) : Reports monitored [] [] (.finished [] none) where
  length_eq := rfl
  finished := ⟨none, rfl, by simp, by simp [FirstError]⟩
  samples := rfl
  length_samples := rfl

theorem firstError_cons_ok {e : FetchError} {children : List Child} {answers : List Answer} :
    FirstError e (.ok children :: answers) ↔ FirstError e answers := by
  constructor
  · rintro ⟨before, after, heq, hbefore⟩
    cases before with
    | nil => exact absurd (List.cons.inj heq).1 nofun
    | cons a before =>
      exact ⟨before, after, (List.cons.inj heq).2, fun a ha ↦ hbefore a (List.mem_cons_of_mem _ ha)⟩
  · rintro ⟨before, after, rfl, hbefore⟩
    exact ⟨.ok children :: before, after, rfl,
      List.forall_mem_cons.mpr ⟨⟨children, rfl⟩, hbefore⟩⟩

theorem firstError_cons_error {e e' : FetchError} {answers : List Answer} :
    FirstError e (.error e' :: answers) ↔ e' = e := by
  constructor
  · rintro ⟨before, after, heq, hbefore⟩
    cases before with
    | nil => exact Except.error.inj (List.cons.inj heq).1
    | cons a before =>
      obtain ⟨children, rfl⟩ := hbefore a List.mem_cons_self
      exact absurd (List.cons.inj heq).1 nofun
  · rintro rfl
    exact ⟨[], answers, rfl, by simp⟩

/-- A tunnel goes in front of the tunnels after it. -/
theorem Reports.cons {monitored : String} {tunnels : List Tunnel} {answers : List Answer}
    {rest : List Emission × Option FetchError}
    (h : Reports monitored tunnels answers (.finished rest.1 rest.2)) (t : Tunnel) (a : Answer) :
    Reports monitored (t :: tunnels) (a :: answers)
      (.finished (combine monitored t a rest).1 (combine monitored t a rest).2) := by
  obtain ⟨failure, heq, hnone, hsome⟩ := h.finished
  obtain ⟨-, rfl⟩ := TaskOutcome.finished.inj heq
  have hsamples := h.samples
  have hlength := h.length_samples
  rw [Scraper.samplesOf] at hsamples hlength
  constructor
  case length_eq => rw [List.length_cons, List.length_cons, h.length_eq]
  case finished =>
    refine ⟨_, rfl, ?_⟩
    cases a with
    | ok children =>
      simp only [combine, firstError_cons_ok, List.forall_mem_cons]
      exact ⟨hnone.trans ⟨fun hall ↦ ⟨⟨children, rfl⟩, hall⟩, And.right⟩, hsome⟩
    | error e =>
      simp only [combine, firstError_cons_error, List.forall_mem_cons, Option.some_inj,
        reduceCtorEq, false_iff, not_and, implies_true, and_true]
      exact fun hok ↦ absurd hok.choose_spec nofun
  case samples =>
    rw [List.zip_cons_cons, List.flatMap_cons, ← hsamples, ← record_tunnelBlock]
    exact Emission.record_append _ _
  case length_samples =>
    simp only [Scraper.samplesOf, combine, TaskOutcome.emissions, Emission.record_append,
      List.length_append, record_tunnelBlock]
    rw [← map_sample_tunnelBlock, List.length_map]
    exact congrArg _ hlength

/-! ## The calls -/

/-- The calls for the children of tunnels, one after the other, with what came of them. -/
inductive CalledInTurn (client : Client) (other : Responder) :
    Log → List Tunnel → List Answer → Log → Prop
  | nil {log : Log} : CalledInTurn client other log [] [] log
  | cons {log log' log'' : Log} {t : Tunnel} {ts : List Tunnel} {a : Answer}
      {answers : List Answer} :
      (client.fetch (childrenQuery t.name)).run other log = (a, log') →
      CalledInTurn client other log' ts answers log'' →
      CalledInTurn client other log (t :: ts) (a :: answers) log''

/-- The loop makes the call of every tunnel, and ends as the outcomes demand. -/
theorem run_visit (client : Client) (monitored : String) (other : Responder)
    (tunnels : List Tunnel) (log : Log) :
    ∃ answers result log', (visit client monitored tunnels).run other log = (result, log') ∧
      CalledInTurn client other log tunnels answers log' ∧
      Reports monitored tunnels answers (.finished result.1 result.2) := by
  induction tunnels generalizing log with
  | nil => exact ⟨[], _, log, rfl, .nil, reports_nil monitored⟩
  | cons t ts ih =>
    obtain ⟨a, log₁, hcall⟩ : ∃ a log₁,
        (client.fetch (childrenQuery t.name)).run other log = (a, log₁) := ⟨_, _, rfl⟩
    obtain ⟨answers, rest, log', hrun, hcalls, hreports⟩ := ih log₁
    refine ⟨a :: answers, combine monitored t a rest, log', ?_, .cons hcall hcalls,
      hreports.cons t a⟩
    rw [visit_cons, Dialogue.run_bind, hcall, Dialogue.run_bind, hrun]
    rfl

/-- A call repeats one request at most three times, and at least once if the endpoint is mapped. -/
theorem exists_sent_fetch (client : Client) (tunnel : String) (other : Responder) (log : Log) :
    ∃ new : Log, ((client.fetch (childrenQuery tunnel)).run other log).2 = log ++ new ∧
      (client.endpoints.get? Endpoint.ipsecPhase2.name = none → new = []) ∧
      ∀ path, client.endpoints.get? Endpoint.ipsecPhase2.name = some path →
        ∃ n, 1 ≤ n ∧ n ≤ 3 ∧ new.sent =
          List.replicate n (client.request .post path (some (childrenBody tunnel))) := by
  cases hpath : client.endpoints.get? Endpoint.ipsecPhase2.name with
  | none =>
    refine ⟨[], ?_, fun _ ↦ rfl, nofun⟩
    rw [List.append_nil]
    exact congrArg Prod.snd (client.run_call_of_unmapped _ _ hpath other log)
  | some path =>
    have hrun := @Client.run_call _ client .post _ _ (some (childrenBody tunnel))
      Client.shortAttempts (childrenQuery tunnel).decode hpath other log
    rcases hrun with ⟨-, hrun⟩ | ⟨i, hi, response, -, hrun⟩
    · refine ⟨_, congrArg Prod.snd hrun, nofun, fun path' hpath' ↦ ?_⟩
      obtain rfl := Option.some.inj hpath'
      exact ⟨Client.shortAttempts, by decide, by decide, Dialogue.sent_attempts ..⟩
    · refine ⟨_, congrArg Prod.snd hrun, nofun, fun path' hpath' ↦ ?_⟩
      obtain rfl := Option.some.inj hpath'
      exact ⟨i + 1, Nat.succ_pos i, hi, Dialogue.sent_attempts ..⟩

/-- What the calls for the children of tunnels send. -/
theorem CalledInTurn.exists_sent {client : Client} {other : Responder} {log log' : Log}
    {tunnels : List Tunnel} {answers : List Answer}
    (h : CalledInTurn client other log tunnels answers log') :
    ∃ new : Log, log' = log ++ new ∧
      (client.endpoints.get? Endpoint.ipsecPhase2.name = none → new = []) ∧
      ∀ path, client.endpoints.get? Endpoint.ipsecPhase2.name = some path →
        ∃ attempts : List Nat, attempts.length = tunnels.length ∧
          (∀ n ∈ attempts, 1 ≤ n ∧ n ≤ 3) ∧
          new.sent = (tunnels.zip attempts).flatMap fun u ↦
            List.replicate u.2 (client.request .post path (some (childrenBody u.1.name))) := by
  induction h with
  | nil => exact ⟨[], (List.append_nil _).symm, fun _ ↦ rfl, fun _ _ ↦ ⟨[], rfl, by simp, rfl⟩⟩
  | @cons log log₁ log' t ts a answers hcall _ ih =>
    obtain ⟨first, hfirst, hunmapped, hsent⟩ := exists_sent_fetch client t.name other log
    obtain ⟨rest, rfl, hunmapped', hsent'⟩ := ih
    obtain rfl : log₁ = log ++ first := by rw [← hfirst, hcall]
    refine ⟨first ++ rest, List.append_assoc .., fun hpath ↦ ?_, fun path hpath ↦ ?_⟩
    · rw [hunmapped hpath, hunmapped' hpath, List.append_nil]
    · obtain ⟨n, hlow, hhigh, hn⟩ := hsent path hpath
      obtain ⟨attempts, hlength, hbounds, hattempts⟩ := hsent' path hpath
      refine ⟨n :: attempts, by rw [List.length_cons, List.length_cons, hlength],
        List.forall_mem_cons.mpr ⟨⟨hlow, hhigh⟩, hbounds⟩, ?_⟩
      rw [List.zip_cons_cons, List.flatMap_cons, ← hn, ← hattempts]
      exact List.map_append

/-! ## The update -/

/-- What the update comes to when it runs on its own. -/
structure UpdateLaw (client : Client) (monitored : String) (other : Responder) (log : Log) :
    Prop where
  /-- Without the list of tunnels nothing more is asked and nothing is emitted. -/
  phase1_failed : ∀ e log₁, (client.fetch tunnelsQuery).run other log = (.error e, log₁) →
    (update client monitored).run other log = (.finished [] (some e), log₁)
  /-- Every tunnel of the list has its call, in the order of the list, and the body of each request
  says the name of the tunnel and nothing else. -/
  phase1_ok : ∀ tunnels log₁, (client.fetch tunnelsQuery).run other log = (.ok tunnels, log₁) →
    ∃ answers o log₂, (update client monitored).run other log = (o, log₂) ∧
      CalledInTurn client other log₁ tunnels answers log₂ ∧ Reports monitored tunnels answers o ∧
      ∃ new : Log, log₂ = log₁ ++ new ∧
        (client.endpoints.get? Endpoint.ipsecPhase2.name = none → new = []) ∧
        ∀ path, client.endpoints.get? Endpoint.ipsecPhase2.name = some path →
          ∃ attempts : List Nat, attempts.length = tunnels.length ∧
            (∀ n ∈ attempts, 1 ≤ n ∧ n ≤ 3) ∧
            new.sent = (tunnels.zip attempts).flatMap (fun u ↦
              List.replicate u.2 (client.request .post path (some (childrenBody u.1.name)))) ∧
            ∀ u ∈ tunnels.zip attempts, Json.Shape.free.read? (Utf8.encode
                (client.request .post path (some (childrenBody u.1.name))).body) =
              some (.object [("id", .string u.1.name)])

theorem updateLaw (client : Client) (monitored : String) (other : Responder) (log : Log) :
    UpdateLaw client monitored other log where
  phase1_failed e log₁ h := by
    rw [update, Dialogue.run_bind, h]
    rfl
  phase1_ok tunnels log₁ h := by
    obtain ⟨answers, result, log₂, hrun, hcalls, hreports⟩ :=
      run_visit client monitored other tunnels log₁
    obtain ⟨new, hlog, hunmapped, hmapped⟩ := hcalls.exists_sent
    refine ⟨answers, .finished result.1 result.2, log₂, ?_, hcalls, hreports, new, hlog, hunmapped,
      fun path hpath ↦ ?_⟩
    · rw [update, Dialogue.run_bind, h]
      dsimp only
      rw [Dialogue.run_bind, hrun]
      rfl
    · obtain ⟨attempts, hlength, hbounds, hsent⟩ := hmapped path hpath
      exact ⟨attempts, hlength, hbounds, hsent, fun u _ ↦ read?_childrenBody u.1.name⟩

end Ipsec

/-! ## A collector among others -/

/-- In a list of pairs with different first parts, a test that only one pair can pass counts that
pair. -/
theorem countP_eq_ite_of_mem {α β : Type} {l : List (α × β)} {u : α × β} {q : α × β → Bool}
    (hnodup : (l.map Prod.fst).Nodup) (hu : u ∈ l) (hother : ∀ v ∈ l, v.1 ≠ u.1 → q v = false) :
    l.countP q = if q u then 1 else 0 := by
  induction l with
  | nil => exact absurd hu List.not_mem_nil
  | cons v l ih =>
    obtain ⟨hv, hnodup⟩ := List.nodup_cons.mp hnodup
    obtain ⟨hfirst, hothers⟩ := List.forall_mem_cons.mp hother
    rcases List.mem_cons.mp hu with rfl | hu
    · have hne : ∀ w ∈ l, w.1 ≠ u.1 := fun w hw he ↦ hv (he ▸ List.mem_map_of_mem hw)
      have hrest : l.countP q = 0 := List.countP_eq_zero.mpr fun w hw ↦
        Bool.not_eq_true _ ▸ hothers w hw (hne w hw)
      rw [List.countP_cons, hrest, Nat.zero_add]
    · have hne : v.1 ≠ u.1 := fun he ↦ hv (he ▸ List.mem_map_of_mem hu)
      rw [List.countP_cons, ih hnodup hu hothers, hfirst hne, if_neg Bool.false_ne_true,
        Nat.add_zero]

/-- A collector of a pass that found the firewall up has an outcome. It is one that its update can
have, and alone decides how much is added to the error counters of its endpoints. -/
theorem Pass.Of.exists_outcome {s : Scraper} (hs : s.collectors.Subperm Registry.all)
    {other : Responder} {t : Tally} {log : Log} {p : Pass} (hp : p.Of s other t log)
    (hup : p.health.systemUp = true) {c : Collector} (hc : c ∈ s.collectors) :
    ∃ o, (c, o) ∈ s.collectors.zip p.outcomes ∧
      (∀ Q : TaskOutcome → Prop, (c.update s.client s.monitored).Ends Q → Q o) ∧
      ∀ e ∈ c.endpoints, p.tally.errorCount e =
        t.errorCount e + if Scraper.endpointOf? o = some e then 1 else 0 := by
  have hnodup : s.collectors.Nodup := by
    obtain ⟨l, hperm, hsub⟩ := hs
    exact hperm.nodup_iff.mp (hsub.nodup (Registry.nodup_names_all.of_map Collector.name))
  have hforall : List.Forall₂ (fun c o ↦ ∀ Q : TaskOutcome → Prop,
      (Collector.update c s.client s.monitored).Ends Q → Q o) s.collectors p.outcomes := by
    cases hp with
    | down _ hdown => exact absurd (hdown.symm.trans hup) Bool.false_ne_true
    | up _ _ hrun _ => exact List.forall₂_map_left_iff.mp hrun.forall₂_ends
  have hfst : (s.collectors.zip p.outcomes).map Prod.fst = s.collectors :=
    List.map_fst_zip hforall.length_eq.le
  obtain ⟨u, hu, rfl⟩ := List.mem_map.mp (hfst.symm ▸ hc)
  refine ⟨u.2, hu, List.forall₂_zip hforall hu, fun e he ↦ ?_⟩
  -- No other collector has the endpoint.
  have hother : ∀ v ∈ s.collectors.zip p.outcomes, v.1 ≠ u.1 →
      (Scraper.endpointOf? v.2 == some e) = false := by
    refine fun v hv hne ↦ beq_false_of_ne fun hcharge ↦ hne ?_
    have hcharged := (hp.allows hs.subset v hv).endpoint_mem hcharge
    exact Registry.eq_of_mem_endpoints (hs.subset (List.of_mem_zip hv).1) (hs.subset hc) hcharged he
  have hfailures : p.failures s e = if Scraper.endpointOf? u.2 = some e then 1 else 0 := by
    rw [Pass.failures, countP_eq_ite_of_mem (hfst.symm ▸ hnodup) hu hother]
    simp only [beq_iff_eq]
  rw [hp.tally_eq, ← hfailures, hp.failures_eq]
  exact Tally.errorCount_countErrors _ _ e

namespace Ipsec

/-! ## The update in a pass -/

/-- The errors among the outcomes are of the endpoint for the children. -/
def Charged (answers : List Answer) : Prop :=
  ∀ e, .error e ∈ answers → e.endpoint = Endpoint.ipsecPhase2.name

/-- How the update can end, whatever goes on around it. -/
def Ended (monitored : String) (o : TaskOutcome) : Prop :=
  (∃ e, o = .finished [] (some e) ∧ e.endpoint = Endpoint.ipsecPhase1.name) ∨
    ∃ tunnels answers, Reports monitored tunnels answers o ∧ Charged answers

theorem ends_visit_reports (client : Client) (monitored : String) (tunnels : List Tunnel) :
    (visit client monitored tunnels).Ends fun result ↦ ∃ answers,
      Reports monitored tunnels answers (.finished result.1 result.2) ∧ Charged answers := by
  induction tunnels with
  | nil => exact ⟨[], reports_nil monitored, nofun⟩
  | cons t ts ih =>
    rw [visit_cons]
    refine (client.ends_fetch (childrenQuery t.name)).bind fun a ha ↦ ?_
    refine ih.bind fun rest ⟨answers, hreports, hcharged⟩ ↦ ?_
    refine ⟨a :: answers, hreports.cons t a, fun e he ↦ ?_⟩
    rcases List.mem_cons.mp he with rfl | he
    · exact ha e rfl
    · exact hcharged e he

theorem ends_update (client : Client) (monitored : String) :
    (update client monitored).Ends (Ended monitored) := by
  refine (client.ends_fetch tunnelsQuery).bind fun result hresult ↦ ?_
  cases result with
  | error e => exact .inl ⟨e, rfl, hresult e rfl⟩
  | ok tunnels =>
    refine (ends_visit_reports client monitored tunnels).bind fun result ⟨answers, h⟩ ↦ ?_
    exact .inr ⟨tunnels, answers, h⟩

/-- The update charges the endpoint for the children once if any call for children failed. -/
theorem Reports.endpointOf?_eq {monitored : String} {tunnels : List Tunnel}
    {answers : List Answer} {o : TaskOutcome} (h : Reports monitored tunnels answers o)
    (hcharged : Charged answers) :
    ((∀ a ∈ answers, Succeeds a) ∧ Scraper.endpointOf? o = none) ∨
      ((∃ e, .error e ∈ answers) ∧
        Scraper.endpointOf? o = some Endpoint.ipsecPhase2.name) := by
  obtain ⟨failure, ho, hnone, hsome⟩ := h.finished
  cases failure with
  | none => exact .inl ⟨hnone.mp rfl, by rw [ho]; rfl⟩
  | some e =>
    obtain ⟨before, after, rfl, -⟩ := (hsome e).mp rfl
    have he : .error e ∈ before ++ .error e :: after := by simp
    exact .inr ⟨⟨e, he⟩, by rw [ho, Scraper.endpointOf?, hcharged e he]⟩

/-- What the update of the tunnels is to the pass `p`. -/
def UpdatedIn (s : Scraper) (other : Responder) (t : Tally) (log : Log) (p : Pass) : Prop :=
  ∃ o, (collector, o) ∈ s.collectors.zip p.outcomes ∧
    (s.client.endpoints = Endpoint.defaultMapping → other.Local →
      o = ((update s.client s.monitored).run other log).1) ∧
    ((∃ e, o = .finished [] (some e) ∧ e.endpoint = Endpoint.ipsecPhase1.name ∧
        p.tally.errorCount Endpoint.ipsecPhase2.name =
          t.errorCount Endpoint.ipsecPhase2.name) ∨
      ∃ tunnels answers, Reports s.monitored tunnels answers o ∧
        ((∀ a ∈ answers, Succeeds a) → p.tally.errorCount Endpoint.ipsecPhase2.name =
          t.errorCount Endpoint.ipsecPhase2.name) ∧
        ((∃ e, .error e ∈ answers) → p.tally.errorCount Endpoint.ipsecPhase2.name =
          t.errorCount Endpoint.ipsecPhase2.name + 1))

theorem updatedIn {s : Scraper} (hs : s.collectors.Subperm Registry.all)
    (hc : collector ∈ s.collectors) {other : Responder} {t : Tally} {log : Log} {p : Pass}
    (hp : p.Of s other t log) (hup : p.health.systemUp = true) : UpdatedIn s other t log p := by
  obtain ⟨o, ho, hends, hcount⟩ := hp.exists_outcome hs hup hc
  have hphase2 := hcount Endpoint.ipsecPhase2.name (List.mem_cons_of_mem _ List.mem_cons_self)
  refine ⟨o, ho, fun hmapping hother ↦ ?_, ?_⟩
  · obtain ⟨hout, -⟩ := hp.outcomes_eq_alone ⟨hs, hmapping⟩ hother
    rw [hout, Pass.ran_of_up hup] at ho
    rw [← List.map_prod_left_eq_zip] at ho
    obtain ⟨c, -, he⟩ := List.mem_map.mp ho
    obtain ⟨rfl, rfl⟩ := Prod.mk.inj he
    rfl
  · rcases hends _ (ends_update s.client s.monitored) with ⟨e, rfl, he⟩ | ⟨tunnels, answers, h, hch⟩
    · refine .inl ⟨e, rfl, he, hphase2.trans ?_⟩
      rw [Scraper.endpointOf?, he]
      rfl
    · refine .inr ⟨tunnels, answers, h, fun hall ↦ ?_, fun ⟨e, he⟩ ↦ ?_⟩
      · rcases h.endpointOf?_eq hch with ⟨-, hnone⟩ | ⟨⟨e, he⟩, -⟩
        · rw [hphase2, hnone]
          rfl
        · exact absurd (hall _ he).choose_spec nofun
      · rcases h.endpointOf?_eq hch with ⟨hall, -⟩ | ⟨-, hsome⟩
        · exact absurd (hall _ he).choose_spec nofun
        · rw [hphase2, hsome, if_pos rfl]

/-- **The two phases of the update.** On its own it makes one call for each tunnel, and in any pass
that found the firewall up it adds at most one error for the calls that failed. -/
theorem collects_in_phases (client : Client) (monitored : String) (other : Responder) (log : Log) :
    UpdateLaw client monitored other log ∧
      ∀ (s : Scraper) (t : Tally) (log' : Log) (p : Pass), s.collectors.Subperm Registry.all →
        collector ∈ s.collectors → p.Of s other t log' → p.health.systemUp = true →
          UpdatedIn s other t log' p :=
  ⟨updateLaw client monitored other log, fun _ _ _ _ hs hc hp hup ↦ updatedIn hs hc hp hup⟩

end Ipsec

/-- A firewall with three tunnels. Only for the first one it tells the children. -/
def Responder.threeTunnels : Responder := .perPath fun path n ↦
  if path = Endpoint.ipsecPhase1.path then .answered ⟨200, some (Utf8.encode
    "\x7b\"rows\":[\x7b\"name\":\"con1\"\x7d,\x7b\"name\":\"con2\"\x7d,\x7b\"name\":\"con3\"\x7d]\x7d")⟩
  else if path = Endpoint.ipsecPhase2.path ∧ 0 < n then .answered ⟨500, some []⟩
  else .oneRow

/-- A pass over the three tunnels. -/
def Pass.overThree : Pass :=
  Scraper.ofTunnels.pass .threeTunnels .samples (Scraper.ofTunnels.freshTally none) []

/-- Two calls fail and one error is counted; the tunnels and the one child are all shown. -/
theorem Ipsec.collects_in_phases_overThree :
    Scraper.ofTunnels.collectors.Subperm Registry.all ∧
      Ipsec.collector ∈ Scraper.ofTunnels.collectors ∧
      Pass.overThree.Of .ofTunnels .threeTunnels (Scraper.ofTunnels.freshTally none) [] ∧
      Pass.overThree.health.systemUp = true ∧
      Ipsec.UpdatedIn .ofTunnels .threeTunnels (Scraper.ofTunnels.freshTally none) []
        Pass.overThree ∧
      Pass.overThree.samples.length = 3 * 6 + 7 ∧
      Pass.overThree.tally.errorCount Endpoint.ipsecPhase2.name = 1 := by
  have hs : Scraper.ofTunnels.collectors.Subperm Registry.all :=
    List.singleton_subperm_iff.mpr (by simp [Registry.all])
  have hc : Ipsec.collector ∈ Scraper.ofTunnels.collectors := List.mem_cons_self
  have hp : Pass.overThree.Of .ofTunnels .threeTunnels (Scraper.ofTunnels.freshTally none) [] :=
    Pass.of_pass ..
  have hup : Pass.overThree.health.systemUp = true := by decide +kernel
  have hlaw := Ipsec.collects_in_phases Scraper.ofTunnels.client "fw1" .threeTunnels []
  exact ⟨hs, hc, hp, hup, hlaw.2 _ _ _ _ hs hc hp hup, by decide +kernel, by decide +kernel⟩

end FirewallExporter
