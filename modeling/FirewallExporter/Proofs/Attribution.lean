import FirewallExporter.Proofs.Client
import FirewallExporter.Proofs.Document
import FirewallExporter.Proofs.Isolation

/-!
# Which errors an update can end with

An error of an update goes back to one of its calls, and to what the other side did during that
call (`FailedCall`). For a collector with one call this is the outcome of the call. The collector
for IPsec goes on after a failed call, so there the call stands somewhere in the middle of what was
exchanged, and it is found by induction on the tunnels.

The calls of a built-in collector are for its own endpoints, and these have default names. So no
pass can charge an error to an endpoint without a counter when the client maps all default names,
and the counters that a document shows are those that were there at the start
(`Run.keys_errors`).
-/

namespace FirewallExporter

/-! ## Texts that are no numbers -/

namespace Unparsable

/-- The text is not the number that it should be. -/
def Justified : Unparsable → Prop
  | int text fault => parseInt text = .error fault
  | double text fault => parseDouble text = .error fault

/-- The conversion fails at a text that is no number, if it fails. -/
def FailsJustly {α : Type} (x : Except Unparsable α) : Prop :=
  ∀ cause, x = .error cause → cause.Justified

variable {α β : Type}

theorem FailsJustly.ok (a : α) : FailsJustly (.ok a) := by
  intro cause h
  nomatch h

theorem FailsJustly.bind {x : Except Unparsable α} (h : FailsJustly x)
    {f : α → Except Unparsable β} (hf : ∀ a, FailsJustly (f a)) : FailsJustly (x >>= f) := by
  cases x with
  | ok a => exact hf a
  | error cause =>
    intro cause' heq
    exact h cause' (congrArg _ (Except.error.inj heq))

theorem FailsJustly.map {x : Except Unparsable α} (h : FailsJustly x) (f : α → β) :
    FailsJustly (x.map f) := by
  cases x with
  | ok a => exact .ok (f a)
  | error cause =>
    intro cause' heq
    exact h cause' (congrArg _ (Except.error.inj heq))

theorem FailsJustly.mapM {f : α → Except Unparsable β} (hf : ∀ a, FailsJustly (f a))
    (as : List α) : FailsJustly (as.mapM f) := by
  induction as with
  | nil => exact .ok []
  | cons a as ih =>
    rw [List.mapM_cons]
    exact (hf a).bind fun b ↦ ih.bind fun bs ↦ .ok (b :: bs)

theorem failsJustly_readInt (text : String) : FailsJustly (readInt text) := by
  intro cause h
  rw [readInt] at h
  cases hparse : parseInt text with
  | ok n => rw [hparse] at h; nomatch h
  | error fault =>
    rw [hparse] at h
    obtain rfl := Except.error.inj h
    exact hparse

theorem failsJustly_readDouble (text : String) : FailsJustly (readDouble text) := by
  intro cause h
  rw [readDouble] at h
  cases hparse : parseDouble text with
  | ok x => rw [hparse] at h; nomatch h
  | error fault =>
    rw [hparse] at h
    obtain rfl := Except.error.inj h
    exact hparse

end Unparsable

open Unparsable (FailsJustly)

/-- `endpoint.Refuses bytes cause`: the octets are read as a reply of the endpoint, but what is made
of the reply fails with the cause. Only these three replies have numbers in texts. -/
inductive Endpoint.Refuses : Endpoint → List UInt8 → Unparsable → Prop
  | interfaces {bytes : List UInt8} {cause : Unparsable} :
      Interfaces.query.decode bytes = some (.error cause) → Refuses .interfaces bytes cause
  | openvpn {bytes : List UInt8} {cause : Unparsable} :
      OpenVpn.query.decode bytes = some (.error cause) → Refuses .openvpn bytes cause
  | unbound {bytes : List UInt8} {cause : Unparsable} :
      UnboundDns.query.decode bytes = some (.error cause) → Refuses .unbound bytes cause

/-- A reply that can be read, but not converted, has a text that is no number. -/
def Query.FailsJustly {α : Type} (q : Query α) : Prop :=
  ∀ bytes cause, q.decode bytes = some (.error cause) →
    cause.Justified ∧ q.endpoint.Refuses bytes cause

section

variable {ρ α : Type} {endpoint : Endpoint} {method : Method} {body : Option String}
  {shape : Json.Shape ρ}

theorem Query.justified_ofShape {convert : ρ → Except Unparsable α}
    (h : ∀ r, Unparsable.FailsJustly (convert r)) {bytes : List UInt8} {cause : Unparsable}
    (hcause : (Query.ofShape endpoint method body shape convert).decode bytes =
      some (.error cause)) : cause.Justified := by
  obtain ⟨r, -, hr⟩ := Option.map_eq_some_iff.mp hcause
  exact h r cause hr

/-- What is taken as it is never fails. -/
theorem Query.failsJustly_of_ok (convert : ρ → α) :
    (Query.ofShape endpoint method body shape fun r ↦ .ok (convert r)).FailsJustly := by
  intro bytes cause hcause
  obtain ⟨r, -, hr⟩ := Option.map_eq_some_iff.mp hcause
  nomatch hr

end

theorem Interfaces.failsJustly_interface (d : Interfaces.Details) : FailsJustly d.interface := by
  rw [Details.interface]
  iterate 10 refine (Unparsable.failsJustly_readInt _).bind fun _ ↦ ?_
  exact .ok _

theorem Interfaces.failsJustly_query : Interfaces.query.FailsJustly := by
  intro bytes cause h
  refine ⟨Query.justified_ofShape (fun details ↦ ?_) h, .interfaces h⟩
  rw [record]
  exact .mapM failsJustly_interface _

theorem OpenVpn.failsJustly_query : OpenVpn.query.FailsJustly := by
  intro bytes cause h
  refine ⟨Query.justified_ofShape (fun rows ↦ ?_) h, .openvpn h⟩
  rw [record]
  refine .mapM (fun r ↦ ?_) rows
  rw [Row.vpnInstance]
  exact (Unparsable.failsJustly_readInt _).map _

theorem UnboundDns.failsJustly_counts (t : SortedTable String String) : FailsJustly (counts t) := by
  rw [counts]
  refine .mapM (fun ⟨key, text⟩ ↦ ?_) t
  exact (Unparsable.failsJustly_readInt text).map _

theorem UnboundDns.failsJustly_query : UnboundDns.query.FailsJustly := by
  intro bytes cause h
  refine ⟨Query.justified_ofShape (fun r ↦ ?_) h, .unbound h⟩
  rw [Reply.record]
  refine (Unparsable.failsJustly_readDouble _).bind fun _ ↦ ?_
  iterate 5 refine (Unparsable.failsJustly_readInt _).bind fun _ ↦ ?_
  exact (failsJustly_counts _).bind fun _ ↦ (failsJustly_counts _).bind fun _ ↦ .ok _

/-! ## Failed calls -/

/-- Every answer has a status other than 0. -/
def Responder.Numbered (other : Responder) : Prop :=
  ∀ ⦃log r response⦄, other log r = .answered response → response.status ≠ 0

theorem Dialogue.exists_attempt_eq (other : Responder) (r : Request) (log : Log) (n : Nat) :
    ∃ later, attempt other r log n = other later r := by
  induction n generalizing log with
  | zero => exact ⟨log, rfl⟩
  | succ n ih => exact ih _

namespace Client

open Dialogue (attempts)

/-- `c.FailedCall other log call e`: a call that was made after the log, with the exchanges `call`,
has failed with the error `e`. -/
inductive FailedCall (c : Client) (other : Responder) (log : Log) : Log → FetchError → Prop
  /-- The name of the endpoint is not mapped. -/
  | unmapped {e : FetchError} : c.endpoints.get? e.endpoint = none → e.status = 0 →
      FailedCall c other log [] e
  /-- No attempt was answered. -/
  | silent {e : FetchError} {r : Request} : c.endpoints.get? e.endpoint = some r.path →
      Silent other r log shortAttempts → e.status = 0 →
      FailedCall c other log (attempts other r log shortAttempts) e
  /-- The first answer was of no use, and the error has its status. -/
  | answered {e : FetchError} {r : Request} {i : Nat} {response : Response} :
      c.endpoints.get? e.endpoint = some r.path → i < shortAttempts →
      FirstAnswer other r log i response → e.status = response.status →
      FailedCall c other log (attempts other r log (i + 1)) e
  /-- The first answer was a success, but a text in it was no number: what its octets are read as
  fails with this cause. -/
  | unparsable {e : FetchError} {r : Request} {i : Nat} {response : Response}
      {bytes : List UInt8} {endpoint : Endpoint} {cause : Unparsable} :
      c.endpoints.get? e.endpoint = some r.path → i < shortAttempts →
      FirstAnswer other r log i response → response.body = some bytes →
      Succeeded response.status → e.endpoint = endpoint.name → endpoint.Refuses bytes cause →
      e.fault = .unparsable cause → cause.Justified → e.status = 0 →
      FailedCall c other log (attempts other r log (i + 1)) e

theorem judge_eq_error {α : Type} {decode : List UInt8 → Option (Except Unparsable α)}
    {r : Response} {fault : FetchFault} (h : judge decode r = .error fault) :
    fault.status = r.status ∨ ∃ bytes cause, r.body = some bytes ∧ Succeeded r.status ∧
      decode bytes = some (.error cause) ∧ fault = .unparsable cause := by
  cases hbody : r.body with
  | none =>
    rw [judge_unreadable hbody] at h
    obtain rfl := Except.error.inj h
    exact .inl rfl
  | some bytes =>
    by_cases hstatus : Succeeded r.status
    · rw [judge_of_succeeded hbody hstatus] at h
      cases hdecode : decode bytes with
      | none =>
        rw [hdecode] at h
        obtain rfl := Except.error.inj h
        exact .inl rfl
      | some x =>
        cases x with
        | ok a =>
          rw [hdecode] at h
          nomatch h
        | error cause =>
          rw [hdecode] at h
          exact .inr ⟨bytes, cause, rfl, hstatus, hdecode, (Except.error.inj h).symm⟩
    · rw [judge_rejected hbody hstatus] at h
      obtain rfl := Except.error.inj h
      exact .inl rfl

section

variable {c : Client} {other : Responder} {log later : Log} {e : FetchError}

theorem failedCall_fetch {α : Type} {q : Query α} (hq : q.FailsJustly)
    (h : ((c.fetch q).run other log).1 = .error e) :
    e.endpoint = q.endpoint.name ∧
      ∃ call, ((c.fetch q).run other log).2 = log ++ call ∧ c.FailedCall other log call e := by
  rw [fetch] at h ⊢
  cases hpath : c.endpoints.get? q.endpoint.name with
  | none =>
    rw [run_call_of_unmapped _ _ hpath] at h ⊢
    obtain rfl := Except.error.inj h
    exact ⟨rfl, [], (List.append_nil log).symm, .unmapped hpath rfl⟩
  | some path =>
    rcases run_call shortAttempts q.decode hpath other log with
      ⟨hsilent, hrun⟩ | ⟨i, hi, response, hfirst, hrun⟩
    · rw [hrun] at h ⊢
      obtain rfl := Except.error.inj h
      exact ⟨rfl, _, rfl, .silent hpath hsilent rfl⟩
    · rw [hrun] at h ⊢
      cases hjudge : judge q.decode response with
      | ok a =>
        rw [hjudge] at h
        cases h
      | error fault =>
        rw [hjudge] at h
        obtain rfl := Except.error.inj h
        refine ⟨rfl, _, rfl, ?_⟩
        rcases judge_eq_error hjudge with hstatus | ⟨bytes, cause, hbody, hok, hdecode, rfl⟩
        · exact .answered hpath hi hfirst hstatus
        · obtain ⟨hcause, hrefuses⟩ := hq bytes cause hdecode
          exact .unparsable hpath hi hfirst hbody hok rfl hrefuses rfl hcause rfl

/-- Among what was added to the log is a call that failed with the error. -/
def Blamed (c : Client) (other : Responder) (log later : Log) (e : FetchError) : Prop :=
  ∃ before call after, later = log ++ before ++ call ++ after ∧
    c.FailedCall other (log ++ before) call e

/-- The endpoint is not mapped, or all attempts of a call remained without an answer. -/
def Unanswered (c : Client) (other : Responder) (log : Log) (e : FetchError) : Prop :=
  c.endpoints.get? e.endpoint = none ∨ ∃ before r, c.endpoints.get? e.endpoint = some r.path ∧
    Silent other r (log ++ before) shortAttempts

theorem Blamed.append (h : c.Blamed other log later e) (new : Log) :
    c.Blamed other log (later ++ new) e := by
  obtain ⟨before, call, after, rfl, hcall⟩ := h
  exact ⟨before, call, after ++ new, by rw [← List.append_assoc], hcall⟩

theorem Blamed.of_append {new : Log} (h : c.Blamed other (log ++ new) later e) :
    c.Blamed other log later e := by
  obtain ⟨before, call, after, rfl, hcall⟩ := h
  rw [List.append_assoc log] at hcall ⊢
  exact ⟨new ++ before, call, after, rfl, hcall⟩

/-- The causes of an error with status 0. -/
theorem Blamed.of_status_eq_zero (h : c.Blamed other log later e) (hother : other.Numbered)
    (hzero : e.status = 0) : c.Unanswered other log e ∨
      ∃ cause, e.fault = .unparsable cause ∧ cause.Justified := by
  obtain ⟨before, call, after, -, hcall⟩ := h
  cases hcall with
  | unmapped hpath _ => exact .inl (.inl hpath)
  | silent hpath hsilent _ => exact .inl (.inr ⟨before, _, hpath, hsilent⟩)
  | answered _ _ hfirst hstatus =>
    obtain ⟨later, hanswer⟩ := Dialogue.exists_attempt_eq other _ (log ++ before) _
    exact absurd (hstatus.symm.trans hzero) (hother (hanswer.symm.trans hfirst.answered))
  | unparsable _ _ _ _ _ _ _ hfault hcause _ => exact .inr ⟨_, hfault, hcause⟩

theorem blamed_fetch {α : Type} {q : Query α} (hq : q.FailsJustly)
    (h : ((c.fetch q).run other log).1 = .error e) :
    e.endpoint = q.endpoint.name ∧ c.Blamed other log ((c.fetch q).run other log).2 e := by
  obtain ⟨hname, call, hlog, hcall⟩ := failedCall_fetch hq h
  refine ⟨hname, [], call, [], ?_, by rwa [List.append_nil]⟩
  rw [hlog, List.append_nil, List.append_nil]

end

end Client

/-! ## Updates -/

/-- An update fails with the error of one of its calls, which is for an endpoint of the collector.
Its status is 0 only if the call had no answer, or if the answer had a text that is no number. -/
def Collector.Attributes (c : Collector) : Prop :=
  ∀ (client : Client) (monitored : String) (other : Responder) (log : Log)
    (emissions : List Emission) (e : FetchError),
    ((c.update client monitored).run other log).1 = .finished emissions (some e) →
    e.endpoint ∈ c.endpoints ∧
      client.Blamed other log ((c.update client monitored).run other log).2 e ∧
      (other.Numbered → e.status = 0 → client.Unanswered other log e ∨
        ∃ cause, e.fault = .unparsable cause ∧ cause.Justified)

theorem Collector.attributes_of_blamed {c : Collector}
    (h : ∀ client monitored other log emissions e,
      ((c.update client monitored).run other log).1 = .finished emissions (some e) →
      e.endpoint ∈ c.endpoints ∧
        client.Blamed other log ((c.update client monitored).run other log).2 e) :
    c.Attributes := by
  intro client monitored other log emissions e he
  obtain ⟨hmem, hblamed⟩ := h client monitored other log emissions e he
  exact ⟨hmem, hblamed, hblamed.of_status_eq_zero⟩

theorem Collector.attributes_ofQuery {α : Type} {name : String} {ds : List Descriptor}
    {query : Query α} {emissions : String → α → List Emission} (hq : query.FailsJustly) :
    (ofQuery name ds query emissions).Attributes := by
  refine attributes_of_blamed fun client monitored other log es e h ↦ ?_
  simp only [ofQuery, Dialogue.run_bind, Dialogue.run_done] at h ⊢
  cases hresult : ((client.fetch query).run other log).1 with
  | ok a =>
    rw [hresult] at h
    nomatch h
  | error e' =>
    rw [hresult] at h
    obtain rfl := Option.some.inj (TaskOutcome.finished.inj h).2
    obtain ⟨hname, hblamed⟩ := Client.blamed_fetch hq hresult
    exact ⟨List.mem_singleton.mpr hname, hblamed⟩

namespace Ipsec

variable {client : Client} {monitored : String} {other : Responder} {log : Log} {e : FetchError}

/-- The first error of the tunnels is the one that counts, and all tunnels are asked. -/
theorem blamed_visit {tunnels : List Tunnel}
    (h : ((visit client monitored tunnels).run other log).1.2 = some e) :
    e.endpoint = Endpoint.ipsecPhase2.name ∧
      client.Blamed other log ((visit client monitored tunnels).run other log).2 e := by
  induction tunnels generalizing log with
  | nil => nomatch h
  | cons t ts ih =>
    obtain ⟨children, asked, hrun⟩ :=
      Dialogue.exists_run_eq other (client.fetch (childrenQuery t.name)) log
    simp only [visit, Dialogue.run_bind, Dialogue.run_done, hrun] at h ⊢
    cases children with
    | ok children =>
      obtain ⟨hname, hblamed⟩ := ih h
      exact ⟨hname, hblamed.of_append⟩
    | error e' =>
      -- This error goes before those of the tunnels behind, which only add to the log.
      obtain rfl := Option.some.inj h
      have hq : (childrenQuery t.name).FailsJustly := Query.failsJustly_of_ok _
      obtain ⟨hname, hblamed⟩ := Client.blamed_fetch hq (by rw [hrun])
      obtain ⟨result, new, hrest⟩ :=
        Dialogue.exists_run_eq other (visit client monitored ts) (log ++ asked)
      rw [hrun] at hblamed
      rw [hrest]
      exact ⟨hname, hblamed.append new⟩

theorem attributes : collector.Attributes := by
  refine Collector.attributes_of_blamed fun client monitored other log emissions e h ↦ ?_
  obtain ⟨result, asked, hrun⟩ := Dialogue.exists_run_eq other (client.fetch tunnelsQuery) log
  simp only [collector, update, Dialogue.run_bind, hrun] at h ⊢
  cases result with
  | error e' =>
    obtain rfl := Option.some.inj (TaskOutcome.finished.inj h).2
    have hq : tunnelsQuery.FailsJustly := Query.failsJustly_of_ok _
    obtain ⟨hname, hblamed⟩ := Client.blamed_fetch hq (by rw [hrun])
    rw [hrun] at hblamed
    exact ⟨hname ▸ List.mem_cons_self, hblamed⟩
  | ok tunnels =>
    simp only [Dialogue.run_bind, Dialogue.run_done] at h ⊢
    obtain ⟨hname, hblamed⟩ := blamed_visit (TaskOutcome.finished.inj h).2
    exact ⟨hname ▸ List.mem_cons_of_mem _ List.mem_cons_self, hblamed.of_append⟩

end Ipsec

/-- A collector that takes what it reads as it is fails with the errors of its call only. -/
theorem Collector.attributes_of_decodes {ρ α : Type} {name : String} {ds : List Descriptor}
    {endpoint : Endpoint} {method : Method} {body : Option String} {shape : Json.Shape ρ}
    {convert : ρ → α} {emissions : String → α → List Emission} :
    (ofQuery name ds (.ofShape endpoint method body shape fun r ↦ .ok (convert r))
      emissions).Attributes :=
  attributes_ofQuery (Query.failsJustly_of_ok convert)

theorem Registry.attributes_of_mem_all {c : Collector} (h : c ∈ all) : c.Attributes := by
  simp only [all, List.mem_cons, List.not_mem_nil, or_false] at h
  rcases h with rfl | rfl | rfl | rfl | rfl | rfl | rfl | rfl | rfl | rfl | rfl | rfl | rfl
  · exact Collector.attributes_of_decodes
  · exact Collector.attributes_of_decodes
  · exact Collector.attributes_of_decodes
  · exact Collector.attributes_of_decodes
  · exact Collector.attributes_ofQuery Interfaces.failsJustly_query
  · exact Collector.attributes_of_decodes
  · exact Collector.attributes_of_decodes
  · exact Collector.attributes_of_decodes
  · exact Collector.attributes_ofQuery OpenVpn.failsJustly_query
  · exact Collector.attributes_of_decodes
  · exact Ipsec.attributes
  · exact Collector.attributes_ofQuery UnboundDns.failsJustly_query
  · exact Collector.attributes_of_decodes

/-! ## The counters that are shown -/

namespace Registry

/-- The endpoints of the built-in collectors have default names. -/
theorem exists_name_eq {c : Collector} (hc : c ∈ all) {endpoint : String}
    (h : endpoint ∈ c.endpoints) : ∃ e : Endpoint, e.name = endpoint := by
  have hall : ∀ endpoint ∈ all.flatMap Collector.endpoints,
      endpoint ∈ Endpoint.all.map Endpoint.name := by decide
  obtain ⟨e, -, he⟩ := List.mem_map.mp (hall endpoint (List.mem_flatMap.mpr ⟨c, hc, h⟩))
  exact ⟨e, he⟩

end Registry

section

variable {s : Scraper} (hs : s.collectors ⊆ Registry.all) {other : Responder} {t : Tally}
  {log : Log}

include hs

/-- A pass adds no counter and drops none when there is one for every default name. -/
theorem Pass.Of.keys_errors {p : Pass} (hp : p.Of s other t log) (ht : t.errors.Sorted)
    (hnames : ∀ e : Endpoint, e.name ∈ t.errors.keys) :
    p.tally.errors.keys = t.errors.keys ∧ p.tally.errors.Sorted := by
  rw [hp.tally_eq]
  refine Tally.keys_errors_countErrors (t := t.setHealth p.health) ht fun o ho endpoint he ↦ ?_
  obtain ⟨c, hc⟩ := hp.exists_of_mem_joined ho
  obtain ⟨e, rfl⟩ := Registry.exists_name_eq (hs (List.of_mem_zip hc).1)
    ((hp.allows hs _ hc).endpoint_mem he)
  exact hnames e

theorem Run.keys_errors {ps : List Pass} (h : Run s other t log ps) (ht : t.errors.Sorted)
    (hnames : ∀ e : Endpoint, e.name ∈ t.errors.keys) :
    ∀ p ∈ ps, p.tally.errors.keys = t.errors.keys := by
  induction h with
  | nil => exact fun p hp ↦ absurd hp List.not_mem_nil
  | cons hp _ ih =>
    obtain ⟨hkeys, hsorted⟩ := hp.keys_errors hs ht hnames
    refine List.forall_mem_cons.mpr ⟨hkeys, fun q hq ↦ ?_⟩
    exact (ih hsorted (hkeys ▸ hnames) q hq).trans hkeys

end

/-- A document shows a counter for each endpoint that the tally has one for. -/
theorem DocumentLaw.errors_iff {s : Scraper} (hs : s.collectors ⊆ Registry.all) {p : Pass}
    {fs : List Family} {t : Tally} (h : DocumentLaw s p fs t) {labels : List (String × String)} :
    (∃ v, Exposes (fs ++ t.families) "opnsense_exporter_endpoint_errors_total" labels v) ↔
      ∃ e ∈ t.errors.keys, labels = [("endpoint", e), t.instancePair] := by
  have hown (v : Double) :
      Exposes t.families "opnsense_exporter_endpoint_errors_total" labels v ↔
        (⟨labels, v⟩ : Series) ∈ t.errorsFamily.series :=
    Tally.exposes_own_iff (f := t.errorsFamily) List.mem_cons_self
  constructor
  · rintro ⟨v, f, hf, hname, hsr⟩
    rcases List.mem_append.mp hf with hf | hf
    -- No collector describes a metric of this name.
    · obtain ⟨u, hu, e, -, hd, hfname, -⟩ := h.described f hf _ hsr
      have hnot := (Registry.not_own (hs (List.of_mem_zip hu).1) hd).1
      rw [← hfname, hname] at hnot
      exact absurd List.mem_cons_self hnot
    · obtain ⟨⟨e, n⟩, he, hlabels⟩ := List.mem_map.mp ((hown v).mp ⟨f, hf, hname, hsr⟩)
      exact ⟨e, List.mem_map_of_mem he, (Series.mk.inj hlabels).1.symm⟩
  · rintro ⟨e, he, rfl⟩
    obtain ⟨⟨e, n⟩, hn, rfl⟩ := List.mem_map.mp he
    obtain ⟨f, hf, hname, hsr⟩ := (hown (Double.ofNat n)).mpr (List.mem_map.mpr ⟨(e, n), hn, rfl⟩)
    exact ⟨_, f, List.mem_append_right _ hf, hname, hsr⟩

/-! ## The law of errors -/

/-- **Errors go back to the calls of their collector, and their counters stay the same.** When the
client maps the default names, every document of a run shows the error counters of the names that
are mapped, and no others. -/
theorem Scraper.errors_law {s : Scraper} (hs : s.collectors ⊆ Registry.all) :
    (∀ c ∈ s.collectors, c.Attributes) ∧
      ((∀ e : Endpoint, e.name ∈ s.client.endpoints.keys) →
        ∀ (process : Option ProcessReading) (other : Responder) (log : Log) (ps : List Pass),
        Run s other (s.freshTally process) log ps → ∀ p ∈ ps,
        p.tally.errors.keys = (s.freshTally process).errors.keys ∧
          ∀ now : Option ProcessReading, ∃ fs,
            Tally.passDocument { p.tally with process := now } s.descriptors p.samples =
              .ok (Exposition.render (fs ++ Tally.families { p.tally with process := now })) ∧
            (∃ text, Tally.passDocument { p.tally with process := now } s.descriptors p.samples =
                .ok text ∧
              Exposition.read? text = some ((fs ++ Tally.families { p.tally with process := now }).map
                Exposition.familyText)) ∧
            ∀ labels, (∃ v, Exposes (fs ++ Tally.families { p.tally with process := now })
                "opnsense_exporter_endpoint_errors_total" labels v) ↔
              ∃ e ∈ s.client.endpoints.keys,
                labels = [("endpoint", e), (Descriptor.instanceLabel, s.monitored)]) := by
  refine ⟨fun c hc ↦ Registry.attributes_of_mem_all (hs hc), ?_⟩
  intro hnames process other log ps hrun p hp
  have hfresh : ∀ e, e ∈ (s.freshTally process).errors.keys ↔ e ∈ s.client.endpoints.keys := by
    intro e
    rw [Scraper.freshTally, Tally.fresh, SortedTable.mem_keys_ofList]
    simp
  have hkeys := hrun.keys_errors hs (SortedTable.sorted_ofList _)
    (fun e ↦ (hfresh e.name).mpr (hnames e)) p hp
  refine ⟨hkeys, fun now ↦ ?_⟩
  obtain ⟨before, after, rfl⟩ := List.append_of_mem hp
  obtain ⟨t, log', hof, hmonitored, hsorted⟩ := hrun.exists_of
  obtain ⟨fs, hlaw⟩ : ∃ fs, DocumentLaw s p fs { p.tally with process := now } :=
    hof.documentLaw hs hsorted hmonitored
  refine ⟨fs, hlaw.rendered, hlaw.readable, fun labels ↦ ?_⟩
  rw [hlaw.errors_iff hs, Tally.instancePair]
  simp only [hkeys, hfresh, hmonitored]

theorem Endpoint.name_mem_defaultMapping (e : Endpoint) : e.name ∈ defaultMapping.keys := by
  rw [defaultMapping, SortedTable.mem_keys_ofList, List.map_map]
  exact List.mem_map_of_mem e.mem_all

theorem Scraper.errors_law_halved :
    Scraper.ofTables.collectors ⊆ Registry.all ∧
      (∀ e : Endpoint, e.name ∈ Scraper.ofTables.client.endpoints.keys) ∧
      Run .ofTables .arpless (Scraper.ofTables.freshTally none) [] [Pass.halved] ∧
      ArpTable.collector.Attributes ∧ Pass.halved.tally.errorCount "arp" = 1 ∧
      Pass.halved.tally.errors.keys = (Scraper.ofTables.freshTally none).errors.keys := by
  have hs : Scraper.ofTables.collectors ⊆ Registry.all := Scraper.stock_ofTables.subperm.subset
  have hnames : ∀ e : Endpoint, e.name ∈ Scraper.ofTables.client.endpoints.keys :=
    Endpoint.name_mem_defaultMapping
  have hrun : Run .ofTables .arpless (Scraper.ofTables.freshTally none) [] [Pass.halved] :=
    .cons (Pass.of_pass ..) .nil
  obtain ⟨hattributes, hclosed⟩ := Scraper.errors_law hs
  have harp : ArpTable.collector ∈ Scraper.ofTables.collectors :=
    List.mem_cons_of_mem _ List.mem_cons_self
  obtain ⟨hkeys, -⟩ := hclosed hnames none .arpless [] _ hrun _ List.mem_cons_self
  exact ⟨hs, hnames, hrun, hattributes _ harp, by decide +kernel, hkeys⟩

end FirewallExporter
