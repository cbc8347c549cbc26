import FirewallExporter.Exporter.Calls
import FirewallExporter.Proofs.Collectors
import FirewallExporter.Proofs.ReadBack
import FirewallExporter.Server.Site

/-!
# Runs of passes

A pass leaves more freedom than one computation can show: the requests of its tasks may be
interleaved, and the tasks may be joined in any order. `Pass.Of` is the relation between the state
before a pass and a record of what the pass did, with all of that freedom. A run is a chain of
passes (`Run`), each of which begins with the tally and the log that the one before it left.

`Scraper.pass` is the pass that updates one collector after the other. It is what `Scraper.collect`
and `Scraper.scrape` compute (`run_collect`, `run_scrape`), and it is one of the passes of the
relation (`Pass.of_pass`), so whatever is proved of all passes holds of it.

## The invariant

After `k` passes the scrape counter shows `k` and the error counter of an endpoint shows the number
of tasks, over all passes so far, that failed there (`Run.counts`). Everything else that a tally
shows is what the last pass put there.
-/

namespace FirewallExporter

/-! ## Passes -/

/-- What a pass did. -/
structure Pass where
  want : Want
  /-- What the health call brought. -/
  check : Except FetchError HealthStatus
  /-- How the tasks ended, in the order of the collectors. -/
  outcomes : List TaskOutcome
  /-- The same outcomes in the order in which the tasks were joined. -/
  joined : List TaskOutcome
  /-- The tally after the pass. -/
  tally : Tally
  /-- What was exchanged during the pass. -/
  exchanges : Log

namespace Pass

/-- The health that the pass recorded. -/
def health (p : Pass) : HealthStatus := Scraper.healthOf p.check

/-- The merged samples of the tasks. -/
def samples (p : Pass) : List Sample := p.joined.flatMap Scraper.samplesOf

/-- What the caller of the pass gets. -/
def gain (s : Scraper) (p : Pass) : Gain := Calls.gainOf s p.tally p.samples p.want

/-- The number of collectors whose update failed in the pass with an error of an endpoint. -/
def failures (s : Scraper) (p : Pass) (endpoint : String) : Nat :=
  (s.collectors.zip p.outcomes).countP fun u ↦ Scraper.endpointOf? u.2 == some endpoint

/-- `p.Of s other t log`: the pass `p` is one that can follow the tally `t` and the log `log`. -/
inductive Of (s : Scraper) (other : Responder) (t : Tally) (log : Log) : Pass → Prop
  | down {want : Want} {check : Except FetchError HealthStatus} {asked : Log} :
      (s.client.fetch Health.query).run other log = (check, log ++ asked) →
      (Scraper.healthOf check).systemUp = false →
      Of s other t log
        ⟨want, check, [], [], (t.setHealth (Scraper.healthOf check)).recordScrape, asked⟩
  | up {want : Want} {check : Except FetchError HealthStatus} {asked sent : Log}
      {outcomes joined : List TaskOutcome} :
      (s.client.fetch Health.query).run other log = (check, log ++ asked) →
      (Scraper.healthOf check).systemUp = true →
      Dialogue.Interleaved other s.tasks (log ++ asked) outcomes (log ++ asked ++ sent) →
      joined.Perm outcomes →
      Of s other t log
        ⟨want, check, outcomes, joined,
          (Scraper.countErrors (t.setHealth (Scraper.healthOf check)) joined).recordScrape,
          asked ++ sent⟩

end Pass

/-- `Run s other t log ps`: the passes `ps` can follow one another after the tally `t` and the log
`log`. -/
inductive Run (s : Scraper) (other : Responder) : Tally → Log → List Pass → Prop
  | nil {t : Tally} {log : Log} : Run s other t log []
  | cons {t : Tally} {log : Log} {p : Pass} {ps : List Pass} :
      p.Of s other t log → Run s other p.tally (log ++ p.exchanges) ps →
      Run s other t log (p :: ps)

/-! ## One collector after the other -/

namespace Scraper

/-- The pass that updates the collectors one after the other. -/
def pass (s : Scraper) (other : Responder) (want : Want) (t : Tally) (log : Log) : Pass :=
  let (check, checked) := (s.client.fetch Health.query).run other log
  if (healthOf check).systemUp then
    let (outcomes, ran) := (Dialogue.all s.tasks).run other checked
    ⟨want, check, outcomes, outcomes,
      (countErrors (t.setHealth (healthOf check)) outcomes).recordScrape, ran.drop log.length⟩
  else
    ⟨want, check, [], [], (t.setHealth (healthOf check)).recordScrape, checked.drop log.length⟩

variable (s : Scraper) (other : Responder) (want : Want) (t : Tally) (log : Log)

theorem run_collect : (s.collect t).run other log =
    (((s.pass other want t log).samples, (s.pass other want t log).tally),
      log ++ (s.pass other want t log).exchanges) := by
  obtain ⟨check, asked, hcheck⟩ := Dialogue.exists_run_eq other (s.client.fetch Health.query) log
  obtain ⟨outcomes, sent, hall⟩ := Dialogue.exists_run_eq other (.all s.tasks) (log ++ asked)
  simp only [collect, checkHealth, Dialogue.run_bind, Dialogue.run_done, hcheck, pass]
  by_cases hup : (healthOf check).systemUp = true
  · simp only [if_pos hup, Dialogue.run_bind, Dialogue.run_done, hall, List.append_assoc,
      List.drop_left, Pass.samples]
  · simp only [if_neg hup, Dialogue.run_done, List.drop_left, Pass.samples, List.flatMap_nil]

theorem run_scrape : (s.scrape t).run other log =
    (((s.pass other want t log).tally.passDocument s.descriptors (s.pass other want t log).samples,
      (s.pass other want t log).tally), log ++ (s.pass other want t log).exchanges) := by
  rw [scrape, Dialogue.run_bind, run_collect s other want]
  rfl

end Scraper

theorem Pass.of_pass (s : Scraper) (other : Responder) (want : Want) (t : Tally) (log : Log) :
    (s.pass other want t log).Of s other t log := by
  obtain ⟨check, asked, hcheck⟩ := Dialogue.exists_run_eq other (s.client.fetch Health.query) log
  obtain ⟨outcomes, sent, hall⟩ := Dialogue.exists_run_eq other (.all s.tasks) (log ++ asked)
  simp only [Scraper.pass, hcheck]
  by_cases hup : (Scraper.healthOf check).systemUp = true
  · have hinter := Dialogue.interleaved_all other s.tasks (log ++ asked)
    rw [hall] at hinter
    simp only [if_pos hup, hall, List.append_assoc, List.drop_left]
    exact .up hcheck hup hinter (List.Perm.refl _)
  · simp only [if_neg hup, List.drop_left]
    exact .down hcheck (Bool.eq_false_iff.mpr hup)

/-! ## What a pass does to the state -/

/-- The system counts as up exactly if the health call succeeded and found it up. -/
theorem Pass.systemUp_iff (p : Pass) :
    p.health.systemUp = true ↔ ∃ status, p.check = .ok status ∧ status.systemUp = true := by
  rw [Pass.health]
  cases p.check with
  | error e => simp [Scraper.healthOf, HealthStatus.down]
  | ok status => simp [Scraper.healthOf]

namespace Pass.Of

variable {s : Scraper} {other : Responder} {t : Tally} {log : Log} {p : Pass}

theorem tally_eq (h : p.Of s other t log) :
    p.tally = (Scraper.countErrors (t.setHealth p.health) p.joined).recordScrape := by
  cases h with
  | down _ _ => rfl
  | up _ _ _ _ => rfl

theorem joined_perm (h : p.Of s other t log) : p.joined.Perm p.outcomes := by
  cases h with
  | down _ _ => exact List.Perm.refl _
  | up _ _ _ hjoined => exact hjoined

theorem outcomes_of_down (h : p.Of s other t log) (hdown : p.health.systemUp = false) :
    p.outcomes = [] := by
  cases h with
  | down _ _ => rfl
  | up _ hup _ _ => exact absurd (hdown.symm.trans hup) Bool.false_ne_true

theorem samples_of_down (h : p.Of s other t log) (hdown : p.health.systemUp = false) :
    p.samples = [] := by
  have hjoined : p.joined = [] := (h.outcomes_of_down hdown ▸ h.joined_perm).eq_nil
  rw [samples, hjoined, List.flatMap_nil]

/-- A pass has one outcome for each collector, or none at all. -/
theorem length_outcomes (h : p.Of s other t log) : p.outcomes.length ≤ s.collectors.length := by
  cases h with
  | down _ _ => exact Nat.zero_le _
  | up _ _ hrun _ => rw [hrun.length_eq, Scraper.tasks, List.length_map]

/-- A pass that finds the firewall down repeats the request of the health check at most. -/
theorem exchanges_of_down (h : p.Of s other t log) (hdown : p.health.systemUp = false) :
    ∀ x ∈ p.exchanges, ∃ path, s.client.endpoints.get? Endpoint.health.name = some path ∧
      x.request = s.client.request .get path none := by
  cases h with
  | down hcheck _ =>
    obtain ⟨new, hnew, hmem⟩ := s.client.run_fetch_log Health.query other log
    rw [hcheck] at hnew
    rwa [← List.append_cancel_left hnew] at hmem
  | up _ hup _ _ => exact absurd (hdown.symm.trans hup) Bool.false_ne_true

theorem check_eq (h : p.Of s other t log) :
    ((s.client.fetch Health.query).run other log).1 = p.check := by
  cases h with
  | down hcheck _ => rw [hcheck]
  | up hcheck _ _ _ => rw [hcheck]

/-- The firewall counts as healthy only while the system does. -/
theorem systemUp_of_firewallOk (h : p.Of s other t log) (hok : p.health.firewallOk = true) :
    p.health.systemUp = true := by
  have hends := (s.client.ends_fetch_ok Health.query).run other log
  rw [h.check_eq] at hends
  rw [health] at hok ⊢
  cases hcheck : p.check with
  | error e =>
    rw [hcheck] at hok
    exact absurd hok Bool.false_ne_true
  | ok status =>
    obtain ⟨bytes, hdecode⟩ := hends status hcheck
    obtain ⟨reply, -, hreply⟩ := Option.map_eq_some_iff.mp hdecode
    have hstatus : reply.status = status := Except.ok.inj hreply
    rw [hcheck] at hok
    rw [Scraper.healthOf, ← hstatus, Health.Reply.status] at hok ⊢
    -- A system that is not in order makes the whole status `down`.
    by_cases hsystem : Health.isOk reply.system reply.systemMetadata = true
    · rw [if_pos hsystem]
    · rw [if_neg hsystem] at hok
      exact absurd hok Bool.false_ne_true

theorem failures_eq (h : p.Of s other t log) (e : String) :
    p.failures s e = p.joined.countP fun o ↦ Scraper.endpointOf? o == some e := by
  have hzip : (s.collectors.zip p.outcomes).map Prod.snd = p.outcomes :=
    List.map_snd_zip h.length_outcomes
  rw [h.joined_perm.countP_eq, failures]
  nth_rewrite 2 [← hzip]
  rw [List.countP_map]
  rfl

theorem counts {endpoints : List String} {n : String → Nat} (h : p.Of s other t log)
    (ht : t.Counts endpoints n) : p.tally.Counts endpoints fun e ↦ n e + p.failures s e := by
  have hhealth : (t.setHealth p.health).Counts endpoints n := ⟨ht.sorted, ht.get?_errors⟩
  have hcount := hhealth.countErrors p.joined
  simp only [← h.failures_eq] at hcount
  rw [h.tally_eq]
  exact ⟨hcount.sorted, hcount.get?_errors⟩

/-- Beside the error counters a pass writes the health and counts itself. -/
theorem exists_tally_eq (h : p.Of s other t log) :
    ∃ errors, p.tally =
      { t with health := p.health, scrapes := t.scrapes + 1, errors := errors } := by
  obtain ⟨errors, he⟩ := Tally.exists_countErrors_eq (t.setHealth p.health) p.joined
  exact ⟨errors, by rw [h.tally_eq, he]; rfl⟩

end Pass.Of

/-! ## The state before a pass -/

/-- **The invariant of a run.** -/
theorem Run.counts {s : Scraper} {other : Responder} {t : Tally} {log : Log}
    {before after : List Pass} {p : Pass} (h : Run s other t log (before ++ p :: after))
    {endpoints : List String} {n : String → Nat} (ht : t.Counts endpoints n) :
    ∃ t' log', p.Of s other t' log' ∧ t'.monitored = t.monitored ∧
      t'.scrapes = t.scrapes + before.length ∧
      t'.Counts endpoints fun e ↦ n e + (before.map fun q ↦ q.failures s e).sum := by
  induction before generalizing t log n with
  | nil =>
    cases h with
    | cons hp _ => exact ⟨t, log, hp, rfl, rfl, by simpa using ht⟩
  | cons q before ih =>
    cases h with
    | cons hq hrest =>
      -- The first pass gives the counts with which the rest of the run begins.
      obtain ⟨t', log', hp, hmonitored, hscrapes, hcounts⟩ := ih hrest (hq.counts ht)
      obtain ⟨errors, htally⟩ := hq.exists_tally_eq
      refine ⟨t', log', hp, ?_, ?_, ?_⟩
      · rw [hmonitored, htally]
      · rw [hscrapes, htally, List.length_cons]
        dsimp only
        omega
      · simpa only [List.map_cons, List.sum_cons, Nat.add_assoc] using hcounts

/-! ## The law of runs -/

/-- What holds after a pass `p` of a run that the passes `before` went before. -/
structure Pass.Law (s : Scraper) (before : List Pass) (p : Pass) : Prop where
  /-- The firewall shows as up exactly if the health call succeeded and found the system up. -/
  up_iff : Exposes p.tally.families "opnsense_up" [(Descriptor.instanceLabel, s.monitored)]
      (Double.ofNat 1) ↔ ∃ status, p.check = .ok status ∧ status.systemUp = true
  /-- It shows as healthy exactly if the health call found the firewall in order, too. -/
  firewall_iff : Exposes p.tally.families "opnsense_firewall_status"
      [(Descriptor.instanceLabel, s.monitored)] (Double.ofNat 1) ↔
    ∃ status, p.check = .ok status ∧ status.systemUp = true ∧ status.firewallOk = true
  not_firewall_of_down : ¬(Exposes p.tally.families "opnsense_firewall_status"
      [(Descriptor.instanceLabel, s.monitored)] (Double.ofNat 1) ∧
    Exposes p.tally.families "opnsense_up" [(Descriptor.instanceLabel, s.monitored)]
      (Double.ofNat 0))
  /-- Every pass is counted. -/
  scrapes : p.tally.scrapes = before.length + 1
  scrapes_iff : ∀ v, Exposes p.tally.families "opnsense_exporter_scrapes_total"
      [(Descriptor.instanceLabel, s.monitored)] v ↔ v = Double.ofNat (before.length + 1)
  /-- The error counter of an endpoint is the number of collectors, over all passes, that failed
  there. -/
  errorCount : ∀ e, p.tally.errorCount e = ((before ++ [p]).map fun q ↦ q.failures s e).sum
  /-- A counter is shown for each endpoint of the client, and for each with an error. -/
  errors_iff : ∀ e v, Exposes p.tally.families "opnsense_exporter_endpoint_errors_total"
      [("endpoint", e), (Descriptor.instanceLabel, s.monitored)] v ↔
    (e ∈ s.client.endpoints.keys ∨ 0 < p.tally.errorCount e) ∧
      v = Double.ofNat (p.tally.errorCount e)
  /-- A pass that finds the system down updates no collector, emits no sample and sends nothing but
  the request of the health check. -/
  of_down : p.health.systemUp = false → p.outcomes = [] ∧ p.samples = [] ∧
    ∀ x ∈ p.exchanges, ∃ path, s.client.endpoints.get? Endpoint.health.name = some path ∧
      x.request = s.client.request .get path none
  /-- The document is made of the samples of this pass alone, it is read back as their families and
  those of the tally, and it shows no series without a sample. -/
  document : ∃ fs, passFamilies s.descriptors p.samples = .ok fs ∧
    (p.want = .document →
      p.gain s = .document (.ok (Exposition.render (fs ++ p.tally.families)))) ∧
    Exposition.read? (Exposition.render (fs ++ p.tally.families)) =
      some ((fs ++ p.tally.families).map Exposition.familyText) ∧
    ∀ f ∈ fs, ∀ sr ∈ f.series, ∃ d, s.descriptors.get? f.name = some d ∧
      ∃ sample ∈ p.samples, sample.name = f.name ∧ sr.labels = labelPairs d.labels sample.labels
  /-- Until the next pass the health page tells whether this one found the system up. It asks the
  firewall for nothing and changes nothing. -/
  health_page : ∀ site : Server.Site, site.answer s p.tally "GET" "/health" =
    .done (if p.health.systemUp then .plainText 200 "OK"
      else .plainText 503 "OPNsense API unreachable", p.tally)

theorem Server.Site.answer_health (site : Server.Site) (s : Scraper) (t : Tally) :
    site.answer s t "GET" "/health" =
      .done (if t.health.systemUp then .plainText 200 "OK"
        else .plainText 503 "OPNsense API unreachable", t) := by
  have hpath : Server.requestPath? "GET" "/health" = some Server.healthPath := by decide
  simp [Server.Site.answer, hpath, Server.Site.page?, Server.Site.show, Server.healthAnswer]

/-- A series of a document stands for a sample of the pass. -/
theorem exists_sample_of_mem_passFamilies {descriptors : SortedTable String Descriptor}
    (hd : WellFormed descriptors) {samples : List Sample} {fs : List Family}
    (hfs : passFamilies descriptors samples = .ok fs) {f : Family} (hf : f ∈ fs) {sr : Series}
    (hsr : sr ∈ f.series) :
    ∃ d, descriptors.get? f.name = some d ∧ ∃ sample ∈ samples, sample.name = f.name ∧
      sr.labels = labelPairs d.labels sample.labels := by
  obtain ⟨-, name, d, hget, rfl⟩ := (mem_passFamilies hfs).mp hf
  obtain ⟨rfl, -⟩ := hd hget
  obtain ⟨r, hr, rfl⟩ := mem_series_family.mp hsr
  obtain ⟨sample, hs, hlabels⟩ := Descriptor.exists_sample_of_mem_readings hr
  obtain ⟨hmem, hname⟩ := List.mem_filter.mp (List.mem_of_mem_filter hs)
  exact ⟨d, hget, sample, hmem, beq_iff_eq.mp hname, by rw [hlabels]⟩

/-- **The law of runs.** -/
theorem Run.law {s : Scraper} (hs : s.collectors ⊆ Registry.all) {process : Option ProcessReading}
    {other : Responder} {log : Log} {before after : List Pass} {p : Pass}
    (h : Run s other (s.freshTally process) log (before ++ p :: after)) :
    p.Law s before ∧ ∀ site : Server.Site, site.answer s (s.freshTally process) "GET" "/health" =
      .done (.plainText 503 "OPNsense API unreachable", s.freshTally process) := by
  obtain ⟨t, log', hp, hmonitored, hscrapes, hcounts⟩ := h.counts (Tally.counts_fresh _ _ _)
  obtain ⟨errors, htally⟩ := hp.exists_tally_eq
  have hcounts' := hp.counts hcounts
  have hpair : p.tally.instancePair = (Descriptor.instanceLabel, s.monitored) := by
    rw [Tally.instancePair, htally, hmonitored]
    rfl
  have hhealth : p.tally.health = p.health := by rw [htally]
  have hscrapes' : p.tally.scrapes = before.length + 1 := by
    rw [htally, hscrapes]
    exact congrArg (· + 1) (Nat.zero_add _)
  have herrors : ∀ e, p.tally.errorCount e = ((before ++ [p]).map fun q ↦ q.failures s e).sum := by
    intro e
    rw [hcounts'.errorCount]
    simp
  obtain ⟨fs, hfs⟩ : ∃ fs, passFamilies s.descriptors p.samples = .ok fs :=
    ⟨_, (Registry.wellFormed_descriptorTable hs).passFamilies p.samples⟩
  refine ⟨?_, fun site ↦ site.answer_health s _⟩
  constructor
  case up_iff =>
    rw [← hpair, Tally.exposes_up_iff, hhealth, Tally.one_eq_ofBool_iff, p.systemUp_iff]
  case firewall_iff =>
    rw [← hpair, Tally.exposes_firewall_iff, hhealth, Tally.one_eq_ofBool_iff]
    constructor
    · intro hok
      obtain ⟨status, hcheck, hup⟩ := p.systemUp_iff.mp (hp.systemUp_of_firewallOk hok)
      rw [Pass.health, hcheck] at hok
      exact ⟨status, hcheck, hup, hok⟩
    · rintro ⟨status, hcheck, -, hok⟩
      rwa [Pass.health, hcheck]
  case not_firewall_of_down =>
    rw [← hpair, Tally.exposes_firewall_iff, Tally.exposes_up_iff, hhealth,
      Tally.one_eq_ofBool_iff, Tally.zero_eq_ofBool_iff]
    rintro ⟨hok, hdown⟩
    exact Bool.false_ne_true (hdown.symm.trans (hp.systemUp_of_firewallOk hok))
  case scrapes => exact hscrapes'
  case scrapes_iff =>
    intro v
    rw [← hpair, Tally.exposes_scrapes_iff, hscrapes']
  case errorCount => exact herrors
  case errors_iff =>
    intro e v
    rw [← hpair, hcounts'.exposes_errors_iff, hcounts'.errorCount]
  case of_down =>
    exact fun hdown ↦
      ⟨hp.outcomes_of_down hdown, hp.samples_of_down hdown, hp.exchanges_of_down hdown⟩
  case document =>
    refine ⟨fs, hfs, fun hwant ↦ ?_, p.tally.read?_render_append hfs, fun f hf sr hsr ↦ ?_⟩
    · rw [Pass.gain, hwant, Calls.gainOf, p.tally.passDocument_eq_ok hfs]
    · exact exists_sample_of_mem_passFamilies (Registry.wellFormed_descriptorTable hs) hfs hf hsr
  case health_page =>
    intro site
    rw [site.answer_health, hhealth]

/-- A scraper of the ARP table. -/
def Scraper.ofArpTable : Scraper where
  client := ⟨Endpoint.defaultMapping, "https://firewall", "key", "secret"⟩
  collectors := [ArpTable.collector]
  monitored := "fw1"

/-- A firewall that is up at the first health check, rejects all other calls, and then goes away. -/
def Responder.failing : Responder := .perPath fun path n ↦
  if path = Endpoint.health.path then
    if n = 0 then .answered ⟨200, some (Utf8.encode "\x7b\"System\":\x7b\"status\":\"OK\"\x7d\x7d")⟩
    else .refused
  else .answered ⟨500, some []⟩

/-- A pass with a failing collector. -/
def Pass.failed : Pass :=
  Scraper.ofArpTable.pass .failing .document (Scraper.ofArpTable.freshTally none) []

/-- The pass after it, which finds the firewall gone. -/
def Pass.gone : Pass :=
  Scraper.ofArpTable.pass .failing .samples Pass.failed.tally Pass.failed.exchanges

theorem Run.law_gone :
    Scraper.ofArpTable.collectors ⊆ Registry.all ∧
      Run .ofArpTable .failing (Scraper.ofArpTable.freshTally none) [] [Pass.failed, Pass.gone] ∧
      Pass.gone.Law .ofArpTable [Pass.failed] ∧ Pass.failed.health = ⟨true, false⟩ ∧
      Pass.gone.health = HealthStatus.down ∧ Pass.gone.tally.errorCount "arp" = 1 := by
  have hs : Scraper.ofArpTable.collectors ⊆ Registry.all :=
    List.cons_subset.mpr ⟨List.mem_cons_self, List.nil_subset _⟩
  have hrun : Run .ofArpTable .failing (Scraper.ofArpTable.freshTally none) []
      ([Pass.failed] ++ Pass.gone :: []) := by
    have hfailed : Pass.failed.Of .ofArpTable .failing (Scraper.ofArpTable.freshTally none) [] :=
      Pass.of_pass ..
    have hgone : Pass.gone.Of .ofArpTable .failing Pass.failed.tally Pass.failed.exchanges :=
      Pass.of_pass ..
    refine .cons hfailed ?_
    rw [List.nil_append]
    exact .cons hgone .nil
  exact ⟨hs, hrun, (Run.law hs hrun).1, by decide +kernel, by decide +kernel, by decide +kernel⟩

end FirewallExporter
