import FirewallExporter.Area.Registry
import FirewallExporter.Exporter.Tally

/-!
# Passes

One pass checks the health of the firewall and, when it is up, updates every collector. A collector
that fails costs its endpoint one error and nothing else; a firewall that is down is not asked for
anything further. Every pass is counted.
-/

namespace FirewallExporter

/-- What stays the same from pass to pass. -/
structure Scraper where
  client : Client
  collectors : Registry
  /-- The name of the monitored instance. -/
  monitored : String

namespace Scraper

/-- The descriptors of the collectors by metric name. -/
def descriptors (s : Scraper) : SortedTable String Descriptor := s.collectors.descriptorTable

/-- A tally that counts errors for the endpoints of the client. -/
def freshTally (s : Scraper) (process : Option ProcessReading) : Tally :=
  .fresh s.monitored s.client.endpoints.keys process

/-! ## Parts of a pass -/

/-- The outcome of the health check; a check that fails counts as down. -/
def healthOf : Except FetchError HealthStatus → HealthStatus
  | .ok status => status
  | .error _ => .down

def checkHealth (s : Scraper) : Dialogue HealthStatus :=
  (s.client.fetch Health.query).bind fun result ↦ .done (healthOf result)

/-- The tasks of a pass, one for each collector. -/
def tasks (s : Scraper) : List (Dialogue TaskOutcome) :=
  s.collectors.map fun c ↦ c.update s.client s.monitored

/-- The samples that a finished task leaves. -/
def samplesOf : TaskOutcome → List Sample
  | .finished emissions _ => Emission.record emissions
  | .crashed => []

/-- The endpoint that a finished task charges with an error. -/
def endpointOf? : TaskOutcome → Option String
  | .finished _ (some e) => some e.endpoint
  | _ => none

/-- Count the errors of the tasks. -/
def countErrors (t : Tally) (outcomes : List TaskOutcome) : Tally :=
  (outcomes.filterMap endpointOf?).foldl Tally.recordError t

/-! ## The pass -/

/-- Run one pass: the samples of its collectors and the tally after it. -/
def collect (s : Scraper) (t : Tally) : Dialogue (List Sample × Tally) :=
  s.checkHealth.bind fun health ↦
    if health.systemUp then
      (Dialogue.all s.tasks).bind fun outcomes ↦
        .done (outcomes.flatMap samplesOf, (countErrors (t.setHealth health) outcomes).recordScrape)
    else .done ([], (t.setHealth health).recordScrape)

/-- Run one pass and write its document. -/
def scrape (s : Scraper) (t : Tally) : Dialogue (Except DescriptorFault String × Tally) :=
  (s.collect t).bind fun (samples, t) ↦ .done (t.passDocument s.descriptors samples, t)

end Scraper

end FirewallExporter
