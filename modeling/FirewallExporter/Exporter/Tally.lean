import FirewallExporter.Area.Health
import FirewallExporter.Exporter.Process
import FirewallExporter.Metric.Exposition

/-!
# What the exporter says about itself

Beside the samples of a pass a document shows the exporter's own metrics: whether the firewall was
up at the last check, the number of passes, and the number of failed calls by endpoint. They live
as long as the exporter does. The counters of the endpoints named at the start are shown from the
start; others appear with their first use.
-/

namespace FirewallExporter

/-! ## The tally -/

/-- The exporter's own metrics. -/
structure Tally where
  /-- The name of the monitored instance. -/
  monitored : String
  health : HealthStatus
  scrapes : Nat
  /-- Failed calls by endpoint name. -/
  errors : SortedTable String Nat
  /-- The process, if its metrics are wanted. -/
  process : Option ProcessReading
deriving DecidableEq, Repr

namespace Tally

/-- The tally at the start, with a counter for each endpoint named. -/
def fresh (monitored : String) (endpoints : List String) (process : Option ProcessReading) :
    Tally where
  monitored := monitored
  health := .down
  scrapes := 0
  errors := SortedTable.ofList (endpoints.map fun e ↦ (e, 0))
  process := process

def setHealth (t : Tally) (h : HealthStatus) : Tally := { t with health := h }

def recordScrape (t : Tally) : Tally := { t with scrapes := t.scrapes + 1 }

def recordError (t : Tally) (endpoint : String) : Tally :=
  { t with errors := t.errors.alter endpoint fun n ↦ n.getD 0 + 1 }

/-- The number of failed calls of an endpoint. -/
def errorCount (t : Tally) (endpoint : String) : Nat := (t.errors.get? endpoint).getD 0

/-! ## Its families -/

/-- The label with the name of the monitored instance. -/
def instancePair (t : Tally) : String × String := (Descriptor.instanceLabel, t.monitored)

def errorsFamily (t : Tally) : Family where
  name := "opnsense_exporter_endpoint_errors_total"
  help := "Total number of errors by endpoint returned by the OPNsense API during data fetching"
  kind := .counter
  series := t.errors.map fun (endpoint, n) ↦
    ⟨[("endpoint", endpoint), t.instancePair], Double.ofNat n⟩

def scrapesFamily (t : Tally) : Family where
  name := "opnsense_exporter_scrapes_total"
  help := "Total number of times OPNsense was scraped for metrics."
  kind := .counter
  series := [⟨[t.instancePair], Double.ofNat t.scrapes⟩]

def firewallFamily (t : Tally) : Family where
  name := "opnsense_firewall_status"
  help := "Status of the firewall reported by the system health check (1 = ok, 0 = errors)"
  kind := .gauge
  series := [⟨[t.instancePair], Double.ofBool t.health.firewallOk⟩]

def upFamily (t : Tally) : Family where
  name := "opnsense_up"
  help := "Was the last scrape of OPNsense successful. (1 = yes, 0 = no)"
  kind := .gauge
  series := [⟨[t.instancePair], Double.ofBool t.health.systemUp⟩]

/-- The families of a tally in the order of their names; one without series is not shown. -/
def families (t : Tally) : List Family :=
  ([t.errorsFamily, t.scrapesFamily, t.firewallFamily, t.upFamily] ++
    t.process.elim [] ProcessReading.families).filter fun f ↦ !f.series.isEmpty

/-- The document of the exporter's own metrics. -/
def document (t : Tally) : String := Exposition.render t.families

/-- The document of a pass: the families of its samples, then the exporter's own. -/
def passDocument (t : Tally) (descriptors : SortedTable String Descriptor)
    (samples : List Sample) : Except DescriptorFault String :=
  (passFamilies descriptors samples).map fun families ↦ Exposition.render (families ++ t.families)

end Tally

end FirewallExporter
