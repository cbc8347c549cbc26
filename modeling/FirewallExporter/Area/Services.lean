import FirewallExporter.Area.Collector

/-!
# Services

The status of every service, and the numbers of running and of stopped ones.
-/

namespace FirewallExporter.Services

open Json

/-! ## The record -/

inductive Status
  | stopped
  | running
  | unknown
deriving DecidableEq, Repr

def Status.name : Status → String
  | stopped => "stopped"
  | running => "running"
  | unknown => "unknown"

/-- The value that stands for a status. -/
def Status.value : Status → Double
  | stopped => Double.ofNat 0
  | running => Double.ofNat 1
  | unknown => Double.ofNat 2

/-- The status for the number in a row. -/
def Status.ofInt (n : Int) : Status :=
  if n = 0 then .stopped else if n = 1 then .running else .unknown

structure Service where
  name : String
  description : String
  status : Status
deriving DecidableEq, Repr

structure Record where
  services : List Service
  running : Nat
  stopped : Nat
deriving DecidableEq, Repr

def serviceShape : Shape Service :=
  .record
    (.cons "id" .text <| .cons "name" .text <| .cons "description" .text <|
      .cons "running" .int .nil)
    fun (_, name, description, running, ()) ↦ ⟨name, description, .ofInt running⟩

/-- The record of a list of services, with the two counts. -/
def record (services : List Service) : Record where
  services := services
  running := services.countP fun s ↦ s.status == .running
  stopped := services.countP fun s ↦ s.status == .stopped

def shape : Shape (List Service) :=
  .record (.cons "rows" (.list serviceShape) .nil) fun (rows, ()) ↦ rows

def query : Query Record := .ofShape .services .get none shape fun services ↦ .ok (record services)

/-! ## The metrics -/

def name : String := "services"

def status : Descriptor :=
  .gauge name "status"
    "Service status by name and description (0 = stopped, 1 = running, 2 = unknown)"
    ["name", "description"]

def runningTotal : Descriptor :=
  .gauge name "running_total" "Total number of running services" []

def stoppedTotal : Descriptor :=
  .gauge name "stopped_total" "Total number of stopped services" []

def statusEmission (monitored : String) (s : Service) : Emission :=
  ⟨status, s.status.value, [s.name, s.description, monitored]⟩

/-- The two totals come after the services. -/
def emissions (monitored : String) (r : Record) : List Emission :=
  r.services.map (statusEmission monitored) ++
    [⟨runningTotal, Double.ofNat r.running, [monitored]⟩,
      ⟨stoppedTotal, Double.ofNat r.stopped, [monitored]⟩]

def collector : Collector := .ofQuery name [status, runningTotal, stoppedTotal] query emissions

end FirewallExporter.Services
