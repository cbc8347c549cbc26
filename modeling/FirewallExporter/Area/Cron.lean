import FirewallExporter.Area.Collector

/-!
# Cron jobs

One gauge for every job, 1 when it is enabled. A row whose `enabled` text is no integer is left out
of the record; the total still counts it.
-/

namespace FirewallExporter.Cron

open Json

/-! ## The record -/

/-- A row of the reply. -/
structure Row where
  uuid : String
  enabled : String
  minutes : String
  hours : String
  days : String
  months : String
  weekdays : String
  description : String
  command : String
  origin : String
deriving DecidableEq, Repr

def rowShape : Shape Row :=
  .record
    (.cons "uuid" .text <| .cons "enabled" .text <| .cons "minutes" .text <|
      .cons "hours" .text <| .cons "days" .text <| .cons "months" .text <|
      .cons "weekdays" .text <| .cons "description" .text <| .cons "command" .text <|
      .cons "origin" .text .nil)
    fun (uuid, enabled, minutes, hours, days, months, weekdays, description, command, origin, ()) ↦
      { uuid, enabled, minutes, hours, days, months, weekdays, description, command, origin }

structure Job where
  uuid : String
  schedule : String
  description : String
  command : String
  origin : String
  enabled : Bool
deriving DecidableEq, Repr

structure Record where
  jobs : List Job
  total : Nat
deriving DecidableEq, Repr

/-- The five fields of a schedule, separated by spaces. -/
def Row.schedule (r : Row) : String :=
  String.intercalate " " [r.minutes, r.hours, r.days, r.months, r.weekdays]

/-- The job of a row whose `enabled` text is an integer; any but 0 stands for yes. -/
def Row.job? (r : Row) : Option Job :=
  match parseInt r.enabled with
  | .ok n => some ⟨r.uuid, r.schedule, r.description, r.command, r.origin, n ≠ 0⟩
  | .error _ => none

def record (rows : List Row) : Record := ⟨rows.filterMap Row.job?, rows.length⟩

def shape : Shape (List Row) := .record (.cons "rows" (.list rowShape) .nil) fun (rows, ()) ↦ rows

def query : Query Record :=
  .ofShape .cron .post (some Query.searchUnresolved) shape fun rows ↦ .ok (record rows)

/-! ## The metric -/

def name : String := "cron"

def jobStatus : Descriptor :=
  .gauge name "job_status" "Cron job status by name and description (1 = enabled, 0 = disabled)"
    ["schedule", "description", "command", "origin"]

def emission (monitored : String) (j : Job) : Emission where
  descriptor := jobStatus
  value := Double.ofBool j.enabled
  labels := [j.schedule, j.description, j.command, j.origin, monitored]

def emissions (monitored : String) (r : Record) : List Emission := r.jobs.map (emission monitored)

def collector : Collector := .ofQuery name [jobStatus] query emissions

end FirewallExporter.Cron
