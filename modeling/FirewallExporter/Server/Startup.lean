import FirewallExporter.Server.Address
import FirewallExporter.Server.Site
import FirewallExporter.Settings.Arguments

/-!
# Starting

From settings to a running site: the scraper that they describe, the order in which a start can
fail, and the code with which a run ends.
-/

namespace FirewallExporter

/-! ## The scraper of settings -/

/-- The client for access settings, with an endpoint mapping. -/
def AccessSettings.client (a : AccessSettings) (endpoints : SortedTable String String) :
    Client where
  endpoints := endpoints
  base := a.base
  key := a.key
  secret := a.secret

namespace Settings

/-- The built-in collectors without those that are switched off. -/
def collectors (s : Settings) : Registry := (Registry.all.withoutAll s.switches.disabled).1

/-- The scraper that settings describe. -/
def scraper (s : Settings) (endpoints : SortedTable String String) : Scraper where
  client := s.access.client endpoints
  collectors := s.collectors
  monitored := s.behaviour.instanceLabel

/-- Its tally at the start; `process` is dropped when the metrics of the process are not wanted. -/
def freshTally (s : Settings) (endpoints : SortedTable String String) (process : ProcessReading) :
    Tally :=
  (s.scraper endpoints).freshTally
    (if s.behaviour.disableProcessMetrics then none else some process)

end Settings

namespace Server

/-! ## Listening -/

/-- Whether the exporter can listen under settings. Ports below 1024 are reserved, and for port 0
the system chooses one. -/
def canListen (l : ListenSettings) : Bool := isAddress l.addr && (l.port == 0 || 1024 ≤ l.port)

/-- Why there is no listening. -/
def bindMessage (l : ListenSettings) : String :=
  "Failed to bind " ++ l.addr ++ ":" ++ toString l.port

/-! ## The start -/

/-- What comes of a start. -/
inductive Startup
  /-- The site is being served. -/
  | serving (site : Site)
  /-- The path for the metrics is no route. -/
  | unroutable
  | unbindable (listen : ListenSettings)
deriving DecidableEq, Repr

/-- Start under settings: ask for a firmware check if that is wanted, whatever becomes of it, then
build the site, then listen. -/
def start (s : Settings) (endpoints : SortedTable String String) : Dialogue Startup :=
  let outcome : Startup :=
    match Site.build? s.listen.metricsPath with
    | none => .unroutable
    | some site => if canListen s.listen then .serving site else .unbindable s.listen
  if s.behaviour.firmwareCheckOnStart then
    (s.access.client endpoints).triggerFirmwareCheck.bind fun _ ↦ .done outcome
  else .done outcome

/-! ## Exit codes -/

/-- The exit code after a crash. -/
def crashCode : Nat := 101

/-- The exit code of a run that is over before anything is served. -/
def exitCode : Settings.StartFault → Nat
  | .usage .helpWanted => 0
  | .usage .versionWanted => 0
  | .usage _ => 2
  | .load .crashed => crashCode
  | .load _ => 1
  | .refused _ => 1

/-- The exit code of a start. A path that is no route is a crash, and a site that is served ends in
order. -/
def Startup.exitCode : Startup → Nat
  | serving _ => 0
  | unroutable => crashCode
  | unbindable _ => 1

end Server

end FirewallExporter
