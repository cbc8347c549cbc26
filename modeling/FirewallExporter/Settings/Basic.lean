import FirewallExporter.Settings.Files
import FirewallExporter.Text.Blank

/-!
# Settings

The settings of the exporter with their defaults, the credentials that may stand in files, and the
checks before the first pass.
-/

namespace FirewallExporter

/-- How to reach the firewall. -/
structure AccessSettings where
  protocol : String := "https"
  host : String := ""
  key : String := ""
  secret : String := ""
  /-- A file whose first line is the key. -/
  keyFile : Option String := none
  /-- A file whose first line is the secret. -/
  secretFile : Option String := none
  /-- Accept any certificate. -/
  insecure : Bool := false
deriving DecidableEq, Repr

/-- Where the exporter listens. -/
structure ListenSettings where
  addr : String := "0.0.0.0"
  port : Nat := 8080
  metricsPath : String := "/metrics"
deriving DecidableEq, Repr

/-- How the exporter behaves. -/
structure BehaviourSettings where
  instanceLabel : String := "opnsense"
  firmwareCheckOnStart : Bool := false
  /-- Leave out the metrics of the process. -/
  disableProcessMetrics : Bool := false
deriving DecidableEq, Repr

/-- Collectors that can be switched off. -/
structure CollectorSwitches where
  arpTable : Bool := true
  cron : Bool := true
  wireguard : Bool := true
  ipsec : Bool := true
  unboundDns : Bool := true
  openvpn : Bool := true
  firewall : Bool := true
  firmware : Bool := true
  dhcp : Bool := true
deriving DecidableEq, Repr

structure Settings where
  access : AccessSettings := {}
  listen : ListenSettings := {}
  behaviour : BehaviourSettings := {}
  switches : CollectorSwitches := {}
deriving DecidableEq, Repr

/-- The switches by the name of their collector. -/
def CollectorSwitches.byName (s : CollectorSwitches) : List (String × Bool) :=
  [("arp_table", s.arpTable), ("cron", s.cron), ("wireguard", s.wireguard), ("ipsec", s.ipsec),
    ("unbound_dns", s.unboundDns), ("openvpn", s.openvpn), ("firewall", s.firewall),
    ("firmware", s.firmware), ("dhcp", s.dhcp)]

/-- The names of the collectors that are switched off. -/
def CollectorSwitches.disabled (s : CollectorSwitches) : List String :=
  (s.byName.filter fun e ↦ !e.2).map Prod.fst

/-- The protocol and the host of every request. -/
def AccessSettings.base (a : AccessSettings) : String := a.protocol ++ "://" ++ a.host

namespace Settings

/-! ## Faults -/

/-- Why settings are refused. -/
inductive Fault
  | protocol
  | host
  | key
  | secret
  | instanceLabel
  | metricsPath (path : String)
  | unreadable (path : String) (fault : FileFault)
deriving DecidableEq, Repr

def Fault.message : Fault → String
  | protocol => "protocol must be one of: [http, https]"
  | host => "host must be set"
  | key => "api_key or api_key_file must be set"
  | secret => "api_secret or api_secret_file must be set"
  | instanceLabel => "instance_label must be set"
  | metricsPath path => "metrics_path must start with '/': " ++ path
  | unreadable path fault => "failed to read " ++ path ++ ": " ++ fault.message

/-- The message with what it is about. -/
def Fault.report (fault : Fault) : String := "Configuration error: " ++ fault.message

/-! ## Credentials -/

/-- The first line of a text without the white space around it. A line ends at a line feed; a
carriage return before it is white space anyway. -/
def firstLine (text : String) : String :=
  String.ofList (Text.trim (text.toList.takeWhile (· != '\n')))

/-- The credential that a file replaces: its first line, unless that is blank. -/
def credential (files : Files) (inline : String) : Option String → Except Fault String
  | none => .ok inline
  | some path =>
    match files.text path with
    | .error fault => .error (.unreadable path fault)
    | .ok text => .ok (if firstLine text = "" then inline else firstLine text)

/-- Replace the credentials by their files, the key first. When the secret cannot be read, the key
has been replaced already. -/
def resolveCredentials (files : Files) (a : AccessSettings) : AccessSettings × Option Fault :=
  match credential files a.key a.keyFile with
  | .error fault => (a, some fault)
  | .ok key =>
    match credential files a.secret a.secretFile with
    | .error fault => ({ a with key := key }, some fault)
    | .ok secret => ({ a with key := key, secret := secret }, none)

/-! ## Checks -/

/-- The first fault of the access settings. -/
def accessFault? (a : AccessSettings) : Option Fault :=
  if a.protocol ≠ "http" ∧ a.protocol ≠ "https" then some .protocol
  else if a.host = "" then some .host
  else if a.key = "" then some .key
  else if a.secret = "" then some .secret
  else none

/-- The first fault of the settings. -/
def fault? (s : Settings) : Option Fault :=
  match accessFault? s.access with
  | some fault => some fault
  | none =>
    if Text.trimmed s.behaviour.instanceLabel = "" then some .instanceLabel
    else if s.listen.metricsPath.toList.head? = some '/' then none
    else some (.metricsPath s.listen.metricsPath)

end Settings

end FirewallExporter
