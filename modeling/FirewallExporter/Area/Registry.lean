import FirewallExporter.Area.ArpTable
import FirewallExporter.Area.Cron
import FirewallExporter.Area.Services
import FirewallExporter.Area.Firewall
import FirewallExporter.Area.Interfaces
import FirewallExporter.Area.Protocol
import FirewallExporter.Area.Gateways
import FirewallExporter.Area.Firmware
import FirewallExporter.Area.OpenVpn
import FirewallExporter.Area.WireGuard
import FirewallExporter.Area.Ipsec
import FirewallExporter.Area.UnboundDns
import FirewallExporter.Area.Dhcp

/-!
# The registry of collectors

An ordered list of collectors from which some are taken out by name before the first pass.
-/

namespace FirewallExporter

/-- The collectors in use, in order. -/
abbrev Registry := List Collector

namespace Registry

/-- Every built-in collector. -/
def all : Registry :=
  [ArpTable.collector, Cron.collector, Services.collector, Firewall.collector,
    Interfaces.collector, Protocol.collector, Gateways.collector, Firmware.collector,
    OpenVpn.collector, WireGuard.collector, Ipsec.collector, UnboundDns.collector,
    Dhcp.collector]

def names (r : Registry) : List String := r.map Collector.name

/-- No collector has this name. -/
structure UnknownCollector where
  name : String
deriving DecidableEq, Repr

def UnknownCollector.message (e : UnknownCollector) : String := "Unknown collector: " ++ e.name

/-- Take out the first collector named `name`. -/
def without (name : String) : Registry → Except UnknownCollector Registry
  | [] => .error ⟨name⟩
  | c :: cs => if c.name = name then .ok cs else (without name cs).map (c :: ·)

/-- Take out collectors one by one. The first unknown name ends the work; what is gone by then
stays gone. -/
def withoutAll : List String → Registry → Registry × Option UnknownCollector
  | [], r => (r, none)
  | name :: names, r =>
    match r.without name with
    | .ok r => withoutAll names r
    | .error e => (r, some e)

/-- The descriptors by metric name. Of two with one name the later counts. -/
def descriptorTable (r : Registry) : SortedTable String Descriptor :=
  SortedTable.ofList ((r.flatMap Collector.descriptors).map fun d ↦ (d.name, d))

end Registry

end FirewallExporter
