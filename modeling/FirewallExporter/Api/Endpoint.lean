import FirewallExporter.Table

/-!
# Endpoints

The areas of the firewall's management interface go by logical names. A client resolves a name to
a path by its mapping; `Endpoint.defaultMapping` is the mapping of a stock client.
-/

namespace FirewallExporter

/-- An area of the management interface. -/
inductive Endpoint
  | services
  | interfaces
  | protocolStatistics
  | packetFilter
  | arp
  | leases
  | openvpn
  | ipsecPhase1
  | ipsecPhase2
  | gateways
  | unbound
  | cron
  | wireguard
  | health
  | firmware
deriving DecidableEq, Repr

namespace Endpoint

/-- The logical name, which errors carry. -/
def name : Endpoint → String
  | services => "services"
  | interfaces => "interfaces"
  | protocolStatistics => "protocolStatistics"
  | packetFilter => "pfStatisticsByInterface"
  | arp => "arp"
  | leases => "dhcpv4"
  | openvpn => "openVPNInstances"
  | ipsecPhase1 => "ipsecPhase1"
  | ipsecPhase2 => "ipsecPhase2"
  | gateways => "gatewaysStatus"
  | unbound => "unboundDNSStatus"
  | cron => "cronJobs"
  | wireguard => "wireguardClients"
  | health => "healthCheck"
  | firmware => "firmware"

/-- The path in the default mapping. -/
def path : Endpoint → String
  | services => "api/core/service/search"
  | interfaces => "api/diagnostics/traffic/interface"
  | protocolStatistics => "api/diagnostics/interface/getProtocolStatistics"
  | packetFilter => "api/diagnostics/firewall/pf_statistics/interfaces"
  | arp => "api/diagnostics/interface/search_arp"
  | leases => "api/dhcpv4/leases/searchLease"
  | openvpn => "api/openvpn/instances/search"
  | ipsecPhase1 => "api/ipsec/sessions/search_phase1"
  | ipsecPhase2 => "api/ipsec/sessions/search_phase2"
  | gateways => "api/routing/settings/searchGateway"
  | unbound => "api/unbound/diagnostics/stats"
  | cron => "api/cron/settings/searchJobs"
  | wireguard => "api/wireguard/service/show"
  | health => "api/core/system/status"
  | firmware => "api/core/firmware/status"

def all : List Endpoint :=
  [services, interfaces, protocolStatistics, packetFilter, arp, leases, openvpn, ipsecPhase1,
    ipsecPhase2, gateways, unbound, cron, wireguard, health, firmware]

theorem mem_all (e : Endpoint) : e ∈ all := by cases e <;> simp [all]

/-- Every endpoint under its default path. -/
def defaultMapping : SortedTable String String :=
  SortedTable.ofList (all.map fun e ↦ (e.name, e.path))

end Endpoint

end FirewallExporter
