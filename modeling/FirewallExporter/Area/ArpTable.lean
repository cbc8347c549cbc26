import FirewallExporter.Area.Collector

/-!
# The ARP table

One gauge with the value 1 for every entry of the table; what an entry says is in the labels.
-/

namespace FirewallExporter.ArpTable

open Json

/-! ## The record -/

structure Entry where
  mac : String
  ip : String
  kind : String
  hostname : String
  interfaceDescription : String
  expired : Bool
  permanent : Bool
  expires : Int
deriving DecidableEq, Repr

structure Record where
  entries : List Entry
  total : Int
deriving DecidableEq, Repr

def entryShape : Shape Entry :=
  .record
    (.cons "mac" .text <| .cons "ip" .text <| .cons "intf" .text <| .cons "type" .text <|
      .cons "hostname" .text <| .cons "intf_description" .text <| .cons "permanent" .flag <|
      .cons "expired" .flag <| .cons "expires" .int .nil)
    fun (mac, ip, _, kind, hostname, interfaceDescription, permanent, expired, expires, ()) ↦
      { mac, ip, kind, hostname, interfaceDescription, expired, permanent, expires }

def shape : Shape Record :=
  .record (.cons "rows" (.list entryShape) <| .cons "total" .int .nil)
    fun (entries, total, ()) ↦ { entries, total }

def query : Query Record := .ofShape .arp .post (some Query.searchUnresolved) shape .ok

/-! ## The metric -/

def name : String := "arp_table"

def entries : Descriptor :=
  .gauge name "entries"
    "Arp entries by ip, mac, hostname, interface description, type, expired and permanent"
    ["ip", "mac", "hostname", "interface_description", "type", "expired", "permanent"]

def emission (monitored : String) (e : Entry) : Emission where
  descriptor := entries
  value := Double.ofNat 1
  labels := [e.ip, e.mac, e.hostname, e.interfaceDescription, e.kind, toString e.expired,
    toString e.permanent, monitored]

def emissions (monitored : String) (r : Record) : List Emission :=
  r.entries.map (emission monitored)

def collector : Collector := .ofQuery name [entries] query emissions

end FirewallExporter.ArpTable
