import FirewallExporter.Area.Collector

/-!
# DHCP leases

The leases are counted by interface, type and state, in the order of these three texts.
-/

namespace FirewallExporter.Dhcp

open Json

/-! ## The record -/

/-- What leases are counted by. -/
structure Group where
  interface : String
  kind : String
  state : String
deriving DecidableEq, Repr

namespace Group

def texts (g : Group) : List String := [g.interface, g.kind, g.state]

/-- Groups are ordered by their texts, the interface first. -/
instance : LT Group := ⟨fun a b ↦ a.texts < b.texts⟩

instance : DecidableLT Group := fun a b ↦ inferInstanceAs (Decidable (a.texts < b.texts))

end Group

/-- The number of leases in each group. -/
abbrev Record := SortedTable Group Nat

def leaseShape : Shape Group :=
  .record
    (.cons "address" .text <| .cons "mac" .text <| .cons "hostname" .text <|
      .cons "if_descr" .text <| .cons "type" .text <| .cons "state" .text .nil)
    fun (_, _, _, interface, kind, state, ()) ↦ { interface, kind, state }

def record (leases : List Group) : Record := SortedTable.tally leases

def shape : Shape (List Group) :=
  .record (.cons "rows" (.list leaseShape) .nil) fun (rows, ()) ↦ rows

def query : Query Record :=
  .ofShape .leases .post (some Query.searchAll) shape fun leases ↦ .ok (record leases)

/-! ## The metric -/

def name : String := "dhcp"

def leases : Descriptor :=
  .gauge name "leases" "Number of DHCPv4 leases by interface, type and state"
    ["interface", "type", "state"]

def emission (monitored : String) (entry : Group × Nat) : Emission where
  descriptor := leases
  value := Double.ofNat entry.2
  labels := entry.1.texts ++ [monitored]

def emissions (monitored : String) (r : Record) : List Emission := r.map (emission monitored)

def collector : Collector := .ofQuery name [leases] query emissions

end FirewallExporter.Dhcp
