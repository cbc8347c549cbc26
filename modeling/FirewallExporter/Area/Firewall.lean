import FirewallExporter.Area.Collector

/-!
# Packet filter statistics

Eight packet counts for every interface: in and out, IPv4 and IPv6, passed and blocked. The
interfaces come in the order of their names.
-/

namespace FirewallExporter.Firewall

open Json

/-! ## The record -/

structure Counts where
  in4Pass : Int
  in4Block : Int
  out4Pass : Int
  out4Block : Int
  in6Pass : Int
  in6Block : Int
  out6Pass : Int
  out6Block : Int
deriving DecidableEq, Repr

/-- The counts by interface. -/
abbrev Record := SortedTable String Counts

def countsShape : Shape Counts :=
  .record
    (.cons "in4_pass_packets" .int <| .cons "in4_block_packets" .int <|
      .cons "out4_pass_packets" .int <| .cons "out4_block_packets" .int <|
      .cons "in6_pass_packets" .int <| .cons "in6_block_packets" .int <|
      .cons "out6_pass_packets" .int <| .cons "out6_block_packets" .int .nil)
    fun (in4Pass, in4Block, out4Pass, out4Block, in6Pass, in6Block, out6Pass, out6Block, ()) ↦
      { in4Pass, in4Block, out4Pass, out4Block, in6Pass, in6Block, out6Pass, out6Block }

def shape : Shape Record :=
  .record (.cons "interfaces" (.table countsShape) .nil) fun (interfaces, ()) ↦ interfaces

def query : Query Record := .ofShape .packetFilter .get none shape .ok

/-! ## The metrics -/

def name : String := "firewall"

/-- A metric for one of the counts. -/
def packets (metric help : String) : Descriptor := .gauge name metric help ["interface"]

/-- The metrics with the counts they show, in the order in which they are emitted. -/
def metrics : List (Descriptor × (Counts → Int)) :=
  [(packets "in_ipv4_pass_packets" "The number of IPv4 incoming packets that were passed",
      Counts.in4Pass),
    (packets "out_ipv4_pass_packets" "The number of IPv4 outgoing packets that were passed",
      Counts.out4Pass),
    (packets "in_ipv4_block_packets" "The number of IPv4 incoming packets that were blocked",
      Counts.in4Block),
    (packets "out_ipv4_block_packets" "The number of IPv4 outgoing packets that were blocked",
      Counts.out4Block),
    (packets "in_ipv6_pass_packets" "The number of IPv6 incoming packets that were passed",
      Counts.in6Pass),
    (packets "out_ipv6_pass_packets" "The number of IPv6 outgoing packets that were passed",
      Counts.out6Pass),
    (packets "in_ipv6_block_packets" "The number of IPv6 incoming packets that were blocked",
      Counts.in6Block),
    (packets "out_ipv6_block_packets" "The number of IPv6 outgoing packets that were blocked",
      Counts.out6Block)]

def interfaceEmissions (monitored : String) (entry : String × Counts) : List Emission :=
  metrics.map fun (d, count) ↦ ⟨d, Double.ofInt (count entry.2), [entry.1, monitored]⟩

def emissions (monitored : String) (r : Record) : List Emission :=
  r.flatMap (interfaceEmissions monitored)

def collector : Collector := .ofQuery name (metrics.map Prod.fst) query emissions

end FirewallExporter.Firewall
