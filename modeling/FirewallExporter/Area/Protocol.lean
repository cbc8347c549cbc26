import FirewallExporter.Area.Collector

/-!
# Protocol statistics

TCP connections by state, and packet counts of TCP and ARP.
-/

namespace FirewallExporter.Protocol

open Json

/-! ## The record -/

structure Record where
  tcpSentPackets : Int
  tcpReceivedPackets : Int
  arpSentRequests : Int
  arpReceivedRequests : Int
  connectionsByState : SortedTable String Int
deriving DecidableEq, Repr

/-- The part about TCP: packets sent and received, and connections by state. -/
def tcpShape : Shape (Int × Int × SortedTable String Int) :=
  .record
    (.cons "sent-packets" .int <| .cons "received-packets" .int <|
      .cons "TCP connection count by state" (.table .int) .nil)
    fun (sent, received, states, ()) ↦ (sent, received, states)

/-- The part about ARP: requests sent and received. -/
def arpShape : Shape (Int × Int) :=
  .record (.cons "sent-requests" .int <| .cons "received-requests" .int .nil)
    fun (sent, received, ()) ↦ (sent, received)

def statisticsShape : Shape Record :=
  .record (.cons "tcp" tcpShape <| .cons "arp" arpShape .nil)
    fun ((tcpSent, tcpReceived, states), (arpSent, arpReceived), ()) ↦
      ⟨tcpSent, tcpReceived, arpSent, arpReceived, states⟩

def shape : Shape Record :=
  .record (.cons "statistics" statisticsShape .nil) fun (statistics, ()) ↦ statistics

def query : Query Record := .ofShape .protocolStatistics .get none shape .ok

/-! ## The metrics -/

def name : String := "protocol"

def connections : Descriptor :=
  .gauge name "tcp_connection_count_by_state" "Number of TCP connections by state" ["state"]

/-- The counters with what they show. -/
def counters : List (Descriptor × (Record → Int)) :=
  [(.counter name "tcp_sent_packets_total" "Number of sent TCP packets" [],
      Record.tcpSentPackets),
    (.counter name "tcp_received_packets_total" "Number of received TCP packets" [],
      Record.tcpReceivedPackets),
    (.counter name "arp_sent_requests_total" "Number of sent ARP requests" [],
      Record.arpSentRequests),
    (.counter name "arp_received_requests_total" "Number of received ARP requests" [],
      Record.arpReceivedRequests)]

def stateEmission (monitored : String) (entry : String × Int) : Emission :=
  ⟨connections, Double.ofInt entry.2, [entry.1, monitored]⟩

/-- The states come before the counters. -/
def emissions (monitored : String) (r : Record) : List Emission :=
  r.connectionsByState.map (stateEmission monitored) ++
    counters.map fun (d, value) ↦ ⟨d, Double.ofInt (value r), [monitored]⟩

def collector : Collector :=
  .ofQuery name (connections :: counters.map Prod.fst) query emissions

end FirewallExporter.Protocol
