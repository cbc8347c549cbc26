import FirewallExporter.Area.Collector

/-!
# WireGuard

The reply mixes two kinds of rows: interfaces, of which the status is shown, and peers, of which the
traffic and the last handshake are shown. Rows of any other kind are skipped.
-/

namespace FirewallExporter.WireGuard

open Json

/-! ## The record -/

/-- A row of the reply. -/
structure Row where
  device : String
  kind : String
  status : String
  name : String
  deviceName : String
  latestHandshake : Double
  received : Double
  transmitted : Double
deriving DecidableEq, Repr

def rowShape : Shape Row :=
  .record
    (.cons "if" .text <| .cons "type" .text <| .cons "status" .text <| .cons "name" .text <|
      .cons "ifname" .text <| .cons "latest-handshake" .double <|
      .cons "transfer-rx" .double <| .cons "transfer-tx" .double .nil)
    fun (device, kind, status, name, deviceName, latestHandshake, received, transmitted, ()) ↦
      { device, kind, status, name, deviceName, latestHandshake, received, transmitted }

inductive Status
  | down
  | up
  | unknown
deriving DecidableEq, Repr

def Status.name : Status → String
  | down => "down"
  | up => "up"
  | unknown => "unknown"

/-- The value that stands for a status. -/
def Status.value : Status → Double
  | down => Double.ofNat 0
  | up => Double.ofNat 1
  | unknown => Double.ofNat 2

/-- The status for the word in a row. -/
def Status.ofText (s : String) : Status :=
  if s = "up" then .up else if s = "down" then .down else .unknown

structure Interface where
  device : String
  deviceType : String
  deviceName : String
  name : String
  status : Status
deriving DecidableEq, Repr

structure Peer where
  device : String
  deviceType : String
  deviceName : String
  name : String
  latestHandshake : Double
  received : Double
  transmitted : Double
deriving DecidableEq, Repr

structure Record where
  interfaces : List Interface
  peers : List Peer
deriving DecidableEq, Repr

/-- The interface in a row. -/
def Row.interface? (r : Row) : Option Interface :=
  if r.kind = "interface" then
    some ⟨r.device, r.kind, r.deviceName, r.name, .ofText r.status⟩
  else none

/-- The peer in a row. -/
def Row.peer? (r : Row) : Option Peer :=
  if r.kind = "peer" then
    some ⟨r.device, r.kind, r.deviceName, r.name, r.latestHandshake, r.received, r.transmitted⟩
  else none

def record (rows : List Row) : Record :=
  ⟨rows.filterMap Row.interface?, rows.filterMap Row.peer?⟩

def shape : Shape (List Row) := .record (.cons "rows" (.list rowShape) .nil) fun (rows, ()) ↦ rows

def query : Query Record := .ofShape .wireguard .get none shape fun rows ↦ .ok (record rows)

/-! ## The metrics -/

def name : String := "wireguard"

def interfacesStatus : Descriptor :=
  .gauge name "interfaces_status" "Wireguard interface (1 = up, 0 = down, 2 = unknown)"
    ["device", "device_type", "device_name"]

def peerLabels : List String := ["device", "device_type", "device_name", "peer_name"]

/-- The metrics of a peer, in the order in which they are emitted. -/
def peerMetrics : List (Descriptor × (Peer → Double)) :=
  [(.counter name "peer_received_bytes_total" "Bytes received by this wireguard peer" peerLabels,
      Peer.received),
    (.counter name "peer_transmitted_bytes_total" "Bytes transmitted by this wireguard peer"
      peerLabels, Peer.transmitted),
    (.gauge name "peer_last_handshake_seconds" "Last handshake by peer in seconds" peerLabels,
      Peer.latestHandshake)]

def interfaceEmission (monitored : String) (i : Interface) : Emission :=
  ⟨interfacesStatus, i.status.value, [i.device, i.deviceType, i.deviceName, monitored]⟩

def peerEmissions (monitored : String) (p : Peer) : List Emission :=
  peerMetrics.map fun (d, value) ↦
    ⟨d, value p, [p.device, p.deviceType, p.deviceName, p.name, monitored]⟩

/-- All interfaces come before the peers. -/
def emissions (monitored : String) (r : Record) : List Emission :=
  r.interfaces.map (interfaceEmission monitored) ++ r.peers.flatMap (peerEmissions monitored)

def collector : Collector :=
  .ofQuery name (interfacesStatus :: peerMetrics.map Prod.fst) query emissions

end FirewallExporter.WireGuard
