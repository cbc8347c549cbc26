import FirewallExporter.Area.Collector

/-!
# Gateways

The status of every gateway and its measurements. A measurement that cannot be read is left out and
takes nothing else with it.
-/

namespace FirewallExporter.Gateways

open Json

/-! ## The record -/

inductive Status
  | offline
  | online
  | unknown
deriving DecidableEq, Repr

def Status.name : Status → String
  | offline => "offline"
  | online => "online"
  | unknown => "unknown"

/-- The value that stands for a status. -/
def Status.value : Status → Double
  | offline => Double.ofNat 0
  | online => Double.ofNat 1
  | unknown => Double.ofNat 2

/-- The status for the word in a row. -/
def Status.ofText (s : String) : Status :=
  if s = "Online" then .online else if s = "Offline" then .offline else .unknown

structure Gateway where
  name : String
  address : String
  status : Status
  /-- Lost packets in percent. -/
  loss : Option Double
  /-- Mean round trip time in milliseconds. -/
  rtt : Option Double
  /-- Standard deviation of the round trip time in milliseconds. -/
  rttd : Option Double
deriving DecidableEq, Repr

abbrev Record := List Gateway

def gatewayShape : Shape Gateway :=
  .record
    (.cons "name" .text <| .cons "address" .text <| .cons "status" .text <|
      .cons "status_translated" .text <| .cons "loss" .text <| .cons "delay" .text <|
      .cons "stddev" .text .nil)
    fun (name, address, _, status, loss, delay, stddev, ()) ↦
      { name, address
        status := .ofText status
        loss := readWithUnit? "%" loss
        rtt := readWithUnit? "ms" delay
        rttd := readWithUnit? "ms" stddev }

def shape : Shape Record :=
  .record (.cons "items" (.list gatewayShape) .nil) fun (items, ()) ↦ items

def query : Query Record := .ofShape .gateways .get none shape .ok

/-! ## The metrics -/

def name : String := "gateways"

def labels : List String := ["name", "address"]

def status : Descriptor :=
  .gauge name "status"
    "Status of the gateway by name and address (1 = online, 0 = offline, 2 = unknown)" labels

/-- The measurements, in the order in which they are emitted. -/
def measurements : List (Descriptor × (Gateway → Option Double)) :=
  [(.gauge name "loss_percentage" "The current gateway loss percentage by name and address" labels,
      Gateway.loss),
    (.gauge name "rtt_milliseconds"
      "RTT is the average (mean) of the round trip time in milliseconds by name and address"
      labels, Gateway.rtt),
    (.gauge name "rttd_milliseconds"
      "RTTd is the standard deviation of the round trip time in milliseconds by name and address"
      labels, Gateway.rttd)]

/-- The status, then the measurements that could be read. -/
def gatewayEmissions (monitored : String) (g : Gateway) : List Emission :=
  ⟨status, g.status.value, [g.name, g.address, monitored]⟩ ::
    measurements.filterMap fun (d, value) ↦
      (value g).map fun v ↦ ⟨d, v, [g.name, g.address, monitored]⟩

def emissions (monitored : String) (r : Record) : List Emission :=
  r.flatMap (gatewayEmissions monitored)

def collector : Collector := .ofQuery name (status :: measurements.map Prod.fst) query emissions

end FirewallExporter.Gateways
