import FirewallExporter.Area.Collector

/-!
# Interfaces

The size limit and seven counters for every network interface. The reply holds all numbers as
texts, and one text that is no integer fails the whole record.
-/

namespace FirewallExporter.Interfaces

open Json

/-! ## The record -/

/-- An entry of the reply. -/
structure Details where
  name : String
  device : String
  kind : String
  mtu : String
  bytesReceived : String
  bytesTransmitted : String
  packetsReceived : String
  packetsTransmitted : String
  multicastsReceived : String
  multicastsTransmitted : String
  inputErrors : String
  outputErrors : String
  collisions : String
deriving DecidableEq, Repr

def detailsShape : Shape Details :=
  .record
    (.cons "name" .text <| .cons "device" .text <| .cons "type" .text <| .cons "mtu" .text <|
      .cons "bytes received" .text <| .cons "bytes transmitted" .text <|
      .cons "packets received" .text <| .cons "packets transmitted" .text <|
      .cons "multicasts received" .text <| .cons "multicasts transmitted" .text <|
      .cons "input errors" .text <| .cons "output errors" .text <|
      .cons "collisions" .text .nil)
    fun (name, device, kind, mtu, bytesReceived, bytesTransmitted, packetsReceived,
        packetsTransmitted, multicastsReceived, multicastsTransmitted, inputErrors, outputErrors,
        collisions, ()) ↦
      { name, device, kind, mtu, bytesReceived, bytesTransmitted, packetsReceived,
        packetsTransmitted, multicastsReceived, multicastsTransmitted, inputErrors, outputErrors,
        collisions }

structure Interface where
  name : String
  device : String
  kind : String
  mtu : Int
  bytesReceived : Int
  bytesTransmitted : Int
  packetsReceived : Int
  packetsTransmitted : Int
  multicastsReceived : Int
  multicastsTransmitted : Int
  inputErrors : Int
  outputErrors : Int
  collisions : Int
deriving DecidableEq, Repr

abbrev Record := List Interface

/-- Read the ten numbers in order; the first bad text is reported. -/
def Details.interface (d : Details) : Except Unparsable Interface := do
  let mtu ← Unparsable.readInt d.mtu
  let bytesReceived ← Unparsable.readInt d.bytesReceived
  let bytesTransmitted ← Unparsable.readInt d.bytesTransmitted
  let packetsReceived ← Unparsable.readInt d.packetsReceived
  let packetsTransmitted ← Unparsable.readInt d.packetsTransmitted
  let multicastsReceived ← Unparsable.readInt d.multicastsReceived
  let multicastsTransmitted ← Unparsable.readInt d.multicastsTransmitted
  let inputErrors ← Unparsable.readInt d.inputErrors
  let outputErrors ← Unparsable.readInt d.outputErrors
  let collisions ← Unparsable.readInt d.collisions
  return {
    name := d.name, device := d.device, kind := d.kind, mtu, bytesReceived, bytesTransmitted,
    packetsReceived, packetsTransmitted, multicastsReceived, multicastsTransmitted, inputErrors,
    outputErrors, collisions }

def record (details : SortedTable String Details) : Except Unparsable Record :=
  details.values.mapM Details.interface

def shape : Shape (SortedTable String Details) :=
  .record (.cons "interfaces" (.table detailsShape) .nil) fun (interfaces, ()) ↦ interfaces

def query : Query Record := .ofShape .interfaces .get none shape record

/-! ## The metrics -/

def name : String := "interfaces"

def labels : List String := ["interface", "device", "type"]

def mtu : Descriptor := .gauge name "mtu_bytes" "The MTU value of the interface" labels

/-- A metric for one of the counters. -/
def counter (metric what : String) : Descriptor :=
  .counter name metric (what ++ " on this interface by interface name and device") labels

/-- The counters with what they show, in the order in which they are emitted. -/
def counters : List (Descriptor × (Interface → Int)) :=
  [(counter "received_bytes_total" "Bytes received", Interface.bytesReceived),
    (counter "transmitted_bytes_total" "Bytes transmitted", Interface.bytesTransmitted),
    (counter "received_multicasts_total" "Multicasts received", Interface.multicastsReceived),
    (counter "transmitted_multicasts_total" "Multicasts transmitted",
      Interface.multicastsTransmitted),
    (counter "input_errors_total" "Input errors", Interface.inputErrors),
    (counter "output_errors_total" "Output errors", Interface.outputErrors),
    (counter "collisions_total" "Collisions", Interface.collisions)]

/-- All metrics with what they show. -/
def metrics : List (Descriptor × (Interface → Int)) := (mtu, Interface.mtu) :: counters

def interfaceEmissions (monitored : String) (i : Interface) : List Emission :=
  metrics.map fun (d, value) ↦ ⟨d, Double.ofInt (value i), [i.name, i.device, i.kind, monitored]⟩

def emissions (monitored : String) (r : Record) : List Emission :=
  r.flatMap (interfaceEmissions monitored)

def collector : Collector := .ofQuery name (metrics.map Prod.fst) query emissions

end FirewallExporter.Interfaces
