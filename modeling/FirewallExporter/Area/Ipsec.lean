import FirewallExporter.Area.Collector
import FirewallExporter.Json.Quoted

/-!
# IPsec tunnels

The tunnels come from one call, the children of each tunnel from a call of its own. A tunnel whose
second call fails keeps its own values, and the tunnels after it are still asked; the first of such
errors is the error of the update.
-/

namespace FirewallExporter.Ipsec

open Json

/-! ## Times -/

/-- A time is a number or a numeric text. A number is cut to a whole one; everything else that is
not an integer counts as 0. -/
def timeOf : Value → Int
  | .number n => n.int64?.getD n.toDouble.truncate
  | .string s => match parseInt s with
    | .ok n => n
    | .error _ => 0
  | .bool b => if b then 1 else 0
  | _ => 0

/-! ## Phase 1 -/

structure Tunnel where
  description : String
  name : String
  ikeId : String
  connected : Bool
  installTime : Int
  bytesIn : Int
  bytesOut : Int
  packetsIn : Int
  packetsOut : Int
deriving DecidableEq, Repr

def tunnelShape : Shape Tunnel :=
  .record
    (.cons "phase1desc" .text <| .cons "connected" .flag <| .cons "ikeid" .text <|
      .cons "name" .text <| .cons "install-time" .free <| .cons "bytes-in" .int <|
      .cons "bytes-out" .int <| .cons "packets-in" .int <| .cons "packets-out" .int .nil)
    fun (description, connected, ikeId, name, installTime, bytesIn, bytesOut, packetsIn,
        packetsOut, ()) ↦
      { description, name, ikeId, connected, installTime := timeOf installTime, bytesIn, bytesOut,
        packetsIn, packetsOut }

def tunnelsShape : Shape (List Tunnel) :=
  .record (.cons "rows" (.list tunnelShape) .nil) fun (rows, ()) ↦ rows

def tunnelsQuery : Query (List Tunnel) := .ofShape .ipsecPhase1 .get none tunnelsShape .ok

/-! ## Phase 2 -/

structure Child where
  description : String
  name : String
  spiIn : String
  spiOut : String
  installTime : Int
  rekeyTime : Int
  lifeTime : Int
  bytesIn : Int
  bytesOut : Int
  packetsIn : Int
  packetsOut : Int
deriving DecidableEq, Repr

def childShape : Shape Child :=
  .record
    (.cons "phase2desc" .text <| .cons "name" .text <| .cons "spi-in" .text <|
      .cons "spi-out" .text <| .cons "install-time" .free <| .cons "rekey-time" .free <|
      .cons "life-time" .free <| .cons "bytes-in" .int <| .cons "bytes-out" .int <|
      .cons "packets-in" .int <| .cons "packets-out" .int .nil)
    fun (description, name, spiIn, spiOut, installTime, rekeyTime, lifeTime, bytesIn, bytesOut,
        packetsIn, packetsOut, ()) ↦
      { description, name, spiIn, spiOut, installTime := timeOf installTime,
        rekeyTime := timeOf rekeyTime, lifeTime := timeOf lifeTime, bytesIn, bytesOut, packetsIn,
        packetsOut }

def childrenShape : Shape (List Child) :=
  .record (.cons "rows" (.list childShape) .nil) fun (rows, ()) ↦ rows

/-- The body that asks for the children of a tunnel: an object with the tunnel's name as `id`. -/
def childrenBody (tunnel : String) : String :=
  "\x7b\"id\":" ++ String.ofList (quoted tunnel) ++ "\x7d"

def childrenQuery (tunnel : String) : Query (List Child) :=
  .ofShape .ipsecPhase2 .post (some (childrenBody tunnel)) childrenShape .ok

/-! ## The metrics -/

def name : String := "ipsec"

def tunnelMetric (metric help : String) : Descriptor :=
  .gauge name metric help ["description", "name"]

def childMetric (metric help : String) : Descriptor :=
  .gauge name metric help ["description", "name", "spi_in", "spi_out", "phase1_name"]

def tunnelMetrics : List (Descriptor × (Tunnel → Int)) :=
  [(tunnelMetric "phase1_status" "IPsec phase1 (1 = connected, 0 = down)",
      fun t ↦ if t.connected then 1 else 0),
    (tunnelMetric "phase1_install_time" "IPsec phase1 install time", Tunnel.installTime),
    (tunnelMetric "phase1_bytes_in" "IPsec phase1 bytes in", Tunnel.bytesIn),
    (tunnelMetric "phase1_bytes_out" "IPsec phase1 bytes out", Tunnel.bytesOut),
    (tunnelMetric "phase1_packets_in" "IPsec phase1 packets in", Tunnel.packetsIn),
    (tunnelMetric "phase1_packets_out" "IPsec phase1 packets out", Tunnel.packetsOut)]

def childMetrics : List (Descriptor × (Child → Int)) :=
  [(childMetric "phase2_install_time" "IPsec phase2 install time", Child.installTime),
    (childMetric "phase2_bytes_in" "IPsec phase2 bytes in", Child.bytesIn),
    (childMetric "phase2_bytes_out" "IPsec phase2 bytes out", Child.bytesOut),
    (childMetric "phase2_packets_in" "IPsec phase2 packets in", Child.packetsIn),
    (childMetric "phase2_packets_out" "IPsec phase2 packets out", Child.packetsOut),
    (childMetric "phase2_rekey_time" "IPsec phase2 rekey time", Child.rekeyTime),
    (childMetric "phase2_life_time" "IPsec phase2 life time", Child.lifeTime)]

def tunnelEmissions (monitored : String) (t : Tunnel) : List Emission :=
  tunnelMetrics.map fun (d, value) ↦
    ⟨d, Double.ofInt (value t), [t.description, t.name, monitored]⟩

def childEmissions (monitored tunnel : String) (c : Child) : List Emission :=
  childMetrics.map fun (d, value) ↦
    ⟨d, Double.ofInt (value c), [c.description, c.name, c.spiIn, c.spiOut, tunnel, monitored]⟩

/-! ## The update -/

/-- What a tunnel emits, given the outcome of the call for its children. -/
def tunnelBlock (monitored : String) (t : Tunnel) :
    Except FetchError (List Child) → List Emission
  | .ok children =>
    tunnelEmissions monitored t ++ children.flatMap (childEmissions monitored t.name)
  | .error _ => tunnelEmissions monitored t

/-- Visit the tunnels in order. -/
def visit (client : Client) (monitored : String) :
    List Tunnel → Dialogue (List Emission × Option FetchError)
  | [] => .done ([], none)
  | t :: ts =>
    (client.fetch (childrenQuery t.name)).bind fun children ↦
      (visit client monitored ts).bind fun (emissions, failure) ↦
        .done (tunnelBlock monitored t children ++ emissions,
          match children with
          | .ok _ => failure
          | .error e => some e)

def update (client : Client) (monitored : String) : Dialogue TaskOutcome :=
  (client.fetch tunnelsQuery).bind fun
    | .error e => .done (.finished [] (some e))
    | .ok tunnels => (visit client monitored tunnels).bind fun (emissions, failure) ↦
      .done (.finished emissions failure)

def collector : Collector where
  name := name
  descriptors := tunnelMetrics.map Prod.fst ++ childMetrics.map Prod.fst
  endpoints := [Endpoint.ipsecPhase1.name, Endpoint.ipsecPhase2.name]
  update := update

end FirewallExporter.Ipsec
