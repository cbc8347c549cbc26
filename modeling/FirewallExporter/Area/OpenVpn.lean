import FirewallExporter.Area.Collector
import FirewallExporter.Text.Lowercase

/-!
# OpenVPN instances

One gauge for every instance with the number in its `enabled` text. One such text that is no integer
fails the whole record.
-/

namespace FirewallExporter.OpenVpn

open Json

/-! ## The record -/

/-- A row of the reply. -/
structure Row where
  uuid : String
  description : String
  role : String
  deviceType : String
  enabled : String
deriving DecidableEq, Repr

def rowShape : Shape Row :=
  .record
    (.cons "uuid" .text <| .cons "description" .text <| .cons "role" .text <|
      .cons "dev_type" .text <| .cons "enabled" .text .nil)
    fun (uuid, description, role, deviceType, enabled, ()) ↦
      { uuid, description, role, deviceType, enabled }

structure VpnInstance where
  uuid : String
  description : String
  /-- The role in lower case. -/
  role : String
  deviceType : String
  enabled : Int
deriving DecidableEq, Repr

abbrev Record := List VpnInstance

def Row.vpnInstance (r : Row) : Except Unparsable VpnInstance :=
  (Unparsable.readInt r.enabled).map fun enabled ↦
    { uuid := r.uuid, description := r.description, role := Text.lowercase r.role,
      deviceType := r.deviceType, enabled := enabled }

def record (rows : List Row) : Except Unparsable Record := rows.mapM Row.vpnInstance

def shape : Shape (List Row) := .record (.cons "rows" (.list rowShape) .nil) fun (rows, ()) ↦ rows

def query : Query Record := .ofShape .openvpn .post (some Query.searchAll) shape record

/-! ## The metric -/

def name : String := "openvpn"

def instances : Descriptor :=
  .gauge name "instances" "OpenVPN instances (1 = enabled, 0 = disabled) by role (server, client)"
    ["uuid", "role", "description", "device_type"]

def emission (monitored : String) (v : VpnInstance) : Emission where
  descriptor := instances
  value := Double.ofInt v.enabled
  labels := [v.uuid, v.role, v.description, v.deviceType, monitored]

def emissions (monitored : String) (r : Record) : List Emission := r.map (emission monitored)

def collector : Collector := .ofQuery name [instances] query emissions

end FirewallExporter.OpenVpn
