import FirewallExporter.Api.Client

/-!
# System health

The reply reports a component in one of two forms, a word or a number in the metadata. A component
is healthy when the word is `OK` or the number is 2; whatever else stands there counts as unhealthy.
The firewall is healthy only while the system itself is.
-/

namespace FirewallExporter

/-- The outcome of a health check. -/
structure HealthStatus where
  systemUp : Bool
  firewallOk : Bool
deriving DecidableEq, Repr

namespace HealthStatus

def down : HealthStatus := ⟨false, false⟩

end HealthStatus

namespace Health

open Json

/-- The statuses in a reply: the words of the system and of the firewall, then their numbers. -/
structure Reply where
  system : Value
  firewall : Value
  systemMetadata : Value
  firewallMetadata : Value

def statusShape : Shape Value := .record (.cons "status" .free .nil) fun (status, ()) ↦ status

def metadataShape : Shape (Value × Value) :=
  .record (.cons "System" statusShape <| .cons "Firewall" statusShape .nil)
    fun (system, firewall, ()) ↦ (system, firewall)

def shape : Shape Reply :=
  .record
    (.cons "System" statusShape <| .cons "Firewall" statusShape <|
      .cons "metadata" metadataShape .nil)
    fun (system, firewall, (systemMetadata, firewallMetadata), ()) ↦
      { system, firewall, systemMetadata, firewallMetadata }

/-- The word of a healthy component. -/
def okWord : String := "OK"

/-- The number of a healthy component. -/
def okNumber : Int := 2

/-- The number in a status: a number cut to a whole one, or a text that is an integer. -/
def numberOf? : Value → Option Int
  | .number n => some (n.int64?.getD n.toDouble.truncate)
  | .string s => (parseInt s).toOption
  | _ => none

/-- Whether a component is healthy by its word or by its number. -/
def isOk (word number : Value) : Bool :=
  (match word with
    | .string s => s == okWord
    | _ => false) || numberOf? number == some okNumber

def Reply.status (r : Reply) : HealthStatus :=
  if isOk r.system r.systemMetadata then ⟨true, isOk r.firewall r.firewallMetadata⟩
  else .down

def query : Query HealthStatus := .ofShape .health .get none shape fun r ↦ .ok r.status

end Health

end FirewallExporter
