import FirewallExporter.Number.Literal

/-!
# Failed calls

Why a call gave no record. Every cause knows the status of the response it is about; a call that
saw no response, and a text that turned out to be no number, have status 0.
-/

namespace FirewallExporter

/-- A text of a decoded reply that is not the number it should be. -/
inductive Unparsable
  | int (text : String) (fault : IntFault)
  | double (text : String) (fault : DoubleFault)
deriving DecidableEq, Repr

def Unparsable.message : Unparsable → String
  | int text fault => "error parsing '" ++ text ++ "' to int: " ++ fault.message
  | double text fault => "error parsing '" ++ text ++ "' to float: " ++ fault.message

/-- Why a call failed. -/
inductive FetchFault
  | unknownEndpoint
  | noResponse (attempts : Nat)
  | unreadableBody (status : Nat)
  /-- A status outside 200 to 299; the message is the body. -/
  | rejected (status : Nat) (body : String)
  | undecodable (status : Nat)
  | unparsable (cause : Unparsable)
deriving DecidableEq, Repr

namespace FetchFault

/-- The status of the response that the fault is about, or 0. -/
def status : FetchFault → Nat
  | unknownEndpoint => 0
  | noResponse _ => 0
  | unreadableBody status => status
  | rejected status _ => status
  | undecodable status => status
  | unparsable _ => 0

/-- The message of a fault. A body that cannot be read or decoded is reported with the reason that
the layer below gives for it. The other messages have no use for the reason. -/
def message (reason : String) : FetchFault → String
  | unknownEndpoint => "endpoint not found"
  | noResponse attempts => "max retries reached after " ++ toString attempts ++ " attempts"
  | unreadableBody _ => "failed to read response body: " ++ reason
  | rejected _ body => body
  | undecodable _ => "failed to decode response body: " ++ reason
  | unparsable cause => cause.message

end FetchFault

/-- A failed call, with the logical name of the endpoint it was made against. -/
structure FetchError where
  endpoint : String
  fault : FetchFault
deriving DecidableEq, Repr

namespace FetchError

def status (e : FetchError) : Nat := e.fault.status

def message (e : FetchError) (reason : String) : String := e.fault.message reason

end FetchError

/-! ## Numbers out of texts -/

/-- Read a text as an integer. -/
def Unparsable.readInt (text : String) : Except Unparsable Int :=
  (parseInt text).mapError (.int text)

/-- Read a text as a floating-point number. -/
def Unparsable.readDouble (text : String) : Except Unparsable Double :=
  (parseDouble text).mapError (.double text)

end FirewallExporter
