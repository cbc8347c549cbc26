/-!
# Dialogues with the firewall

What the exporter does on the network is a `Dialogue`: it sends a request, looks at the outcome, and
goes on. The other side is a `Responder`, any function from what was exchanged so far and the next
request to an outcome. Running a dialogue against a responder gives its result and the log of the
exchanges, failed ones included, and nothing else happens on the network.
-/

namespace FirewallExporter

/-! ## Requests and outcomes -/

inductive Method
  | get
  | post
  | other (name : String)
deriving DecidableEq, Repr

def Method.name : Method → String
  | get => "GET"
  | post => "POST"
  | other name => name

/-- A request: `base` is the protocol and the host, `path` what the endpoint mapping gives. -/
structure Request where
  method : Method
  base : String
  path : String
  headers : List (String × String)
  body : String
deriving DecidableEq, Repr

def Request.url (r : Request) : String := r.base ++ "/" ++ r.path

/-- A response. There is no body when it breaks off or cannot be decompressed. -/
structure Response where
  status : Nat
  body : Option (List UInt8)
deriving DecidableEq, Repr

/-- What comes of sending a request. -/
inductive Outcome
  /-- No connection: the request never arrives. -/
  | refused
  /-- The request arrives and the connection ends without an answer. -/
  | dropped
  | answered (response : Response)
deriving DecidableEq, Repr

namespace Outcome

/-- Whether the other side has seen the request. -/
def arrived : Outcome → Bool
  | refused => false
  | _ => true

def response? : Outcome → Option Response
  | answered r => some r
  | _ => none

end Outcome

/-- A request that was sent, with what came of it. -/
structure Exchange where
  request : Request
  outcome : Outcome
deriving DecidableEq, Repr

/-- What was exchanged, in order. -/
abbrev Log := List Exchange

namespace Log

/-- The requests that were sent, whether they arrived or not. -/
def sent (log : Log) : List Request := log.map Exchange.request

/-- The requests that the other side has seen. -/
def arrived (log : Log) : List Request :=
  (log.filter fun e ↦ e.outcome.arrived).map Exchange.request

end Log

/-- The other side: an outcome for a request, given what was exchanged before it. -/
abbrev Responder := Log → Request → Outcome

/-- A responder that refuses every connection. -/
def Responder.unreachable : Responder := fun _ _ ↦ .refused

/-- The responder whose outcome for the `n`-th request of a path is `reply path n`. -/
def Responder.perPath (reply : String → Nat → Outcome) : Responder := fun log r ↦
  reply r.path (log.countP fun e ↦ e.request.path == r.path)

/-! ## Dialogues -/

/-- A computation that sends requests one after the other. -/
inductive Dialogue (α : Type)
  | done (a : α)
  | send (request : Request) (next : Outcome → Dialogue α)

namespace Dialogue

variable {α β : Type}

/-- Continue with the result of `d`. -/
def bind : Dialogue α → (α → Dialogue β) → Dialogue β
  | done a, f => f a
  | send r next, f => send r fun o ↦ (next o).bind f

instance : Monad Dialogue where
  pure := done
  bind := bind

/-- The log after one more request. -/
def logAfter (other : Responder) (log : Log) (r : Request) : Log := log ++ [⟨r, other log r⟩]

/-- Run a dialogue after the exchanges in `log`, which grows at its end. -/
def run (other : Responder) : Dialogue α → (log : Log) → α × Log
  | done a, log => (a, log)
  | send r next, log => (next (other log r)).run other (logAfter other log r)

@[simp] theorem run_done (other : Responder) (a : α) (log : Log) :
    (done a).run other log = (a, log) := rfl

/-- Running in sequence: the second part starts from the log that the first one leaves. -/
theorem run_bind (other : Responder) (d : Dialogue α) (f : α → Dialogue β) (log : Log) :
    (d.bind f).run other log = (f (d.run other log).1).run other (d.run other log).2 := by
  induction d generalizing log with
  | done a => rfl
  | send r next ih => exact ih _ _

/-- The results of a list of dialogues, run in order. -/
def all : List (Dialogue α) → Dialogue (List α)
  | [] => done []
  | d :: ds => d.bind fun a ↦ (all ds).bind fun as ↦ done (a :: as)

end Dialogue

end FirewallExporter
