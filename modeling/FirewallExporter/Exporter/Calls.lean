import FirewallExporter.Api.Interleaving
import FirewallExporter.Exporter.Scraper

/-!
# Calls at the same time

Several callers may ask one scraper for passes at the same time. A lock keeps the passes apart: a
call waits until the lock is free, runs its pass while it holds it, and gives it back at the end.
Within a pass the collectors run at the same time too, and they are joined in any order.

`Calls.Step` is one step of one call. The tally and the log belong to all calls, and a step may
change them only as its part of a pass does.
-/

namespace FirewallExporter

/-- What a call wants of its pass. -/
inductive Want
  | document
  | samples
deriving DecidableEq, Repr

/-- What a call gets. -/
inductive Gain
  | document (text : Except DescriptorFault String)
  | samples (samples : List Sample)

/-- Where a call stands. -/
inductive Stage
  | waiting
  /-- The lock is taken and the health check goes on. -/
  | checking (check : Dialogue HealthStatus)
  /-- The collectors run; `joined` are the outcomes so far, in the order of their joining. -/
  | updating (tasks : List (Dialogue TaskOutcome)) (joined : List TaskOutcome)
  /-- The samples are there, and the pass is still to be counted. -/
  | collected (samples : List Sample)
  /-- The pass is counted. -/
  | counted (samples : List Sample)
  /-- The lock is still to be given back. -/
  | answered (gain : Gain)
  | finished (gain : Gain)

/-- A call: what it wants, and where it stands. -/
structure Call where
  want : Want
  stage : Stage

/-- A scraper with calls under way. -/
structure Calls where
  tally : Tally
  log : Log
  /-- The number of the call that holds the lock. -/
  holder : Option Nat
  calls : List Call

namespace Calls

/-- Calls that have not begun. -/
def start (t : Tally) (log : Log) (wants : List Want) : Calls :=
  ⟨t, log, none, wants.map fun want ↦ ⟨want, .waiting⟩⟩

/-- The call `i` moves to a stage. -/
def move (c : Calls) (i : Nat) (want : Want) (stage : Stage) : Calls :=
  { c with calls := c.calls.set i ⟨want, stage⟩ }

/-- What a call that wants `want` gets from the samples of its pass. -/
def gainOf (s : Scraper) (t : Tally) (samples : List Sample) : Want → Gain
  | .document => .document (t.passDocument s.descriptors samples)
  | .samples => .samples samples

/-- `Step s other i c c'`: the call `i` takes one step, which leads from `c` to `c'`. -/
inductive Step (s : Scraper) (other : Responder) (i : Nat) : Calls → Calls → Prop
  | take {c : Calls} {want : Want} :
      c.calls[i]? = some ⟨want, .waiting⟩ → c.holder = none →
      Step s other i c { c.move i want (.checking s.checkHealth) with holder := some i }
  | check {c : Calls} {want : Want} {r : Request} {next : Outcome → Dialogue HealthStatus} :
      c.calls[i]? = some ⟨want, .checking (.send r next)⟩ →
      Step s other i c
        { c.move i want (.checking (next (other c.log r))) with
          log := Dialogue.logAfter other c.log r }
  | up {c : Calls} {want : Want} {h : HealthStatus} :
      c.calls[i]? = some ⟨want, .checking (.done h)⟩ → h.systemUp = true →
      Step s other i c { c.move i want (.updating s.tasks []) with tally := c.tally.setHealth h }
  | down {c : Calls} {want : Want} {h : HealthStatus} :
      c.calls[i]? = some ⟨want, .checking (.done h)⟩ → h.systemUp = false →
      Step s other i c { c.move i want (.collected []) with tally := c.tally.setHealth h }
  | update {c : Calls} {want : Want} {before after : List (Dialogue TaskOutcome)} {r : Request}
      {next : Outcome → Dialogue TaskOutcome} {joined : List TaskOutcome} :
      c.calls[i]? = some ⟨want, .updating (before ++ .send r next :: after) joined⟩ →
      Step s other i c
        { c.move i want (.updating (before ++ next (other c.log r) :: after) joined) with
          log := Dialogue.logAfter other c.log r }
  | join {c : Calls} {want : Want} {before after : List (Dialogue TaskOutcome)} {o : TaskOutcome}
      {joined : List TaskOutcome} :
      c.calls[i]? = some ⟨want, .updating (before ++ .done o :: after) joined⟩ →
      Step s other i c
        { c.move i want (.updating (before ++ after) (joined ++ [o])) with
          tally := Scraper.countErrors c.tally [o] }
  | collect {c : Calls} {want : Want} {joined : List TaskOutcome} :
      c.calls[i]? = some ⟨want, .updating [] joined⟩ →
      Step s other i c (c.move i want (.collected (joined.flatMap Scraper.samplesOf)))
  | count {c : Calls} {want : Want} {samples : List Sample} :
      c.calls[i]? = some ⟨want, .collected samples⟩ →
      Step s other i c { c.move i want (.counted samples) with tally := c.tally.recordScrape }
  | answer {c : Calls} {want : Want} {samples : List Sample} :
      c.calls[i]? = some ⟨want, .counted samples⟩ →
      Step s other i c (c.move i want (.answered (gainOf s c.tally samples want)))
  | release {c : Calls} {want : Want} {gain : Gain} :
      c.calls[i]? = some ⟨want, .answered gain⟩ →
      Step s other i c { c.move i want (.finished gain) with holder := none }

/-- A history of steps, with the calls that took the lock in order. -/
inductive History (s : Scraper) (other : Responder) (c : Calls) : List Nat → Calls → Prop
  | start : History s other c [] c
  | take {order : List Nat} {c' c'' : Calls} {i : Nat} :
      History s other c order c' → Step s other i c' c'' → c'.holder = none → c''.holder = some i →
      History s other c (order ++ [i]) c''
  | step {order : List Nat} {c' c'' : Calls} {i : Nat} :
      History s other c order c' → Step s other i c' c'' → c'.holder ≠ none →
      History s other c order c''

/-- Every call has got what it wants. -/
def Done (c : Calls) : Prop := ∀ call ∈ c.calls, ∃ gain, call.stage = .finished gain

end Calls

end FirewallExporter
