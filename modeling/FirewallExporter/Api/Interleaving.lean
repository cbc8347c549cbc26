import FirewallExporter.Api.Dialogue

/-!
# Interleaved dialogues

Dialogues that run at the same time share the responder and its log. At each step any one of them
sends its next request, and the responder sees the requests in the order of the steps. Running the
dialogues one after the other is one of their interleavings.
-/

namespace FirewallExporter.Dialogue

variable {α : Type}

/-- `Interleaved other ds log as log'`: the dialogues `ds`, started after `log`, can end with the
results `as` and the log `log'`. -/
inductive Interleaved (other : Responder) : List (Dialogue α) → Log → List α → Log → Prop
  /-- All dialogues are done. -/
  | finish (as : List α) (log : Log) : Interleaved other (as.map done) log as log
  /-- One of them sends its next request. -/
  | step {before after : List (Dialogue α)} {r : Request} {next : Outcome → Dialogue α}
      {log log' : Log} {as : List α} :
      Interleaved other (before ++ next (other log r) :: after) (logAfter other log r) as log' →
      Interleaved other (before ++ send r next :: after) log as log'

/-- One dialogue of several may run to its end. -/
theorem Interleaved.of_run {other : Responder} {before after : List (Dialogue α)} {d : Dialogue α}
    {log log' : Log} {as : List α}
    (h : Interleaved other (before ++ done (d.run other log).1 :: after) (d.run other log).2 as
      log') :
    Interleaved other (before ++ d :: after) log as log' := by
  induction d generalizing log with
  | done a => exact h
  | send r next ih => exact .step (ih _ h)

/-- Dialogues may run one after the other. -/
theorem interleaved_all (other : Responder) (ds : List (Dialogue α)) (log : Log) :
    Interleaved other ds log ((all ds).run other log).1 ((all ds).run other log).2 := by
  suffices ∀ before : List α, Interleaved other (before.map done ++ ds) log
      (before ++ ((all ds).run other log).1) ((all ds).run other log).2 from this []
  induction ds generalizing log with
  | nil => intro before; simpa [all] using Interleaved.finish before log
  | cons d ds ih =>
    intro before
    have h := ih (d.run other log).2 (before ++ [(d.run other log).1])
    refine .of_run ?_
    simpa [all, run_bind] using h

end FirewallExporter.Dialogue
