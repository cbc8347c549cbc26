import FirewallExporter.Proofs.Document

/-!
# Calls are served one after the other

Calls at the same time take their steps in any order, and yet what comes of them is a run: one pass
for each call that took the lock, in the order of the taking. The lock is what carries this. Between
taking and giving back no other call can take a step, so the tally and the log move only as one pass
moves them.

## The invariant

A call that holds the lock stands somewhere in a pass that began with the tally and the log which
the passes before it left (`Stage.Underway`). While its tasks run, the pass is not settled yet. What
is known then is that every way in which the tasks that are left can end makes, with those that were
joined, one of the fan-outs that the pass could have had (`Scraper.Continues`); a step of a task
leaves fewer ways, and a task that is joined takes its outcome out of all of them. All other calls
either wait or have what they want (`Calls.Served`).

The other direction has nothing to do with the invariant: whatever calls have done so far, there are
steps that bring all of them to their end (`Calls.History.exists_done`).
-/

namespace FirewallExporter

namespace Dialogue

variable {α : Type}

/-- A dialogue that is done may be put among others. -/
theorem Interleaved.insert_done {other : Responder} {before after : List (Dialogue α)}
    {log log' : Log} {as : List α} (h : Interleaved other (before ++ after) log as log') (a : α) :
    ∃ bs cs, as = bs ++ cs ∧
      Interleaved other (before ++ done a :: after) log (bs ++ a :: cs) log' := by
  generalize hds : before ++ after = ds at h
  induction h generalizing before after with
  | finish as log =>
    obtain ⟨bs, cs, rfl, rfl, rfl⟩ := List.map_eq_append_iff.mp hds.symm
    have hfinish : Interleaved other ((bs ++ a :: cs).map done) log (bs ++ a :: cs) log :=
      .finish _ _
    rw [List.map_append, List.map_cons] at hfinish
    exact ⟨bs, cs, rfl, hfinish⟩
  | @step left right r next log log' as _ ih =>
    -- The dialogue that takes the step stands on one side of the gap.
    rcases List.append_eq_append_iff.mp hds with ⟨mid, rfl, rfl⟩ | ⟨mid, rfl, hright⟩
    · obtain ⟨bs, cs, rfl, hrest⟩ :=
        @ih before (mid ++ next (other log r) :: right) (by simp)
      refine ⟨bs, cs, rfl, ?_⟩
      rw [← List.cons_append, ← List.append_assoc] at hrest ⊢
      exact .step hrest
    · rcases List.append_eq_cons_iff.mp hright.symm with ⟨rfl, rfl⟩ | ⟨mid, rfl, rfl⟩
      · obtain ⟨bs, cs, rfl, hrest⟩ :=
          @ih left (next (other log r) :: right) rfl
        refine ⟨bs, cs, rfl, ?_⟩
        rw [List.append_nil]
        rw [List.append_cons] at hrest ⊢
        exact .step hrest
      · obtain ⟨bs, cs, rfl, hrest⟩ :=
          @ih (left ++ next (other log r) :: mid) after (by simp)
        refine ⟨bs, cs, rfl, ?_⟩
        rw [List.append_assoc, List.cons_append] at hrest ⊢
        exact .step hrest

end Dialogue

open Dialogue (Interleaved)

/-! ## What passes leave behind -/

namespace Pass

/-- The tally that passes leave behind. -/
def tallyAfter (t : Tally) (ps : List Pass) : Tally := ps.foldl (fun _ p ↦ p.tally) t

/-- The log that passes leave behind: the logs of the single passes, one after the other. -/
def logAfter (log : Log) (ps : List Pass) : Log := log ++ ps.flatMap exchanges

theorem tallyAfter_concat (t : Tally) (ps : List Pass) (p : Pass) :
    tallyAfter t (ps ++ [p]) = p.tally := List.foldl_concat ..

theorem logAfter_concat (log : Log) (ps : List Pass) (p : Pass) :
    logAfter log (ps ++ [p]) = logAfter log ps ++ p.exchanges := by
  simp [logAfter]

end Pass

/-- A run goes on from what it left behind. -/
theorem Run.concat {s : Scraper} {other : Responder} {t : Tally} {log : Log} {ps : List Pass}
    {p : Pass} (h : Run s other t log ps)
    (hp : p.Of s other (Pass.tallyAfter t ps) (Pass.logAfter log ps)) :
    Run s other t log (ps ++ [p]) := by
  induction h with
  | @nil t log =>
    have hlog : Pass.logAfter log [] = log := by simp [Pass.logAfter]
    rw [hlog] at hp
    exact .cons hp .nil
  | @cons t log q ps hq _ ih =>
    refine .cons hq (ih ?_)
    have hlog : Pass.logAfter log (q :: ps) = Pass.logAfter (log ++ q.exchanges) ps := by
      simp [Pass.logAfter]
    rwa [hlog] at hp

/-! ## Fan-outs under way -/

namespace Scraper

variable {s : Scraper} {other : Responder} {log now : Log} {joined : List TaskOutcome}

/-- Whatever way the tasks end that are left, together with the outcomes that were joined they end
a fan-out that began after `log`. -/
def Continues (s : Scraper) (other : Responder) (log : Log) (tasks : List (Dialogue TaskOutcome))
    (joined : List TaskOutcome) (now : Log) : Prop :=
  ∀ ⦃rest final⦄, Interleaved other tasks now rest final →
    ∃ outcomes, Interleaved other s.tasks log outcomes final ∧ (joined ++ rest).Perm outcomes

theorem continues_start (s : Scraper) (other : Responder) (log : Log) :
    s.Continues other log s.tasks [] log :=
  fun rest _ h ↦ ⟨rest, h, List.Perm.refl _⟩

theorem Continues.send {before after : List (Dialogue TaskOutcome)} {r : Request}
    {next : Outcome → Dialogue TaskOutcome}
    (h : s.Continues other log (before ++ .send r next :: after) joined now) :
    s.Continues other log (before ++ next (other now r) :: after) joined
      (Dialogue.logAfter other now r) :=
  fun _ _ hrest ↦ h (.step hrest)

theorem Continues.join {before after : List (Dialogue TaskOutcome)} {o : TaskOutcome}
    (h : s.Continues other log (before ++ .done o :: after) joined now) :
    s.Continues other log (before ++ after) (joined ++ [o]) now := by
  intro rest final hrest
  obtain ⟨bs, cs, rfl, hall⟩ := hrest.insert_done o
  obtain ⟨outcomes, houtcomes, hperm⟩ := h hall
  refine ⟨outcomes, houtcomes, List.Perm.trans ?_ hperm⟩
  rw [List.append_assoc, List.singleton_append]
  exact List.perm_middle.symm.append_left joined

/-- There is a way in which the tasks that are left can end. -/
theorem Continues.exists_fanOut {tasks : List (Dialogue TaskOutcome)}
    (h : s.Continues other log tasks joined now) : ∃ rest outcomes sent,
      Interleaved other s.tasks log outcomes (now ++ sent) ∧ (joined ++ rest).Perm outcomes := by
  obtain ⟨rest, sent, hrun⟩ := Dialogue.exists_run_eq other (Dialogue.all tasks) now
  have hall := Dialogue.interleaved_all other tasks now
  rw [hrun] at hall
  obtain ⟨outcomes, houtcomes, hperm⟩ := h hall
  exact ⟨rest, outcomes, sent, houtcomes, hperm⟩

/-- Without tasks that are left, the fan-out is over. -/
theorem Continues.finish (h : s.Continues other log [] joined now) :
    ∃ outcomes, Interleaved other s.tasks log outcomes now ∧ joined.Perm outcomes := by
  obtain ⟨outcomes, houtcomes, hperm⟩ := h (.finish [] now)
  exact ⟨outcomes, houtcomes, List.append_nil joined ▸ hperm⟩

theorem run_checkHealth (s : Scraper) (other : Responder) (log : Log) :
    s.checkHealth.run other log = (healthOf ((s.client.fetch Health.query).run other log).1,
      ((s.client.fetch Health.query).run other log).2) := by
  rw [checkHealth, Dialogue.run_bind, Dialogue.run_done]

end Scraper

/-! ## One pass, step by step -/

/-- Where a call stands that holds the lock. Its pass began with the tally `t` and the log `log`,
and the tally and the log are now `t'` and `log'`. -/
def Stage.Underway (s : Scraper) (other : Responder) (t : Tally) (log : Log) (want : Want)
    (t' : Tally) (log' : Log) : Stage → Prop
  | .waiting => False
  | .checking check => t' = t ∧ (∃ asked, log' = log ++ asked) ∧
      check.run other log' = s.checkHealth.run other log
  | .updating tasks joined => ∃ check asked sent,
      (s.client.fetch Health.query).run other log = (check, log ++ asked) ∧
      (Scraper.healthOf check).systemUp = true ∧
      t' = Scraper.countErrors (t.setHealth (Scraper.healthOf check)) joined ∧
      log' = log ++ asked ++ sent ∧ s.Continues other (log ++ asked) tasks joined log'
  | .collected samples => ∃ p : Pass, p.Of s other t log ∧ p.want = want ∧
      log' = log ++ p.exchanges ∧ samples = p.samples ∧ p.tally = t'.recordScrape
  | .counted samples => ∃ p : Pass, p.Of s other t log ∧ p.want = want ∧
      log' = log ++ p.exchanges ∧ samples = p.samples ∧ t' = p.tally
  | .answered gain => ∃ p : Pass, p.Of s other t log ∧ p.want = want ∧
      log' = log ++ p.exchanges ∧ gain = p.gain s ∧ t' = p.tally
  | .finished _ => False

namespace Calls

variable {s : Scraper} {other : Responder} {i : Nat} {c c' : Calls}

/-- A call stands at one stage. -/
theorem getElem?_calls_inj {want want' : Want} {stage stage' : Stage}
    (h : c.calls[i]? = some ⟨want, stage⟩) (h' : c.calls[i]? = some ⟨want', stage'⟩) :
    want = want' ∧ stage = stage' :=
  Call.mk.inj (Option.some.inj (h.symm.trans h'))

theorem getElem?_of_calls_eq_set {call call' : Call} (h : c.calls[i]? = some call)
    (h' : c'.calls = c.calls.set i call') : c'.calls[i]? = some call' := by
  rw [h', List.getElem?_set_self (List.getElem?_eq_some_iff.mp h).1]

theorem Step.length_calls (h : Step s other i c c') : c'.calls.length = c.calls.length := by
  cases h <;> exact List.length_set

theorem History.length_calls {t : Tally} {log : Log} {wants : List Want} {order : List Nat}
    (h : History s other (Calls.start t log wants) order c) : c.calls.length = wants.length := by
  induction h with
  | start => exact List.length_map _
  | take _ hstep _ _ ih => exact hstep.length_calls.trans ih
  | step _ hstep _ ih => exact hstep.length_calls.trans ih

/-- A step is that of a call which takes the free lock, or of one that is past this point. -/
theorem Step.exists_call (h : Step s other i c c') : ∃ want stage,
    c.calls[i]? = some ⟨want, stage⟩ ∧
      (stage = .waiting ∧ c.holder = none ∧
          c' = { c.move i want (.checking s.checkHealth) with holder := some i } ∨
        stage ≠ .waiting ∧ ∀ gain, stage ≠ .finished gain) := by
  cases h with
  | take hcall hfree => exact ⟨_, _, hcall, .inl ⟨rfl, hfree, rfl⟩⟩
  | check hcall => exact ⟨_, _, hcall, .inr ⟨nofun, nofun⟩⟩
  | up hcall _ => exact ⟨_, _, hcall, .inr ⟨nofun, nofun⟩⟩
  | down hcall _ => exact ⟨_, _, hcall, .inr ⟨nofun, nofun⟩⟩
  | update hcall => exact ⟨_, _, hcall, .inr ⟨nofun, nofun⟩⟩
  | join hcall => exact ⟨_, _, hcall, .inr ⟨nofun, nofun⟩⟩
  | collect hcall => exact ⟨_, _, hcall, .inr ⟨nofun, nofun⟩⟩
  | count hcall => exact ⟨_, _, hcall, .inr ⟨nofun, nofun⟩⟩
  | answer hcall => exact ⟨_, _, hcall, .inr ⟨nofun, nofun⟩⟩
  | release hcall => exact ⟨_, _, hcall, .inr ⟨nofun, nofun⟩⟩

section

variable {t : Tally} {log : Log} {want : Want} {stage : Stage}

/-- **A step of the call that holds the lock.** It goes on with the pass, or it gives the lock back
when the pass is over. -/
theorem Step.underway (h : Step s other i c c') (hholder : c.holder = some i)
    (hcall : c.calls[i]? = some ⟨want, stage⟩)
    (hstage : stage.Underway s other t log want c.tally c.log) :
    (∃ stage', c'.calls = c.calls.set i ⟨want, stage'⟩ ∧ c'.holder = some i ∧
        stage'.Underway s other t log want c'.tally c'.log) ∨
      ∃ p : Pass, p.Of s other t log ∧ p.want = want ∧
        c'.calls = c.calls.set i ⟨want, .finished (p.gain s)⟩ ∧ c'.holder = none ∧
        c'.tally = p.tally ∧ c'.log = log ++ p.exchanges := by
  cases h with
  | take _ hfree => exact absurd (hfree.symm.trans hholder) nofun
  | @check _ r next hcall' =>
    obtain ⟨rfl, rfl⟩ := getElem?_calls_inj hcall hcall'
    obtain ⟨htally, ⟨asked, hlog⟩, hrun⟩ := hstage
    refine .inl ⟨_, rfl, hholder, htally, ⟨asked ++ [⟨r, other c.log r⟩], ?_⟩, hrun⟩
    rw [← List.append_assoc, ← hlog]
    rfl
  | @up _ health hcall' hup =>
    obtain ⟨rfl, rfl⟩ := getElem?_calls_inj hcall hcall'
    obtain ⟨htally, ⟨asked, hlog⟩, hrun⟩ := hstage
    rw [Dialogue.run_done, s.run_checkHealth] at hrun
    obtain ⟨rfl, hlog'⟩ := Prod.mk.inj hrun
    refine .inl ⟨_, rfl, hholder, _, asked, [], ?_, hup, ?_, ?_, ?_⟩
    · rw [← hlog, hlog']
    · dsimp only
      rw [htally]
      rfl
    · rw [List.append_nil, ← hlog]
      rfl
    · rw [← hlog]
      exact s.continues_start other c.log
  | @down _ health hcall' hdown =>
    obtain ⟨rfl, rfl⟩ := getElem?_calls_inj hcall hcall'
    obtain ⟨htally, ⟨asked, hlog⟩, hrun⟩ := hstage
    rw [Dialogue.run_done, s.run_checkHealth] at hrun
    obtain ⟨rfl, hlog'⟩ := Prod.mk.inj hrun
    have hcheck : (s.client.fetch Health.query).run other log =
        (((s.client.fetch Health.query).run other log).1, log ++ asked) := by
      rw [← hlog, hlog']
    refine .inl ⟨_, rfl, hholder, _, .down hcheck hdown, rfl, hlog, rfl, ?_⟩
    dsimp only
    rw [htally]
  | @update _ before after r next joined hcall' =>
    obtain ⟨rfl, rfl⟩ := getElem?_calls_inj hcall hcall'
    obtain ⟨check, asked, sent, hcheck, hup, htally, hlog, hcontinues⟩ := hstage
    refine .inl ⟨_, rfl, hholder, check, asked, sent ++ [⟨r, other c.log r⟩], hcheck, hup, htally,
      ?_, hcontinues.send⟩
    rw [← List.append_assoc, ← hlog]
    rfl
  | @join _ before after o joined hcall' =>
    obtain ⟨rfl, rfl⟩ := getElem?_calls_inj hcall hcall'
    obtain ⟨check, asked, sent, hcheck, hup, htally, hlog, hcontinues⟩ := hstage
    refine .inl ⟨_, rfl, hholder, check, asked, sent, hcheck, hup, ?_, hlog, hcontinues.join⟩
    dsimp only
    rw [htally, Tally.countErrors_append]
  | @collect _ joined hcall' =>
    obtain ⟨rfl, rfl⟩ := getElem?_calls_inj hcall hcall'
    obtain ⟨check, asked, sent, hcheck, hup, htally, hlog, hcontinues⟩ := hstage
    obtain ⟨outcomes, houtcomes, hperm⟩ := hcontinues.finish
    rw [hlog] at houtcomes
    refine .inl ⟨_, rfl, hholder, _, .up hcheck hup houtcomes hperm, rfl, ?_, rfl, ?_⟩
    · rw [← List.append_assoc]
      exact hlog
    · exact congrArg Tally.recordScrape htally.symm
  | count hcall' =>
    obtain ⟨rfl, rfl⟩ := getElem?_calls_inj hcall hcall'
    obtain ⟨p, hp, hwant, hlog, hsamples, htally⟩ := hstage
    exact .inl ⟨_, rfl, hholder, p, hp, hwant, hlog, hsamples, htally.symm⟩
  | answer hcall' =>
    obtain ⟨rfl, rfl⟩ := getElem?_calls_inj hcall hcall'
    obtain ⟨p, hp, hwant, hlog, hsamples, htally⟩ := hstage
    refine .inl ⟨_, rfl, hholder, p, hp, hwant, hlog, ?_, htally⟩
    rw [htally, hsamples, ← hwant]
    rfl
  | release hcall' =>
    obtain ⟨rfl, rfl⟩ := getElem?_calls_inj hcall hcall'
    obtain ⟨p, hp, hwant, hlog, rfl, htally⟩ := hstage
    exact .inr ⟨p, hp, hwant, rfl, rfl, htally, hlog⟩

end

end Calls

theorem Pass.want_pass (s : Scraper) (other : Responder) (want : Want) (t : Tally) (log : Log) :
    (s.pass other want t log).want = want := by
  rw [Scraper.pass]
  dsimp only
  split <;> rfl

/-- A pass that is under way can be brought to its end, and what was exchanged in it so far is then
the first part of what is exchanged in it. -/
theorem Stage.Underway.exists_pass {s : Scraper} {other : Responder} {t t' : Tally} {log log' : Log}
    {want : Want} {stage : Stage} (h : stage.Underway s other t log want t' log') :
    ∃ (p : Pass) (part rest : Log), p.Of s other t log ∧ p.want = want ∧ log' = log ++ part ∧
      p.exchanges = part ++ rest ∧ ∀ gain, stage = .answered gain → gain = p.gain s := by
  cases stage with
  | waiting => exact h.elim
  | checking check =>
    obtain ⟨-, ⟨asked, rfl⟩, hrun⟩ := h
    -- The pass that updates the collectors one after the other begins with what is left to check.
    obtain ⟨health, more, hmore⟩ := Dialogue.exists_run_eq other check (log ++ asked)
    have hcollect := s.run_collect other want t log
    rw [Scraper.collect, Dialogue.run_bind, ← hrun, hmore] at hcollect
    generalize (if health.systemUp then _ else _ : Dialogue (List Sample × Tally)) = d
      at hcollect
    obtain ⟨result, sent, hsent⟩ := Dialogue.exists_run_eq other d (log ++ asked ++ more)
    have hexchanges := congrArg Prod.snd (hsent.symm.trans hcollect)
    simp only [List.append_assoc, List.append_cancel_left_eq] at hexchanges
    exact ⟨s.pass other want t log, asked, more ++ sent, Pass.of_pass .., Pass.want_pass ..,
      rfl, hexchanges.symm, by simp⟩
  | updating tasks joined =>
    obtain ⟨check, asked, sent, hcheck, hup, -, rfl, hcontinues⟩ := h
    obtain ⟨rest, outcomes, more, houtcomes, hperm⟩ := hcontinues.exists_fanOut
    rw [List.append_assoc _ sent] at houtcomes
    exact ⟨_, asked ++ sent, more, .up hcheck hup houtcomes hperm, rfl, List.append_assoc ..,
      (List.append_assoc ..).symm, by simp⟩
  | collected samples =>
    obtain ⟨p, hp, hwant, hlog, -⟩ := h
    exact ⟨p, p.exchanges, [], hp, hwant, hlog, (List.append_nil _).symm, by simp⟩
  | counted samples =>
    obtain ⟨p, hp, hwant, hlog, -⟩ := h
    exact ⟨p, p.exchanges, [], hp, hwant, hlog, (List.append_nil _).symm, by simp⟩
  | answered gain =>
    obtain ⟨p, hp, hwant, hlog, rfl, -⟩ := h
    refine ⟨p, p.exchanges, [], hp, hwant, hlog, (List.append_nil _).symm, fun gain hgain ↦ ?_⟩
    exact (Stage.answered.inj hgain).symm
  | finished gain => exact h.elim

namespace Calls

section

variable {s : Scraper} {other : Responder} {t : Tally} {log : Log} {wants : List Want}
  {c c' : Calls} {done order : List Nat} {ps : List Pass} {i : Nat} {want : Want} {stage : Stage}

/-! ## The invariant -/

/-- The calls `done` have got what they want from the passes `ps`, one after the other. A call that
is not one of them, and does not hold the lock, has not begun. -/
structure Served (s : Scraper) (other : Responder) (t : Tally) (log : Log) (wants : List Want)
    (c : Calls) (done : List Nat) (ps : List Pass) : Prop where
  run : Run s other t log ps
  nodup : done.Nodup
  gains : List.Forall₂ (fun i p ↦ wants[i]? = some p.want ∧
    c.calls[i]? = some ⟨p.want, .finished (p.gain s)⟩) done ps
  waiting : ∀ i ∉ done, c.holder ≠ some i →
    c.calls[i]? = wants[i]?.map fun want ↦ ⟨want, .waiting⟩

namespace Served

theorem exists_finished (h : Served s other t log wants c done ps) (hi : i ∈ done) :
    ∃ want gain, c.calls[i]? = some ⟨want, .finished gain⟩ := by
  obtain ⟨k, hk, rfl⟩ := List.getElem_of_mem hi
  obtain ⟨-, hcall⟩ := h.gains.get hk (h.gains.length_eq ▸ hk)
  exact ⟨_, _, hcall⟩

/-- A call that does not hold the lock has not begun, or it is over. -/
theorem waiting_or_finished (h : Served s other t log wants c done ps)
    (hi : c.holder ≠ some i) (hcall : c.calls[i]? = some ⟨want, stage⟩) :
    i ∉ done ∧ wants[i]? = some want ∧ stage = .waiting ∨ ∃ gain, stage = .finished gain := by
  by_cases hdone : i ∈ done
  · obtain ⟨want', gain, hcall'⟩ := h.exists_finished hdone
    obtain ⟨-, rfl⟩ := getElem?_calls_inj hcall hcall'
    exact .inr ⟨gain, rfl⟩
  · have hwaiting := h.waiting i hdone hi
    rw [hcall] at hwaiting
    obtain ⟨want', hwant', hcall'⟩ := Option.map_eq_some_iff.mp hwaiting.symm
    obtain ⟨rfl, rfl⟩ := Call.mk.inj hcall'
    exact .inl ⟨hdone, hwant', rfl⟩

/-- What the call with the lock does is nothing to the others. -/
theorem of_set (h : Served s other t log wants c done ps) (hi : i ∉ done)
    (hholder : c.holder = none ∨ c.holder = some i) {call : Call}
    (hcalls : c'.calls = c.calls.set i call) (hholder' : c'.holder = some i) :
    Served s other t log wants c' done ps where
  run := h.run
  nodup := h.nodup
  gains := by
    refine List.forall₂_iff_zip.mpr ⟨h.gains.length_eq, fun {j p} hjp ↦ ?_⟩
    obtain ⟨hwant, hcall⟩ := List.forall₂_zip h.gains hjp
    have hj : i ≠ j := fun hij ↦ hi (hij ▸ (List.of_mem_zip hjp).1)
    exact ⟨hwant, by rw [hcalls, List.getElem?_set_ne hj, hcall]⟩
  waiting := by
    intro j hj hne
    have hij : i ≠ j := fun hij ↦ hne (hij ▸ hholder')
    rw [hcalls, List.getElem?_set_ne hij]
    refine h.waiting j hj ?_
    rcases hholder with hnone | hsome
    · rw [hnone]
      exact nofun
    · rw [hsome]
      exact fun heq ↦ hij (Option.some.inj heq)

/-- The pass of the call with the lock is over. -/
theorem concat (h : Served s other t log wants c done ps) (hi : i ∉ done)
    (hholder : c.holder = some i) {call : Call} (hcall : c.calls[i]? = some call) {p : Pass}
    (hp : p.Of s other (Pass.tallyAfter t ps) (Pass.logAfter log ps))
    (hwant : wants[i]? = some p.want)
    (hcalls : c'.calls = c.calls.set i ⟨p.want, .finished (p.gain s)⟩) :
    Served s other t log wants c' (done ++ [i]) (ps ++ [p]) where
  run := h.run.concat hp
  nodup := List.concat_eq_append ▸ h.nodup.concat hi
  gains := by
    refine List.rel_append ?_ (.cons ⟨hwant, ?_⟩ .nil)
    · have hheld : Served s other t log wants { c' with holder := some i } done ps :=
        h.of_set hi (.inr hholder) hcalls rfl
      exact hheld.gains
    · exact getElem?_of_calls_eq_set hcall hcalls
  waiting := by
    intro j hj _
    have hheld : Served s other t log wants { c' with holder := some i } done ps :=
      h.of_set hi (.inr hholder) hcalls rfl
    rw [List.mem_append, List.mem_singleton, not_or] at hj
    exact hheld.waiting j hj.1 fun hij ↦ hj.2 (Option.some.inj hij).symm

end Served

/-- The calls that took the lock, in this order, are served by the passes of a run. The last of them
may still hold the lock; all others that took it have given it back. -/
inductive Serial (s : Scraper) (other : Responder) (t : Tally) (log : Log) (wants : List Want) :
    List Nat → Calls → Prop
  | free {order : List Nat} {c : Calls} {ps : List Pass} :
      Served s other t log wants c order ps → c.holder = none →
      c.tally = Pass.tallyAfter t ps → c.log = Pass.logAfter log ps →
      Serial s other t log wants order c
  | held {done : List Nat} {c : Calls} {ps : List Pass} {i : Nat} {want : Want} {stage : Stage} :
      Served s other t log wants c done ps → c.holder = some i → i ∉ done →
      wants[i]? = some want → c.calls[i]? = some ⟨want, stage⟩ →
      stage.Underway s other (Pass.tallyAfter t ps) (Pass.logAfter log ps) want c.tally c.log →
      Serial s other t log wants (done ++ [i]) c

theorem serial_start (s : Scraper) (other : Responder) (t : Tally) (log : Log)
    (wants : List Want) : Serial s other t log wants [] (start t log wants) := by
  have hserved : Served s other t log wants (start t log wants) [] [] :=
    ⟨.nil, List.nodup_nil, .nil, fun i _ _ ↦ List.getElem?_map ..⟩
  refine .free hserved rfl rfl ?_
  simp [start, Pass.logAfter]

/-- A call that takes a step while the lock is free takes the lock. -/
theorem Serial.take (h : Serial s other t log wants order c) (hstep : Step s other i c c')
    (hfree : c.holder = none) :
    c'.holder = some i ∧ Serial s other t log wants (order ++ [i]) c' := by
  cases h with
  | held _ hholder => exact absurd (hfree.symm.trans hholder) nofun
  | @free _ _ ps hserved _ htally hlog =>
    obtain ⟨want, stage, hcall, hstage⟩ := hstep.exists_call
    have hne : c.holder ≠ some i := by simp [hfree]
    rcases hserved.waiting_or_finished hne hcall with ⟨hi, hwant, rfl⟩ | ⟨gain, rfl⟩
    · rcases hstage with ⟨-, -, rfl⟩ | ⟨hnot, -⟩
      · have hcalls : (c.move i want (.checking s.checkHealth)).calls[i]? =
            some ⟨want, .checking s.checkHealth⟩ := getElem?_of_calls_eq_set hcall rfl
        refine ⟨rfl, .held (hserved.of_set hi (.inl hfree) rfl rfl) rfl hi hwant hcalls ?_⟩
        exact ⟨htally, ⟨[], (List.append_nil _).symm ▸ hlog⟩, hlog ▸ rfl⟩
      · exact absurd rfl hnot
    · rcases hstage with ⟨hwaiting, -⟩ | ⟨-, hnot⟩
      · exact absurd hwaiting nofun
      · exact absurd rfl (hnot gain)

/-- While the lock is held, only its holder takes steps. -/
theorem Serial.step (h : Serial s other t log wants order c) (hstep : Step s other i c c')
    (hheld : c.holder ≠ none) :
    c.holder = some i ∧ Serial s other t log wants order c' := by
  cases h with
  | free _ hfree => exact absurd hfree hheld
  | @held done _ ps k want stage hserved hholder hk hwant hcall hunderway =>
    have hi : i = k := by
      by_contra hne
      obtain ⟨want', stage', hcall', hstage⟩ := hstep.exists_call
      have hnot : c.holder ≠ some i := by
        rw [hholder]
        exact fun heq ↦ hne (Option.some.inj heq).symm
      rcases hstage with ⟨-, hfree, -⟩ | ⟨hwaiting, hfinished⟩
      · exact hheld hfree
      · rcases hserved.waiting_or_finished hnot hcall' with ⟨-, -, hstage⟩ | ⟨gain, hstage⟩
        · exact hwaiting hstage
        · exact hfinished gain hstage
    subst hi
    refine ⟨hholder, ?_⟩
    rcases hstep.underway hholder hcall hunderway with
      ⟨stage', hcalls, hholder', hunderway'⟩ | ⟨p, hp, rfl, hcalls, hfree, htally, hlog⟩
    · exact .held (hserved.of_set hk (.inr hholder) hcalls hholder') hholder' hk hwant
        (getElem?_of_calls_eq_set hcall hcalls) hunderway'
    · refine .free (hserved.concat hk hholder hcall hp hwant hcalls) hfree ?_ ?_
      · rw [Pass.tallyAfter_concat, htally]
      · rw [Pass.logAfter_concat, hlog]

/-- **Calls are served in the order of the lock.** -/
theorem History.serial (h : History s other (Calls.start t log wants) order c) :
    Serial s other t log wants order c := by
  induction h with
  | start => exact serial_start s other t log wants
  | take _ hstep hfree _ ih => exact (ih.take hstep hfree).2
  | step _ hstep hheld ih => exact (ih.step hstep hheld).2

/-! ## Every call comes to its end -/

/-- A call that holds the lock at this stage can go on until it has what it wants and has given the
lock back. -/
def Finishes (s : Scraper) (other : Responder) (i : Nat) (want : Want) (stage : Stage) : Prop :=
  ∀ ⦃c₀ : Calls⦄ ⦃order : List Nat⦄ ⦃c : Calls⦄, History s other c₀ order c → c.holder = some i →
    c.calls[i]? = some ⟨want, stage⟩ → ∃ c' gain, History s other c₀ order c' ∧ c'.holder = none ∧
      c'.calls = c.calls.set i ⟨want, .finished gain⟩

theorem Finishes.of_step (hstep : ∀ c : Calls, c.calls[i]? = some ⟨want, stage⟩ → ∃ c' stage',
      Step s other i c c' ∧ c'.calls = c.calls.set i ⟨want, stage'⟩ ∧ c'.holder = c.holder ∧
        Finishes s other i want stage') :
    Finishes s other i want stage := by
  intro c₀ order c h hholder hcall
  obtain ⟨c₁, stage', hc₁, hcalls, hholder₁, hfinishes⟩ := hstep c hcall
  have hheld : c.holder ≠ none := by simp [hholder]
  have hcall₁ := getElem?_of_calls_eq_set hcall hcalls
  obtain ⟨c', gain, h', hfree, hcalls'⟩ :=
    hfinishes (.step h hc₁ hheld) (hholder₁.trans hholder) hcall₁
  exact ⟨c', gain, h', hfree, by rw [hcalls', hcalls, List.set_set]⟩

theorem finishes_answered (gain : Gain) : Finishes s other i want (.answered gain) := by
  intro c₀ order c h hholder hcall
  have hheld : c.holder ≠ none := by simp [hholder]
  exact ⟨_, gain, .step h (.release hcall) hheld, rfl, rfl⟩

theorem finishes_collected (samples : List Sample) :
    Finishes s other i want (.collected samples) := by
  have hcounted : Finishes s other i want (.counted samples) :=
    .of_step fun c hcall ↦ ⟨_, _, .answer hcall, rfl, rfl, finishes_answered _⟩
  exact .of_step fun c hcall ↦ ⟨_, _, .count hcall, rfl, rfl, hcounted⟩

theorem finishes_updating (tasks : List (Dialogue TaskOutcome)) (joined : List TaskOutcome) :
    Finishes s other i want (.updating tasks joined) := by
  induction tasks generalizing joined with
  | nil => exact .of_step fun c hcall ↦ ⟨_, _, .collect hcall, rfl, rfl, finishes_collected _⟩
  | cons task tasks ih =>
    -- The first task runs to its end and is joined.
    induction task with
    | done o =>
      refine .of_step fun c hcall ↦ ?_
      rw [← List.nil_append (_ :: tasks)] at hcall
      exact ⟨_, _, .join hcall, rfl, rfl, ih _⟩
    | send r next ihtask =>
      refine .of_step fun c hcall ↦ ?_
      rw [← List.nil_append (_ :: tasks)] at hcall
      exact ⟨_, _, .update hcall, rfl, rfl, ihtask _⟩

theorem finishes_checking (check : Dialogue HealthStatus) :
    Finishes s other i want (.checking check) := by
  induction check with
  | done health =>
    refine .of_step fun c hcall ↦ ?_
    cases hup : health.systemUp with
    | true => exact ⟨_, _, .up hcall hup, rfl, rfl, finishes_updating _ _⟩
    | false => exact ⟨_, _, .down hcall hup, rfl, rfl, finishes_collected _⟩
  | send r next ih => exact .of_step fun c hcall ↦ ⟨_, _, .check hcall, rfl, rfl, ih _⟩

theorem finishes_of_underway {t' : Tally} {log' : Log}
    (h : stage.Underway s other t log want t' log') : Finishes s other i want stage := by
  cases stage with
  | waiting => exact h.elim
  | checking check => exact finishes_checking check
  | updating tasks joined => exact finishes_updating tasks joined
  | collected samples => exact finishes_collected samples
  | counted samples =>
    exact .of_step fun c hcall ↦ ⟨_, _, .answer hcall, rfl, rfl, finishes_answered _⟩
  | answered gain => exact finishes_answered gain
  | finished gain => exact h.elim

/-- Whatever the calls have done so far, the lock can become free. -/
theorem History.exists_free (h : History s other (Calls.start t log wants) order c) :
    ∃ c', History s other (Calls.start t log wants) order c' ∧ c'.holder = none := by
  cases h.serial with
  | free _ hfree => exact ⟨c, h, hfree⟩
  | held _ hholder _ _ hcall hunderway =>
    obtain ⟨c', -, h', hfree, -⟩ := finishes_of_underway hunderway h hholder hcall
    exact ⟨c', h', hfree⟩

/-- While the lock is free, any call can be brought to its end, and the others stay where they
are. -/
theorem History.exists_finished (h : History s other (Calls.start t log wants) order c)
    (hfree : c.holder = none) (n : Nat) :
    ∃ more c', History s other (Calls.start t log wants) (order ++ more) c' ∧ c'.holder = none ∧
      (∀ j ≠ n, c'.calls[j]? = c.calls[j]?) ∧
      ∀ call : Call, c'.calls[n]? = some call → ∃ gain, call.stage = .finished gain := by
  cases hcall : c.calls[n]? with
  | none =>
    refine ⟨[], c, (List.append_nil order).symm ▸ h, hfree, fun _ _ ↦ rfl, fun call hcall' ↦ ?_⟩
    exact absurd (hcall.symm.trans hcall') nofun
  | some call =>
    obtain ⟨want, stage⟩ := call
    cases h.serial with
    | held _ hholder => exact absurd (hfree.symm.trans hholder) nofun
    | free hserved _ _ _ =>
      have hne : c.holder ≠ some n := by simp [hfree]
      rcases hserved.waiting_or_finished hne hcall with ⟨-, -, rfl⟩ | ⟨gain, rfl⟩
      · have htaken : (c.move n want (.checking s.checkHealth)).calls[n]? =
            some ⟨want, .checking s.checkHealth⟩ := getElem?_of_calls_eq_set hcall rfl
        obtain ⟨c', gain, h', hfree', hcalls⟩ :=
          finishes_checking s.checkHealth (.take h (.take hcall hfree) hfree rfl) rfl htaken
        rw [move, List.set_set] at hcalls
        refine ⟨[n], c', h', hfree', fun j hj ↦ ?_, fun call hcall' ↦ ⟨gain, ?_⟩⟩
        · rw [hcalls, List.getElem?_set_ne hj.symm]
        · have hfinished := getElem?_of_calls_eq_set hcall hcalls
          rw [← Option.some.inj (hfinished.symm.trans hcall')]
      · refine ⟨[], c, (List.append_nil order).symm ▸ h, hfree, fun _ _ ↦ rfl,
          fun call hcall' ↦ ⟨gain, ?_⟩⟩
        rw [← Option.some.inj (hcall.symm.trans hcall')]

/-- **Every call can come to its end.** -/
theorem History.exists_done (h : History s other (Calls.start t log wants) order c) :
    ∃ more c', History s other (Calls.start t log wants) (order ++ more) c' ∧ c'.Done := by
  -- The calls are brought to their end one after the other.
  have hupTo (n : Nat) :
      ∃ more c', History s other (Calls.start t log wants) (order ++ more) c' ∧ c'.holder = none ∧
        ∀ j < n, ∀ call : Call, c'.calls[j]? = some call →
          ∃ gain, call.stage = .finished gain := by
    induction n with
    | zero =>
      obtain ⟨c', h', hfree⟩ := h.exists_free
      exact ⟨[], c', (List.append_nil order).symm ▸ h', hfree, nofun⟩
    | succ n ih =>
      obtain ⟨more, c₁, h₁, hfree₁, hdone⟩ := ih
      obtain ⟨more', c', h', hfree', hsame, hlast⟩ := h₁.exists_finished hfree₁ n
      refine ⟨more ++ more', c', List.append_assoc order more more' ▸ h', hfree', ?_⟩
      intro j hj call hcall
      rcases Nat.lt_succ_iff_lt_or_eq.mp hj with hlt | rfl
      · rw [hsame j hlt.ne] at hcall
        exact hdone j hlt call hcall
      · exact hlast call hcall
  obtain ⟨more, c', h', -, hdone⟩ := hupTo wants.length
  refine ⟨more, c', h', fun call hcall ↦ ?_⟩
  obtain ⟨j, hj, rfl⟩ := List.getElem_of_mem hcall
  exact hdone j (h'.length_calls ▸ hj) _ (List.getElem?_eq_getElem hj)

/-! ## The law of calls at the same time -/

/-- The calls that took the lock, in this order, are served one after the other by the passes of a
run, each by its own. -/
structure InTurn (s : Scraper) (other : Responder) (t : Tally) (log : Log) (wants : List Want)
    (order : List Nat) (c : Calls) (ps : List Pass) : Prop where
  run : Run s other t log ps
  /-- A call takes the lock once. -/
  nodup : order.Nodup
  /-- It gets what its pass gives. -/
  served : List.Forall₂ (fun i p ↦ wants[i]? = some p.want ∧
    ∃ stage, c.calls[i]? = some ⟨p.want, stage⟩ ∧
      ∀ gain, stage = .answered gain ∨ stage = .finished gain → gain = p.gain s) order ps
  waiting : ∀ i ∉ order, c.calls[i]? = wants[i]?.map fun want ↦ ⟨want, .waiting⟩
  /-- While the lock is free, no pass is half done: the log is made of whole passes. -/
  free : c.holder = none → (∀ i ∈ order, ∃ want gain, c.calls[i]? = some ⟨want, .finished gain⟩) ∧
    c.tally = Pass.tallyAfter t ps ∧ c.log = Pass.logAfter log ps
  /-- The call that holds the lock is the last that took it. All before it have what they want, and
  the log is made of their passes and of the first part of its own. -/
  held : ∀ i, c.holder = some i → ∃ done before p part, order = done ++ [i] ∧ ps = before ++ [p] ∧
    (∀ j ∈ done, ∃ want gain, c.calls[j]? = some ⟨want, .finished gain⟩) ∧
    c.log = Pass.logAfter log before ++ part ∧ part <+: p.exchanges

theorem Served.forall₂_served (h : Served s other t log wants c done ps) :
    List.Forall₂ (fun i p ↦ wants[i]? = some p.want ∧
      ∃ stage, c.calls[i]? = some ⟨p.want, stage⟩ ∧
        ∀ gain, stage = .answered gain ∨ stage = .finished gain → gain = p.gain s) done ps := by
  refine h.gains.imp fun i p ⟨hwant, hcall⟩ ↦ ⟨hwant, _, hcall, fun gain hgain ↦ ?_⟩
  rcases hgain with hgain | hgain
  · exact absurd hgain nofun
  · exact (Stage.finished.inj hgain).symm

theorem Serial.exists_inTurn (h : Serial s other t log wants order c) :
    ∃ ps, InTurn s other t log wants order c ps := by
  cases h with
  | @free _ _ ps hserved hfree htally hlog =>
    refine ⟨ps, hserved.run, hserved.nodup, hserved.forall₂_served, fun i hi ↦ ?_, fun _ ↦ ?_,
      fun i hi ↦ ?_⟩
    · exact hserved.waiting i hi (by simp [hfree])
    · exact ⟨fun i hi ↦ hserved.exists_finished hi, htally, hlog⟩
    · exact absurd (hfree.symm.trans hi) nofun
  | @held done _ ps i want stage hserved hholder hi hwant hcall hunderway =>
    obtain ⟨p, part, rest, hp, rfl, hlog, hexchanges, hgain⟩ := hunderway.exists_pass
    refine ⟨ps ++ [p], hserved.run.concat hp, ?_, ?_, fun j hj ↦ ?_, fun hfree ↦ ?_, fun j hj ↦ ?_⟩
    · exact List.concat_eq_append ▸ hserved.nodup.concat hi
    · refine List.rel_append hserved.forall₂_served (.cons ⟨hwant, stage, hcall, ?_⟩ .nil)
      rintro gain (hanswered | hfinished)
      · exact hgain gain hanswered
      · exact absurd hunderway (by rw [hfinished]; exact not_false)
    · rw [List.mem_append, List.mem_singleton, not_or] at hj
      refine hserved.waiting j hj.1 ?_
      rw [hholder]
      exact fun heq ↦ hj.2 (Option.some.inj heq).symm
    · exact absurd (hfree.symm.trans hholder) nofun
    · obtain rfl := Option.some.inj (hholder.symm.trans hj)
      exact ⟨done, ps, p, part, rfl, rfl, fun j hj ↦ hserved.exists_finished hj, hlog,
        hexchanges ▸ List.prefix_append part rest⟩

/-- When all calls have what they want, each has taken the lock. -/
theorem InTurn.perm_range (h : InTurn s other t log wants order c ps) (hdone : c.Done) :
    order.Perm (List.range wants.length) := by
  refine (List.perm_ext_iff_of_nodup h.nodup List.nodup_range).mpr fun i ↦ ?_
  rw [List.mem_range]
  constructor
  · intro hi
    obtain ⟨k, hk, rfl⟩ := List.getElem_of_mem hi
    obtain ⟨hwant, -⟩ := h.served.get hk (h.served.length_eq ▸ hk)
    exact (List.getElem?_eq_some_iff.mp hwant).1
  · intro hi
    by_contra hnot
    have hcall := h.waiting i hnot
    rw [List.getElem?_eq_getElem hi] at hcall
    obtain ⟨gain, hgain⟩ := hdone _ (List.mem_of_getElem? hcall)
    exact absurd hgain nofun

end

end Calls

/-- What the document of the pass `p` shows of the exporter itself, when `before` are the passes
before it and `fs` the families of its samples. -/
structure Pass.Shows (s : Scraper) (before : List Pass) (p : Pass) (fs : List Family) : Prop where
  /-- The document is that of the pass. -/
  gain_eq : p.want = .document →
    p.gain s = .document (.ok (Exposition.render (fs ++ p.tally.families)))
  /-- It is read back as these families. -/
  readable : Exposition.read? (Exposition.render (fs ++ p.tally.families)) =
    some ((fs ++ p.tally.families).map Exposition.familyText)
  scrapes_iff : ∀ v, Exposes (fs ++ p.tally.families) "opnsense_exporter_scrapes_total"
    [(Descriptor.instanceLabel, s.monitored)] v ↔ v = Double.ofNat (before.length + 1)
  up_iff : ∀ v, Exposes (fs ++ p.tally.families) "opnsense_up"
    [(Descriptor.instanceLabel, s.monitored)] v ↔ v = Double.ofBool p.health.systemUp
  firewall_iff : ∀ v, Exposes (fs ++ p.tally.families) "opnsense_firewall_status"
    [(Descriptor.instanceLabel, s.monitored)] v ↔ v = Double.ofBool p.health.firewallOk
  /-- The errors of all passes so far are counted. -/
  errors_iff : ∀ e v, Exposes (fs ++ p.tally.families) "opnsense_exporter_endpoint_errors_total"
      [("endpoint", e), (Descriptor.instanceLabel, s.monitored)] v ↔
    (e ∈ s.client.endpoints.keys ∨ 0 < ((before ++ [p]).map fun q ↦ q.failures s e).sum) ∧
      v = Double.ofNat ((before ++ [p]).map fun q ↦ q.failures s e).sum

/-- The families of the samples leave the names of the exporter's own metrics alone. -/
theorem exposes_append_own_iff {s : Scraper} (hs : s.collectors ⊆ Registry.all) {p : Pass}
    {fs gs : List Family} (hfs : passFamilies s.descriptors p.samples = .ok fs) {name : String}
    (hname : name ∈ Tally.ownNames) {labels : List (String × String)} {v : Double} :
    Exposes (fs ++ gs) name labels v ↔ Exposes gs name labels v := by
  constructor
  · rintro ⟨f, hf, rfl, hsr⟩
    rcases List.mem_append.mp hf with hf | hf
    · obtain ⟨d, hget, hd, -⟩ := exists_descriptor_of_mem_passFamilies hs hfs hf
      obtain ⟨-, c, hc, hdc⟩ := Registry.exists_of_get?_descriptorTable hget
      exact absurd (hd ▸ hname) (Registry.not_own (hs hc) hdc).1
    · exact ⟨f, hf, rfl, hsr⟩
  · rintro ⟨f, hf, rfl, hsr⟩
    exact ⟨f, List.mem_append_right fs hf, rfl, hsr⟩

theorem Run.exists_shows {s : Scraper} (hs : s.collectors ⊆ Registry.all)
    {process : Option ProcessReading} {other : Responder} {log : Log} {before after : List Pass}
    {p : Pass} (h : Run s other (s.freshTally process) log (before ++ p :: after)) :
    ∃ fs, passFamilies s.descriptors p.samples = .ok fs ∧ p.Shows s before fs := by
  obtain ⟨t, log', hp, hmonitored, hscrapes, hcounts⟩ := h.counts (Tally.counts_fresh _ _ _)
  obtain ⟨errors, htally⟩ := hp.exists_tally_eq
  have hcounts' := hp.counts hcounts
  have hpair : p.tally.instancePair = (Descriptor.instanceLabel, s.monitored) := by
    rw [Tally.instancePair, htally, hmonitored]
    rfl
  have hhealth : p.tally.health = p.health := by rw [htally]
  have hscrapes' : p.tally.scrapes = before.length + 1 := by
    rw [htally, hscrapes]
    exact congrArg (· + 1) (Nat.zero_add _)
  obtain ⟨fs, hfs⟩ : ∃ fs, passFamilies s.descriptors p.samples = .ok fs :=
    ⟨_, (Registry.wellFormed_descriptorTable hs).passFamilies p.samples⟩
  refine ⟨fs, hfs, ?_⟩
  constructor
  case gain_eq =>
    intro hwant
    rw [Pass.gain, hwant, Calls.gainOf, p.tally.passDocument_eq_ok hfs]
  case readable => exact p.tally.read?_render_append hfs
  case scrapes_iff =>
    intro v
    rw [exposes_append_own_iff hs hfs (by decide), ← hpair, Tally.exposes_scrapes_iff, hscrapes']
  case up_iff =>
    intro v
    rw [exposes_append_own_iff hs hfs (by decide), ← hpair, Tally.exposes_up_iff, hhealth]
  case firewall_iff =>
    intro v
    rw [exposes_append_own_iff hs hfs (by decide), ← hpair, Tally.exposes_firewall_iff, hhealth]
  case errors_iff =>
    intro e v
    rw [exposes_append_own_iff hs hfs (by decide), ← hpair, hcounts'.exposes_errors_iff]
    simp

/-- **Calls at the same time are passes one after the other.** Whatever steps the calls have taken,
they are served by the passes of a run in the order in which they took the lock, and what such a
pass shows comes from it and the passes before it. No step leads out of a history, and every history
can be continued until all calls have what they want. -/
theorem Calls.History.serialized {s : Scraper} (hs : s.collectors ⊆ Registry.all)
    {process : Option ProcessReading} {other : Responder} {log : Log} {wants : List Want}
    {order : List Nat} {c : Calls}
    (h : History s other (Calls.start (s.freshTally process) log wants) order c) :
    ∃ ps, InTurn s other (s.freshTally process) log wants order c ps ∧
      (∀ before p after, ps = before ++ p :: after →
        ∃ fs, passFamilies s.descriptors p.samples = .ok fs ∧ p.Shows s before fs) ∧
      (c.Done → order.Perm (List.range wants.length)) ∧
      (∀ i c', Step s other i c c' →
        History s other (Calls.start (s.freshTally process) log wants)
          (if c.holder = none then order ++ [i] else order) c') ∧
      ∃ more c', History s other (Calls.start (s.freshTally process) log wants)
        (order ++ more) c' ∧ c'.Done := by
  obtain ⟨ps, hps⟩ := h.serial.exists_inTurn
  refine ⟨ps, hps, ?_, hps.perm_range, ?_, h.exists_done⟩
  · rintro before p after rfl
    exact hps.run.exists_shows hs
  · intro i c' hstep
    by_cases hfree : c.holder = none
    · rw [if_pos hfree]
      exact .take h hstep hfree (h.serial.take hstep hfree).1
    · rw [if_neg hfree]
      exact .step h hstep hfree

theorem Calls.History.serialized_ofTables :
    Scraper.ofTables.collectors ⊆ Registry.all ∧ ∃ order c ps,
      History .ofTables .steady (Calls.start (Scraper.ofTables.freshTally none) []
        [.document, .samples]) order c ∧ c.Done ∧ order.Perm [0, 1] ∧
      InTurn .ofTables .steady (Scraper.ofTables.freshTally none) [] [.document, .samples]
        order c ps := by
  have hs : Scraper.ofTables.collectors ⊆ Registry.all := Scraper.stock_ofTables.subperm.subset
  obtain ⟨order, c, h, hdone⟩ : ∃ order c, History .ofTables .steady
      (Calls.start (Scraper.ofTables.freshTally none) [] [.document, .samples]) order c ∧
      c.Done := (History.start).exists_done
  obtain ⟨ps, hps, -, hperm, -⟩ := serialized hs h
  exact ⟨hs, order, c, ps, h, hdone, hperm hdone, hps⟩

end FirewallExporter
