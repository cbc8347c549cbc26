import Mathlib
import FirewallExporter.Api.Interleaving

/-!
# What a dialogue depends on

A dialogue has a *footprint*: a set of paths that all its requests are for (`Dialogue.Within`). A
responder that keeps its paths apart answers by what was exchanged on the path of the request, so
a dialogue cannot tell what happens outside its footprint: run against two responders that agree on
the footprint, after two logs that agree on it, it ends with the same result and sends the same
requests (`run_congr`).

## Interleaving

The same holds of each of several dialogues that run at the same time, as long as no other one
enters its footprint (`Interleaved.alone`). The invariant of that induction speaks of one dialogue
at a time and lets the comparison run start from any log that agrees with the shared one on the
footprint, so steps of the other dialogues preserve it for free. Nothing is assumed of the paths
outside the footprint; there the responder may answer by all that was ever exchanged.
-/

namespace FirewallExporter

/-! ## Logs path by path -/

namespace Log

/-- The exchanges about a path, in order. -/
def onPath (log : Log) (path : String) : Log := log.filter fun e ↦ e.request.path == path

/-- Two logs tell the same about every path of a set. -/
def AgreeOn (P : Set String) (a b : Log) : Prop := ∀ path ∈ P, a.onPath path = b.onPath path

theorem onPath_append (a b : Log) (path : String) :
    onPath (a ++ b) path = a.onPath path ++ b.onPath path :=
  List.filter_append ..

/-- What both logs begin with says nothing about how they go on. -/
theorem onPath_append_inj (log a b : Log) (path : String) :
    onPath (log ++ a) path = onPath (log ++ b) path ↔ a.onPath path = b.onPath path := by
  rw [onPath_append, onPath_append, List.append_right_inj]

theorem AgreeOn.refl (P : Set String) (a : Log) : AgreeOn P a a := fun _ _ ↦ rfl

theorem AgreeOn.trans {P : Set String} {a b c : Log} (h : AgreeOn P a b) (h' : AgreeOn P b c) :
    AgreeOn P a c :=
  fun path hp ↦ (h path hp).trans (h' path hp)

end Log

/-! ## Responders that keep paths apart -/

/-- On the paths of a set both responders give the same answer to the same request, as long as the
same was exchanged on its path before. -/
def Responder.Agree (P : Set String) (one two : Responder) : Prop :=
  ∀ ⦃log log' : Log⦄ ⦃r : Request⦄, r.path ∈ P → log.onPath r.path = log'.onPath r.path →
    one log r = two log' r

/-- A responder whose answers depend on the request and on what was exchanged on its path. -/
def Responder.Local (other : Responder) : Prop := other.Agree Set.univ other

namespace Responder

theorem Agree.mono {P Q : Set String} {one two : Responder} (h : one.Agree Q two) (hPQ : P ⊆ Q) :
    one.Agree P two :=
  fun _ _ _ hr hlog ↦ h (hPQ hr) hlog

theorem Agree.right {P : Set String} {one two : Responder} (h : one.Agree P two) :
    two.Agree P two :=
  fun log _ r hr hlog ↦ (@h log log r hr rfl).symm.trans (h hr hlog)

theorem Local.agree {other : Responder} (h : other.Local) (P : Set String) : other.Agree P other :=
  h.mono (Set.subset_univ P)

/-- Responders that answer by the path and by the number of requests before agree where their
replies do. -/
theorem agree_perPath {P : Set String} {reply reply' : String → Nat → Outcome}
    (h : ∀ path ∈ P, reply path = reply' path) : (perPath reply).Agree P (perPath reply') := by
  intro log log' r hr hlog
  rw [perPath, perPath, List.countP_eq_length_filter, List.countP_eq_length_filter, h _ hr]
  exact congrArg (fun l : Log ↦ reply' r.path l.length) hlog

theorem local_perPath (reply : String → Nat → Outcome) : (perPath reply).Local :=
  agree_perPath fun _ _ ↦ rfl

end Responder

namespace Dialogue

variable {α β : Type}

theorem agreeOn_logAfter {P : Set String} {one two : Responder} (h : one.Agree P two)
    {log log' : Log} (hlog : log.AgreeOn P log') {r : Request} (hr : r.path ∈ P) :
    (logAfter one log r).AgreeOn P (logAfter two log' r) := by
  intro path hp
  rw [logAfter, logAfter, Log.onPath_append, Log.onPath_append, hlog path hp,
    h hr (hlog _ hr)]

theorem onPath_logAfter_of_ne (other : Responder) (log : Log) {r : Request} {path : String}
    (hr : r.path ≠ path) : (logAfter other log r).onPath path = log.onPath path := by
  have hnil : Log.onPath [⟨r, other log r⟩] path = [] := by simp [Log.onPath, hr]
  rw [logAfter, Log.onPath_append, hnil, List.append_nil]

/-! ## Footprints and results -/

/-- Every request that can be sent is for a path of the set. -/
def Within (P : Set String) : Dialogue α → Prop
  | done _ => True
  | send r next => r.path ∈ P ∧ ∀ o, (next o).Within P

/-- Every result that can be reached satisfies the predicate. -/
def Ends (Q : α → Prop) : Dialogue α → Prop
  | done a => Q a
  | send _ next => ∀ o, (next o).Ends Q

theorem Within.mono {P Q : Set String} (hPQ : P ⊆ Q) {d : Dialogue α} (h : d.Within P) :
    d.Within Q := by
  induction d with
  | done a => trivial
  | send r next ih => exact ⟨hPQ h.1, fun o ↦ ih o (h.2 o)⟩

theorem within_univ (d : Dialogue α) : d.Within Set.univ := by
  induction d with
  | done a => trivial
  | send r next ih => exact ⟨Set.mem_univ _, ih⟩

theorem Within.bind {P : Set String} {d : Dialogue α} (h : d.Within P) {f : α → Dialogue β}
    (hf : ∀ a, (f a).Within P) : (d.bind f).Within P := by
  induction d with
  | done a => exact hf a
  | send r next ih => exact ⟨h.1, fun o ↦ ih o (h.2 o)⟩

theorem Ends.bind {Q : α → Prop} {R : β → Prop} {d : Dialogue α} (h : d.Ends Q)
    {f : α → Dialogue β} (hf : ∀ a, Q a → (f a).Ends R) : (d.bind f).Ends R := by
  induction d with
  | done a => exact hf a h
  | send r next ih => exact fun o ↦ ih o (h o)

theorem ends_true (d : Dialogue α) : d.Ends fun _ ↦ True := by
  induction d with
  | done a => trivial
  | send r next ih => exact ih

theorem Ends.run {Q : α → Prop} {d : Dialogue α} (h : d.Ends Q) (other : Responder) (log : Log) :
    Q (d.run other log).1 := by
  induction d generalizing log with
  | done a => exact h
  | send r next ih => exact ih _ (h _) _

/-! ## Runs -/

/-- A run only adds to the log. -/
theorem exists_run_eq (other : Responder) (d : Dialogue α) (log : Log) :
    ∃ a new, d.run other log = (a, log ++ new) := by
  induction d generalizing log with
  | done a => exact ⟨a, [], by rw [run_done, List.append_nil]⟩
  | send r next ih =>
    obtain ⟨a, new, h⟩ := ih (other log r) (logAfter other log r)
    exact ⟨a, ⟨r, other log r⟩ :: new, by rw [Dialogue.run, h, logAfter, List.append_assoc]; rfl⟩

/-- A run adds requests for the paths of the footprint only. -/
theorem Within.mem_of_run {P : Set String} {d : Dialogue α} (h : d.Within P) (other : Responder)
    (log : Log) :
    ∃ new : Log, (d.run other log).2 = log ++ new ∧ ∀ e ∈ new, e.request.path ∈ P := by
  induction d generalizing log with
  | done a => exact ⟨[], by simp, by simp⟩
  | send r next ih =>
    obtain ⟨new, hnew, hmem⟩ := ih (other log r) (h.2 _) (logAfter other log r)
    refine ⟨⟨r, other log r⟩ :: new, ?_, ?_⟩
    · rw [Dialogue.run, hnew, logAfter, List.append_assoc]
      rfl
    · exact List.forall_mem_cons.mpr ⟨h.1, hmem⟩

theorem Within.onPath_run {P : Set String} {d : Dialogue α} (h : d.Within P) (other : Responder)
    (log : Log) {path : String} (hp : path ∉ P) :
    (d.run other log).2.onPath path = log.onPath path := by
  obtain ⟨new, hnew, hmem⟩ := h.mem_of_run other log
  have hnil : new.onPath path = [] := by
    refine List.filter_eq_nil_iff.mpr fun e he heq ↦ ?_
    exact hp (beq_iff_eq.mp heq ▸ hmem e he)
  rw [hnew, Log.onPath_append, hnil, List.append_nil]

/-- **A dialogue sees its footprint only.** -/
theorem run_congr {P : Set String} {one two : Responder} (h : one.Agree P two) {d : Dialogue α}
    (hd : d.Within P) {log log' : Log} (hlog : log.AgreeOn P log') :
    (d.run one log).1 = (d.run two log').1 ∧
      (d.run one log).2.AgreeOn P (d.run two log').2 := by
  induction d generalizing log log' with
  | done a => exact ⟨rfl, hlog⟩
  | send r next ih =>
    have hr : one log r = two log' r := h hd.1 (hlog _ hd.1)
    rw [Dialogue.run, Dialogue.run, hr]
    exact ih _ (hd.2 _) (agreeOn_logAfter h hlog hd.1)

/-! ## Interleaved runs -/

private theorem forall₂_middle {α β : Type} {R : α → β → Prop} {before after : List α} {x y : α}
    {bs : List β} (h : List.Forall₂ R (before ++ x :: after) bs) (hxy : ∀ b, R x b → R y b) :
    List.Forall₂ R (before ++ y :: after) bs := by
  induction before generalizing bs with
  | nil =>
    cases h with
    | cons hfirst hrest => exact .cons (hxy _ hfirst) hrest
  | cons a before ih =>
    cases h with
    | cons hfirst hrest => exact .cons hfirst (ih hrest)

/-- Whatever else goes on, each of several dialogues ends in one of the ways that it can. -/
theorem Interleaved.forall₂_ends {other : Responder} {ds : List (Dialogue α)} {log log' : Log}
    {as : List α} (h : Interleaved other ds log as log') :
    List.Forall₂ (fun d a ↦ ∀ Q : α → Prop, d.Ends Q → Q a) ds as := by
  induction h with
  | finish as log =>
    exact List.forall₂_map_left_iff.mpr (List.forall₂_same.mpr fun a _ Q hQ ↦ hQ)
  | step _ ih => exact forall₂_middle ih fun a ha Q hQ ↦ ha Q (hQ _)

theorem Interleaved.length_eq {other : Responder} {ds : List (Dialogue α)} {log log' : Log}
    {as : List α} (h : Interleaved other ds log as log') : as.length = ds.length := by
  induction h with
  | finish as log => rw [List.length_map]
  | step _ ih => rw [ih, List.length_append, List.length_append, List.length_cons, List.length_cons]

theorem Interleaved.onPath_of_within {other : Responder} {ds : List (Dialogue α)} {log log' : Log}
    {as : List α} (h : Interleaved other ds log as log') {path : String}
    (hds : ∀ d ∈ ds, d.Within {path}ᶜ) : log'.onPath path = log.onPath path := by
  induction h with
  | finish as log => rfl
  | @step before after r next log log' as _ ih =>
    have hd := hds (.send r next) (by simp)
    rw [ih, onPath_logAfter_of_ne other log hd.1]
    intro d' hd'
    rcases List.mem_append.mp hd' with hd' | hd'
    · exact hds d' (List.mem_append_left _ hd')
    · rcases List.mem_cons.mp hd' with rfl | hd'
      · exact hd.2 _
      · exact hds d' (List.mem_append_right _ (List.mem_cons_of_mem _ hd'))

/-- **Each of several dialogues runs as if it were alone.** A family of dialogues that run at the
same time has a result for each of them. It is one that the dialogue can reach; and where no other
dialogue enters the footprint of a dialogue, its result and the exchanges in the footprint are
those of a run alone, against any responder and after any log that look the same there. -/
theorem Interleaved.alone {ι : Type} [Nonempty α] {cs : List ι} (hcs : cs.Nodup)
    {d : ι → Dialogue α} {one : Responder} {log log' : Log} {as : List α}
    (h : Interleaved one (cs.map d) log as log') :
    ∃ g : ι → α, as = cs.map g ∧ ∀ c ∈ cs, (∀ Q : α → Prop, (d c).Ends Q → Q (g c)) ∧
      ∀ (P : Set String) (two : Responder) (log₂ : Log), (d c).Within P →
        (∀ c' ∈ cs, c' ≠ c → (d c').Within Pᶜ) → one.Agree P two → log.AgreeOn P log₂ →
        g c = ((d c).run two log₂).1 ∧ log'.AgreeOn P ((d c).run two log₂).2 := by
  classical
  generalize hds : cs.map d = ds at h
  induction h generalizing d with
  | finish as log =>
    have hdone : ∀ c : ι, ∃ a, c ∈ cs → d c = done a := by
      intro c
      by_cases hc : c ∈ cs
      · have hmem : d c ∈ as.map done := hds ▸ List.mem_map_of_mem hc
        obtain ⟨a, -, ha⟩ := List.mem_map.mp hmem
        exact ⟨a, fun _ ↦ ha.symm⟩
      · exact ⟨Classical.arbitrary α, fun hc' ↦ absurd hc' hc⟩
    choose g hg using hdone
    refine ⟨g, ?_, fun c hc ↦ ⟨fun Q hQ ↦ ?_, fun P two log₂ _ _ _ hlog ↦ ?_⟩⟩
    · have hmap : as.map done = (cs.map g).map done := by
        rw [← hds, List.map_map]
        exact List.map_congr_left hg
      exact List.map_injective_iff.mpr (fun _ _ h ↦ done.inj h) hmap
    · rw [hg c hc] at hQ
      exact hQ
    · rw [hg c hc]
      exact ⟨rfl, hlog⟩
  | @step before after r next log log' as _ ih =>
    obtain ⟨cb, crest, rfl, hb, hrest⟩ := List.map_eq_append_iff.mp hds
    obtain ⟨c, ca, rfl, hc, ha⟩ := List.map_eq_cons_iff.mp hrest
    have hcb : c ∉ cb := fun hm ↦
      (List.nodup_append.mp hcs).2.2 c hm c List.mem_cons_self rfl
    have hca : c ∉ ca := (List.nodup_cons.mp (List.nodup_append.mp hcs).2.1).1
    -- The step makes another family of dialogues, in which only that of `c` has moved on.
    set d' : ι → Dialogue α := Function.update d c (next (one log r)) with hd'
    have hsame : ∀ c₀ ≠ c, d' c₀ = d c₀ := fun c₀ h₀ ↦ Function.update_of_ne h₀ _ _
    have hself : d' c = next (one log r) := Function.update_self _ _ _
    have hds' : (cb ++ c :: ca).map d' = before ++ next (one log r) :: after := by
      rw [List.map_append, List.map_cons, hself, ← hb, ← ha]
      congr 1
      · exact List.map_congr_left fun x hx ↦ hsame x fun hxc ↦ hcb (hxc ▸ hx)
      · congr 1
        exact List.map_congr_left fun x hx ↦ hsame x fun hxc ↦ hca (hxc ▸ hx)
    obtain ⟨g, has, hg⟩ := ih hds'
    refine ⟨g, has, fun c₀ hc₀ ↦ ?_⟩
    obtain ⟨hends, hrun⟩ := hg c₀ hc₀
    by_cases h₀ : c₀ = c
    · subst h₀
      rw [hself] at hends hrun
      refine ⟨fun Q hQ ↦ hends Q ?_, fun P two log₂ hin hout hagree hlog ↦ ?_⟩
      · rw [hc] at hQ
        exact hQ _
      · rw [hc] at hin
        -- The run alone takes the same step.
        have hr : one log r = two log₂ r := hagree hin.1 (hlog _ hin.1)
        rw [hc, Dialogue.run, ← hr]
        refine hrun P two _ (hin.2 _) (fun c' hc' hne ↦ ?_) hagree
          (agreeOn_logAfter hagree hlog hin.1)
        rw [hsame c' hne]
        exact hout c' hc' hne
    · rw [hsame c₀ h₀] at hends hrun
      refine ⟨hends, fun P two log₂ hin hout hagree hlog ↦ ?_⟩
      have hstep : (d c).Within Pᶜ := hout c (by simp) (Ne.symm h₀)
      rw [hc] at hstep
      -- The run alone stands still: the step is off its footprint.
      refine hrun P two log₂ hin (fun c' hc' hne ↦ ?_) hagree fun path hp ↦ ?_
      · by_cases h' : c' = c
        · subst h'
          rw [hself]
          exact hstep.2 _
        · rw [hsame c' h']
          exact hout c' hc' hne
      · rw [onPath_logAfter_of_ne one log fun heq ↦ hstep.1 (heq ▸ hp)]
        exact hlog path hp

end Dialogue

end FirewallExporter
