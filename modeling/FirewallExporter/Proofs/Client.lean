import FirewallExporter.Api.Client
import FirewallExporter.Proofs.Dialogue
import FirewallExporter.Proofs.Utf8

/-!
# What a call comes to

A call sends one request over and over until something answers. What comes of the attempts is told
by `Dialogue.attempt`, which asks the responder directly and knows of no call, so the number of
requests can be compared with the place of the first answer. Any sequence of outcomes can come of
the attempts (`Dialogue.attempt_tape`). That the loop ends with the first answer, and that it ends
after its last attempt, is one induction (`run_sendUpTo`).

The first response alone decides the result. `Verdict` states what it decides: a body that cannot be
read comes before a bad status, and a bad status before a body that does not decode.
-/

namespace FirewallExporter

namespace Dialogue

/-! ## Attempts -/

/-- What comes of sending a request once more when it has been sent `n` times after the log. -/
def attempt (other : Responder) (r : Request) : Log → Nat → Outcome
  | log, 0 => other log r
  | log, n + 1 => attempt other r (logAfter other log r) n

/-- The exchanges of the first `n` attempts. -/
def attempts (other : Responder) (r : Request) (log : Log) (n : Nat) : Log :=
  (List.range n).map fun i ↦ ⟨r, attempt other r log i⟩

theorem attempts_succ (other : Responder) (r : Request) (log : Log) (n : Nat) :
    attempts other r log (n + 1) =
      ⟨r, other log r⟩ :: attempts other r (logAfter other log r) n := by
  rw [attempts, List.range_succ_eq_map, List.map_cons, List.map_map]
  rfl

/-- All attempts send the same request. -/
theorem sent_attempts (other : Responder) (r : Request) (log : Log) (n : Nat) :
    (attempts other r log n).sent = List.replicate n r := by
  rw [Log.sent, attempts, List.map_map]
  refine List.map_const'.trans ?_
  rw [List.length_range]

/-- A responder can give any sequence of outcomes to the attempts of a call. -/
theorem attempt_tape (outcome : Nat → Outcome) (r : Request) (log : Log) (n : Nat) :
    attempt (fun later _ ↦ outcome (later.length - log.length)) r log n = outcome n := by
  suffices htape : ∀ later : Log, log.length ≤ later.length →
      attempt (fun later _ ↦ outcome (later.length - log.length)) r later n =
        outcome (later.length - log.length + n) by
    rw [htape log le_rfl, Nat.sub_self, Nat.zero_add]
  induction n with
  | zero => exact fun later _ ↦ rfl
  | succ n ih =>
    intro later hlater
    have hlength : (logAfter (fun later _ ↦ outcome (later.length - log.length)) later r).length =
        later.length + 1 := by
      rw [logAfter, List.length_append, List.length_singleton]
    rw [attempt, ih _ (by omega), hlength]
    congr 1
    omega

end Dialogue

namespace Client

open Dialogue (attempt attempts)

/-! ## The first answer -/

/-- None of the first `n` attempts is answered. -/
def Silent (other : Responder) (r : Request) (log : Log) (n : Nat) : Prop :=
  ∀ i < n, (attempt other r log i).response? = none

/-- The attempt with `i` attempts before it is the first one that is answered. -/
structure FirstAnswer (other : Responder) (r : Request) (log : Log) (i : Nat)
    (response : Response) : Prop where
  before : Silent other r log i
  answered : attempt other r log i = .answered response

section

variable {other : Responder} {r : Request} {log : Log} {i j n : Nat} {response response' : Response}

theorem FirstAnswer.silent_iff (h : FirstAnswer other r log i response) :
    Silent other r log n ↔ n ≤ i := by
  constructor
  · intro hsilent
    by_contra hlt
    have hnone := hsilent i (not_le.mp hlt)
    rw [h.answered] at hnone
    nomatch hnone
  · exact fun hn j hj ↦ h.before j (lt_of_lt_of_le hj hn)

theorem FirstAnswer.unique (h : FirstAnswer other r log i response)
    (h' : FirstAnswer other r log j response') : i = j ∧ response = response' := by
  have hij : i = j := le_antisymm (h'.silent_iff.mp h.before) (h.silent_iff.mp h'.before)
  subst hij
  exact ⟨rfl, Outcome.answered.inj (h.answered.symm.trans h'.answered)⟩

end

/-- **The loop of attempts.** It ends with the first answer, or when there may be no more
attempts. -/
theorem run_sendUpTo (r : Request) (n : Nat) (other : Responder) (log : Log) :
    (Silent other r log n ∧ (sendUpTo r n).run other log = (none, log ++ attempts other r log n)) ∨
      ∃ i < n, ∃ response, FirstAnswer other r log i response ∧
        (sendUpTo r n).run other log = (some response, log ++ attempts other r log (i + 1)) := by
  induction n generalizing log with
  | zero =>
    refine .inl ⟨fun i hi ↦ absurd hi (Nat.not_lt_zero i), ?_⟩
    rw [attempts, List.range_zero, List.map_nil, List.append_nil]
    rfl
  | succ n ih =>
    set later := Dialogue.logAfter other log r with hlater
    have hlog : ∀ k, later ++ attempts other r later k = log ++ attempts other r log (k + 1) := by
      intro k
      rw [Dialogue.attempts_succ, hlater, Dialogue.logAfter, List.append_assoc]
      rfl
    rw [sendUpTo, Dialogue.run]
    cases ho : other log r with
    | answered response =>
      refine .inr ⟨0, Nat.succ_pos n, response, ⟨fun i hi ↦ absurd hi (Nat.not_lt_zero i), ho⟩, ?_⟩
      rw [← hlog 0, ← hlater]
      exact congrArg (Prod.mk _) (List.append_nil _).symm
    | refused | dropped =>
      -- An attempt without an answer goes before all attempts that follow it.
      have hstep : ∀ k, Silent other r later k → Silent other r log (k + 1) := by
        intro k hk i hi
        cases i with
        | zero => rw [attempt, ho]; rfl
        | succ i => exact hk i (Nat.lt_of_succ_lt_succ hi)
      rcases ih later with ⟨hsilent, hrun⟩ | ⟨i, hi, response, hfirst, hrun⟩
      · exact .inl ⟨hstep n hsilent, by rw [← hlog]; exact hrun⟩
      · refine .inr ⟨i + 1, Nat.succ_lt_succ hi, response, ⟨hstep i hfirst.before, ?_⟩, ?_⟩
        · exact hfirst.answered
        · rw [← hlog]
          exact hrun

section

variable {α : Type} {c : Client} {method : Method} {endpoint path : String} {body : Option String}

/-- The run of a call, given what came of its attempts. -/
theorem run_call (n : Nat) (decode : List UInt8 → Option (Except Unparsable α))
    (hpath : c.endpoints.get? endpoint = some path) (other : Responder) (log : Log) :
    (Silent other (c.request method path body) log n ∧
        (c.call n method endpoint body decode).run other log =
          (.error ⟨endpoint, .noResponse n⟩,
            log ++ attempts other (c.request method path body) log n)) ∨
      ∃ i < n, ∃ response, FirstAnswer other (c.request method path body) log i response ∧
        (c.call n method endpoint body decode).run other log =
          ((judge decode response).mapError (⟨endpoint, ·⟩),
            log ++ attempts other (c.request method path body) log (i + 1)) := by
  rw [call, hpath, Dialogue.run_bind]
  rcases run_sendUpTo (c.request method path body) n other log with
    ⟨hsilent, hrun⟩ | ⟨i, hi, response, hfirst, hrun⟩
  · exact .inl ⟨hsilent, by rw [hrun]; rfl⟩
  · exact .inr ⟨i, hi, response, hfirst, by rw [hrun]; rfl⟩

theorem run_call_of_unmapped (n : Nat) (decode : List UInt8 → Option (Except Unparsable α))
    (hpath : c.endpoints.get? endpoint = none) (other : Responder) (log : Log) :
    (c.call n method endpoint body decode).run other log =
      (.error ⟨endpoint, .unknownEndpoint⟩, log) := by
  rw [call, hpath]
  rfl

end

/-! ## The verdict on a response -/

/-- The statuses of success. -/
def Succeeded (status : Nat) : Prop := 200 ≤ status ∧ status ≤ 299

section

variable {α : Type} {decode : List UInt8 → Option (Except Unparsable α)} {r : Response}
  {bytes : List UInt8}

theorem judge_unreadable (hbody : r.body = none) :
    judge decode r = .error (.unreadableBody r.status) := by
  rw [judge, hbody]

theorem judge_rejected (hbody : r.body = some bytes) (hstatus : ¬Succeeded r.status) :
    judge decode r = .error (.rejected r.status (Utf8.decodeLossy bytes)) := by
  rw [judge, hbody]
  exact if_neg hstatus

theorem judge_of_succeeded (hbody : r.body = some bytes) (hstatus : Succeeded r.status) :
    judge decode r = match decode bytes with
      | none => .error (.undecodable r.status)
      | some (.error cause) => .error (.unparsable cause)
      | some (.ok a) => .ok a := by
  rw [judge, hbody]
  exact if_pos hstatus

end

/-- The call failed at the endpoint with a status and a message, in which the layer below may have
given its reason. -/
def FailsFor {α : Type} (endpoint : String) (status : Nat) (message : String → String)
    (result : Except FetchError α) : Prop :=
  ∃ e, result = .error e ∧ e.endpoint = endpoint ∧ e.status = status ∧
    ∀ reason, e.message reason = message reason

/-- The call failed at the endpoint with a status and a message. -/
def FailsWith {α : Type} (endpoint : String) (status : Nat) (message : String)
    (result : Except FetchError α) : Prop :=
  FailsFor endpoint status (fun _ ↦ message) result

/-- What a response decides about a call for a value of some shape. -/
structure Verdict {α : Type} (endpoint : String) (shape : Json.Shape α) (r : Response)
    (result : Except FetchError α) : Prop where
  /-- A body that cannot be read is an error, whatever the status is. -/
  unreadable : r.body = none →
    FailsFor endpoint r.status ("failed to read response body: " ++ ·) result
  /-- The message of a bad status is the body, as it stands if it is well-formed UTF-8. -/
  rejected : ∀ bytes, r.body = some bytes → ¬Succeeded r.status →
    FailsWith endpoint r.status (Utf8.decodeLossy bytes) result ∧
      ∀ text, bytes = Utf8.encode text → FailsWith endpoint r.status text result
  /-- The body of a success is the value that it decodes to. -/
  decoded : ∀ bytes, r.body = some bytes → Succeeded r.status →
    ∀ a, result = .ok a ↔ shape.read? bytes = some a
  undecodable : ∀ bytes, r.body = some bytes → Succeeded r.status → shape.read? bytes = none →
    FailsFor endpoint r.status ("failed to decode response body: " ++ ·) result

/-- Call an endpoint for a value of some shape. -/
def callFor {α : Type} (c : Client) (n : Nat) (method : Method) (endpoint : String)
    (body : Option String) (shape : Json.Shape α) : Dialogue (Except FetchError α) :=
  c.call n method endpoint body fun bytes ↦ (shape.read? bytes).map .ok

theorem verdict_judge {α : Type} (endpoint : String) (shape : Json.Shape α) (r : Response) :
    Verdict endpoint shape r
      ((judge (fun bytes ↦ (shape.read? bytes).map .ok) r).mapError (⟨endpoint, ·⟩)) where
  unreadable hbody := by
    rw [judge_unreadable hbody]
    exact ⟨_, rfl, rfl, rfl, fun _ ↦ rfl⟩
  rejected bytes hbody hstatus := by
    rw [judge_rejected hbody hstatus]
    refine ⟨⟨_, rfl, rfl, rfl, fun _ ↦ rfl⟩, fun text htext ↦ ⟨_, rfl, rfl, rfl, fun _ ↦ ?_⟩⟩
    rw [htext]
    exact Utf8.decodeLossy_encode text
  decoded bytes hbody hstatus a := by
    rw [judge_of_succeeded hbody hstatus]
    cases shape.read? bytes <;> simp [Except.mapError]
  undecodable bytes hbody hstatus hread := by
    rw [judge_of_succeeded hbody hstatus, hread]
    exact ⟨_, rfl, rfl, rfl, fun _ ↦ rfl⟩

/-- A call that converts what it reads fails where the call fails or the conversion does. -/
theorem run_call_convert {α β : Type} (c : Client) (n : Nat) (method : Method) (endpoint : String)
    (body : Option String) (shape : Json.Shape α) (convert : α → Except Unparsable β)
    (other : Responder) (log : Log) :
    (c.call n method endpoint body fun bytes ↦ (shape.read? bytes).map convert).run other log =
      (((c.callFor n method endpoint body shape).run other log).1.bind fun a ↦
          (convert a).mapError (⟨endpoint, .unparsable ·⟩),
        ((c.callFor n method endpoint body shape).run other log).2) := by
  rw [callFor]
  cases hpath : c.endpoints.get? endpoint with
  | none =>
    rw [run_call_of_unmapped n _ hpath, run_call_of_unmapped n _ hpath]
    rfl
  | some path =>
    rw [call, call, hpath, Dialogue.run_bind, Dialogue.run_bind]
    cases ((sendUpTo (c.request method path body) n).run other log).1 with
    | none => rfl
    | some r =>
      simp only [conclude, Dialogue.run_done, Prod.mk.injEq, and_true]
      cases hbody : r.body with
      | none => rw [judge_unreadable hbody, judge_unreadable hbody]; rfl
      | some bytes =>
        by_cases hstatus : Succeeded r.status
        · rw [judge_of_succeeded hbody hstatus, judge_of_succeeded hbody hstatus]
          cases shape.read? bytes with
          | none => rfl
          | some a => cases hconvert : convert a <;> simp [hconvert, Except.mapError, Except.bind]
        · rw [judge_rejected hbody hstatus, judge_rejected hbody hstatus]; rfl

/-! ## The law of calls -/

/-- What a call of at most `n` attempts comes to, whatever the other side does. -/
structure CallLaw {α : Type} (c : Client) (n : Nat) (method : Method) (endpoint : String)
    (body : Option String) (shape : Json.Shape α) (d : Dialogue (Except FetchError α))
    (other : Responder) (log : Log) : Prop where
  /-- For a name that is not mapped nothing is sent. -/
  unmapped : c.endpoints.get? endpoint = none →
    FailsWith endpoint 0 "endpoint not found" (d.run other log).1 ∧ (d.run other log).2 = log
  /-- When none of the attempts is answered, all of them are made. -/
  silent : ∀ path, c.endpoints.get? endpoint = some path →
    Silent other (c.request method path body) log n →
    FailsWith endpoint 0 ("max retries reached after " ++ toString n ++ " attempts")
        (d.run other log).1 ∧
      ∃ new, (d.run other log).2 = log ++ new ∧
        new.sent = List.replicate n (c.request method path body)
  /-- Nothing is sent after the first answer. -/
  requests : ∀ path, c.endpoints.get? endpoint = some path → ∀ i response,
    FirstAnswer other (c.request method path body) log i response →
    ∃ new, (d.run other log).2 = log ++ new ∧
      new.sent = List.replicate (min n (i + 1)) (c.request method path body)
  /-- The first answer alone decides the result. -/
  answered : ∀ path, c.endpoints.get? endpoint = some path → ∀ i < n, ∀ response,
    FirstAnswer other (c.request method path body) log i response →
    (d.run other log).1 =
        (judge (fun bytes ↦ (shape.read? bytes).map .ok) response).mapError (⟨endpoint, ·⟩) ∧
      Verdict endpoint shape response (d.run other log).1

theorem callLaw_callFor {α : Type} (c : Client) (n : Nat) (method : Method) (endpoint : String)
    (body : Option String) (shape : Json.Shape α) (other : Responder) (log : Log) :
    c.CallLaw n method endpoint body shape (c.callFor n method endpoint body shape) other log where
  unmapped hpath := by
    rw [callFor, run_call_of_unmapped n _ hpath]
    exact ⟨⟨_, rfl, rfl, rfl, fun _ ↦ rfl⟩, rfl⟩
  silent path hpath hsilent := by
    rw [callFor]
    rcases run_call n _ hpath other log with ⟨-, hrun⟩ | ⟨i, hi, response, hfirst, -⟩
    · rw [hrun]
      exact ⟨⟨_, rfl, rfl, rfl, fun _ ↦ rfl⟩, _, rfl, Dialogue.sent_attempts ..⟩
    · exact absurd (hfirst.silent_iff.mp hsilent) (not_le.mpr hi)
  requests path hpath i response hfirst := by
    rw [callFor]
    rcases run_call n _ hpath other log with ⟨hsilent, hrun⟩ | ⟨j, hj, response', hfirst', hrun⟩
    · have hn : n ≤ i := hfirst.silent_iff.mp hsilent
      rw [hrun, min_eq_left (by omega)]
      exact ⟨_, rfl, Dialogue.sent_attempts ..⟩
    · obtain ⟨rfl, -⟩ := hfirst.unique hfirst'
      rw [hrun, min_eq_right (by omega)]
      exact ⟨_, rfl, Dialogue.sent_attempts ..⟩
  answered path hpath i hi response hfirst := by
    rw [callFor]
    rcases run_call n _ hpath other log with ⟨hsilent, -⟩ | ⟨j, -, response', hfirst', hrun⟩
    · exact absurd (hfirst.silent_iff.mp hsilent) (not_le.mpr hi)
    · obtain ⟨-, rfl⟩ := hfirst.unique hfirst'
      rw [hrun]
      exact ⟨rfl, verdict_judge endpoint shape response⟩

/-- **The law of calls.** A short call makes three attempts and a long-running one makes one. The
typed calls are such calls with a conversion of what was read. -/
theorem call_law {α : Type} (c : Client) (method : Method) (endpoint : String)
    (body : Option String) (shape : Json.Shape α) (other : Responder) (log : Log) :
    c.CallLaw 3 method endpoint body shape (c.callFor shortAttempts method endpoint body shape)
        other log ∧
      c.CallLaw 1 method endpoint body shape (c.callFor longAttempts method endpoint body shape)
        other log ∧
      (∀ {β : Type} (e : Endpoint) (convert : α → Except Unparsable β),
        (c.fetch (.ofShape e method body shape convert)).run other log =
          (((c.callFor shortAttempts method e.name body shape).run other log).1.bind fun a ↦
              (convert a).mapError (⟨e.name, .unparsable ·⟩),
            ((c.callFor shortAttempts method e.name body shape).run other log).2)) ∧
      c.triggerFirmwareCheck.run other log =
        (((c.callFor longAttempts .post Endpoint.firmware.name (some "\x7b\x7d") .free).run other
            log).1.map fun _ ↦ (),
          ((c.callFor longAttempts .post Endpoint.firmware.name (some "\x7b\x7d") .free).run other
            log).2) := by
  refine ⟨c.callLaw_callFor .., c.callLaw_callFor .., fun e convert ↦ ?_, ?_⟩
  · exact c.run_call_convert shortAttempts method e.name body shape convert other log
  · have hrun := c.run_call_convert longAttempts .post Endpoint.firmware.name
      (some "\x7b\x7d") .free (fun _ ↦ .ok ()) other log
    refine hrun.trans ?_
    generalize (c.callFor longAttempts .post Endpoint.firmware.name (some "\x7b\x7d") .free).run
      other log = ended
    obtain ⟨result, later⟩ := ended
    cases result <;> rfl

/-- A refused connection, then an answer with a bad status: the body is the message. -/
example : ((Client.callFor ⟨[("arp", "api/arp")], "https://firewall", "key", "secret"⟩
    shortAttempts .get "arp" none .int).run (.perPath fun _ n ↦
      if n = 0 then .refused else .answered ⟨500, some (Utf8.encode "busy")⟩) []).1 =
    .error ⟨"arp", .rejected 500 "busy"⟩ := by decide +kernel

end Client

end FirewallExporter
