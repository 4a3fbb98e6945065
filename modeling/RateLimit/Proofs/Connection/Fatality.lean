import RateLimit.Proofs.Connection.Runs
import RateLimit.Proofs.Connection.Uses

/-!
# Errors that are fatal to a connection

Two things say that a connection may no longer stand between two replies: its mark, and the kind of
the error that was handed to the caller.  They are set apart from each other.  An error that comes
from the transport or from reading a reply leaves the mark and is fatal, and so is a refusal of
credentials; an error line of the server leaves no mark and is not fatal.  In one case the two say
different things: the script is called and a complete reply comes back that holds no answer.  The
connection then stands behind that reply and is not marked, but the error counts as a departure from
the protocol, which is fatal.

## Main definitions

* `Connection.Use.Misanswered` : the script is replied to, but not with an answer.

## Main results

* `Connection.Use.conclude_answered` : the errors that come after a complete reply.
* `Connection.Use.isFatal_iff_broken_iff` : when the error and the mark say the same.
* `Connection.Use.not_isFatal_iff_broken` : a use after which they do not.
-/

namespace RateLimit

open Scenario.Connection (Step Value)

/-- An error that comes from the exchange with the server is fatal. -/
theorem Error.OfExchange.isFatal {error : Error} (h : error.OfExchange) : error.isFatal = true := by
  cases h <;> rfl

namespace Connection.Use

/-- The script is called, and the reply is complete and no error line, but holds no answer. -/
def Misanswered (u : Use) (c : Connection) (fault : ProtocolFault) : Prop :=
  (∃ limits key now, u.step = .evaluate limits key now) ∧
    ∃ reply, u.result? c = some (.ok (some reply)) ∧ Answer.ofReply? reply = .error fault

/-- An error after a complete reply: the server says no, or does not accept credentials, or does not
answer a call of the script. -/
theorem conclude_answered {step : Step} {rest : Bytes} {reply : Reply} {error : Error}
    (h : (step.conclude ⟨rest, false⟩ reply.result).2.1 = .error error) :
    let c := (step.conclude ⟨rest, false⟩ reply.result).1
    (∃ text, reply.result = .error (.server text) ∧ error = .server text ∧ c.broken = false) ∨
      (∃ credentials fault, step = .authenticate credentials ∧ error = .auth fault ∧
        c.broken = true) ∨
      ∃ limits key now fault, step = .evaluate limits key now ∧
        reply.result = .ok (some reply) ∧ Answer.ofReply? reply = .error fault ∧
          error = .protocol fault ∧ c.broken = false := by
  rcases reply.result_cases with hreply | ⟨text, hreply⟩
  · rw [hreply] at h ⊢
    cases step with
    | call | register => cases h
    | authenticate credentials =>
        cases reply with
        | status text => cases h
        | error | integer | bulk | null | array =>
            exact .inr (.inl ⟨credentials, _, rfl, (Except.error.inj h).symm, rfl⟩)
    | evaluate limits key now =>
        change ((Answer.ofReply? reply).mapError Error.protocol).map Value.answer = _ at h
        cases hanswer : Answer.ofReply? reply with
        | ok answer =>
            rw [hanswer] at h
            cases h
        | error fault =>
            rw [hanswer] at h
            exact .inr <| .inr
              ⟨limits, key, now, fault, rfl, rfl, rfl, (Except.error.inj h).symm, rfl⟩
  · rw [hreply] at h ⊢
    cases step with
    | authenticate credentials =>
        exact .inr (.inl ⟨credentials, _, rfl, (Except.error.inj h).symm, rfl⟩)
    | call | register | evaluate =>
        exact .inl ⟨text, rfl, (Except.error.inj h).symm, rfl⟩

variable {c : Connection} {u : Use} {error : Error}

/-- A request that has returned an error has failed, or was replied to. -/
theorem failed_or_answered (hu : u.isRequest = true)
    (h : (u.ending c).1 = .returned (.error error)) :
    (error.OfExchange ∧ u.result? c = some (.error error) ∧ (u.ending c).2.broken = true) ∨
      ∃ (rest : Bytes) (reply : Reply), u.result? c = some reply.result ∧
        (u.step.conclude ⟨rest, false⟩ reply.result).2.1 = .error error ∧
          (u.ending c).2 = (u.step.conclude ⟨rest, false⟩ reply.result).1 := by
  have hrequest := u.progress_isRequest hu c
  rw [ending] at h ⊢
  rw [result?]
  generalize u.progress c = p at hrequest h ⊢
  cases hrequest with
  | waiting => cases h
  | @failed c' hbroken error' herror =>
      dsimp only at h ⊢
      rw [conclude_error u.step c' herror] at h ⊢
      cases h
      exact .inl ⟨herror, rfl, hbroken⟩
  | answered rest reply => exact .inr ⟨rest, reply, rfl, Ending.returned.inj h, rfl⟩

/-- An error that is no objection to an answer of the script is fatal exactly if it leaves the
mark. -/
theorem isFatal_iff_broken_of_not_misanswered (hu : u.isRequest = true)
    (h : (u.ending c).1 = .returned (.error error)) (hanswer : ∀ fault, ¬ u.Misanswered c fault) :
    error.isFatal = true ↔ (u.ending c).2.broken = true := by
  rcases failed_or_answered hu h with ⟨herror, -, hbroken⟩ | ⟨rest, reply, hresult, hvalue, hleft⟩
  · exact iff_of_true herror.isFatal hbroken
  · rw [hleft]
    rcases conclude_answered hvalue with ⟨text, -, rfl, hbroken⟩ |
      ⟨credentials, fault, -, rfl, hbroken⟩ |
      ⟨limits, key, now, fault, hstep, hreply, hfault, -, -⟩
    · simp [Error.isFatal, hbroken]
    · simp [Error.isFatal, hbroken]
    · exact absurd ⟨⟨limits, key, now, hstep⟩, reply, hreply ▸ hresult, hfault⟩ (hanswer fault)

/-- An objection to an answer of the script is fatal, and leaves no mark. -/
theorem Misanswered.ending {fault : ProtocolFault} (h : u.Misanswered c fault) :
    (u.ending c).1 = .returned (.error (.protocol fault)) ∧ (u.ending c).2.broken = false := by
  obtain ⟨⟨limits, key, now, hstep⟩, reply, hresult, hfault⟩ := h
  have hu : u.isRequest = true := by rw [isRequest, hstep]
  have hrequest := u.progress_isRequest hu c
  rw [result?] at hresult
  rw [Use.ending, hstep]
  generalize u.progress c = p at hrequest hresult ⊢
  cases hrequest with
  | waiting | failed => cases hresult
  | answered rest reply' =>
      rcases reply'.result_cases with hreply | ⟨text, hreply⟩
      · rw [hreply] at hresult ⊢
        cases hresult
        change Ending.returned (((Answer.ofReply? reply).mapError Error.protocol).map _) = _ ∧ _
        rw [hfault]
        exact ⟨rfl, rfl⟩
      · rw [hreply] at hresult
        cases hresult

/-- **When the error and the mark say the same.** Whatever the connection was, and whatever happens
on its transport, if a request, a presentation of credentials, a registration or a call of the
script returns an error, then the error is fatal exactly if the connection is marked as broken
afterwards, unless the script is called and the complete reply to it holds no answer.  In that case
the error is fatal and the connection is not marked.  An error that leaves the mark is fatal in
every case. -/
theorem isFatal_iff_broken_iff (c : Connection) (u : Use) (hu : u.isRequest = true) (error : Error)
    (h : (u.ending c).1 = .returned (.error error)) :
    ((error.isFatal = true ↔ (u.ending c).2.broken = true) ↔ ∀ fault, ¬ u.Misanswered c fault) ∧
      ((u.ending c).2.broken = true → error.isFatal = true) ∧
      ∀ fault, u.Misanswered c fault →
        error = .protocol fault ∧ error.isFatal = true ∧ (u.ending c).2.broken = false := by
  have hmisanswered (fault : ProtocolFault) (hfault : u.Misanswered c fault) :
      error = .protocol fault ∧ error.isFatal = true ∧ (u.ending c).2.broken = false := by
    obtain ⟨herror, hbroken⟩ := hfault.ending
    obtain rfl : error = .protocol fault := by simpa using h.symm.trans herror
    exact ⟨rfl, rfl, hbroken⟩
  by_cases hanswer : ∀ fault, ¬ u.Misanswered c fault
  · have hiff := isFatal_iff_broken_of_not_misanswered hu h hanswer
    exact ⟨iff_of_true hiff hanswer, hiff.mpr, hmisanswered⟩
  · obtain ⟨fault, hfault⟩ := not_forall_not.mp hanswer
    obtain ⟨-, hfatal, hbroken⟩ := hmisanswered fault hfault
    refine ⟨iff_of_false ?_ hanswer, fun _ => hfatal, hmisanswered⟩
    simp [hfatal, hbroken]

/-- Credentials that are refused leave the mark, and the refusal is fatal. -/
theorem isFatal_iff_broken_iff_refused :
    let u : Use := ⟨.authenticate ⟨none, "x"⟩,
      [.wrote 21, .flushed, .received (Bytes.ofString "-no\r\n")]⟩
    u.isRequest = true ∧ (u.ending {}).1 = .returned (.error (.auth (.rejected "no"))) ∧
      (u.ending {}).2.broken = true ∧ (Error.auth (.rejected "no")).isFatal = true := by
  intro u
  exact ⟨rfl, rfl, rfl, (isFatal_iff_broken_iff {} u rfl _ rfl).2.1 rfl⟩

/-- A call of the script on a server that answers ends with the answer. -/
theorem progress_of_serves {limits : Limits} {key : String} {now : Nat} {events : List Event}
    {answer : Bytes} {reply : Reply}
    (h : Event.Serves ((Script.ofLimits limits).call key now).bytes answer events)
    (hread : (Reader.read {} answer).1 = .complete reply []) :
    progress ⟨.evaluate limits key now, events⟩ {} = .finished {} reply.result := by
  have hrun := h.run hread []
  rw [List.append_nil] at hrun
  exact congrArg Prod.fst hrun

/-- A status line in the place of the answer of the script: the connection stands behind it and is
not marked, and the error is fatal. -/
theorem not_isFatal_iff_broken :
    let limits : Limits := ⟨1, .ofSecs 1, 10, by decide, by decide, by decide⟩
    let u : Use := ⟨.evaluate limits "k" 100,
      [.wrote ((Script.ofLimits limits).call "k" 100).bytes.length, .flushed,
        .received (Bytes.ofString "+OK\r\n")]⟩
    (u.ending {}).1 = .returned (.error (.protocol (.notArray .status))) ∧
      (Error.protocol (.notArray .status)).isFatal = true ∧ (u.ending {}).2 = {} := by
  intro limits u
  have hcommand (script : Script) : (script.call "k" 100).bytes ≠ [] := List.cons_ne_nil _ _
  have hanswer : Bytes.ofString "+OK\r\n" ≠ [] := by decide
  have hprogress : u.progress {} = .finished {} (.ok (some (.status "OK"))) :=
    progress_of_serves (Event.serves_at_once (hcommand _) hanswer) rfl
  have hresult : u.result? {} = some (.ok (some (.status "OK"))) := by rw [result?, hprogress]
  have hending := Misanswered.ending ⟨⟨limits, "k", 100, rfl⟩, _, hresult, rfl⟩
  refine ⟨hending.1, rfl, ?_⟩
  rw [ending, hprogress]
  rfl

end Connection.Use

end RateLimit
