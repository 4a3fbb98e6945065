import RateLimit.Proofs.Connection.RoundTrip
import RateLimit.Proofs.Pool.Turns

/-!
# Requests and attempts over events in order

What a request comes to over any events is what it comes to in each of them: it goes on, fails, or
ends with the complete reply that has come back.  An attempt to open a connection that presents
credentials goes as its request does.  If the server answers, piece by piece in whatever way, the
request ends with the answer and the attempt opens its connection.

## Main definitions

* `Wire.afterAll` : what has passed over a transport after a call over events in order.
* `Attempt.Progress.run` : an attempt over events in order.
* `Event.Serves`, `Event.Welcomes` : what happens on a transport if a server answers a command, and
  if it lets a client in.

## Main results

* `Wire.Round.Outcome.run` : what a request comes to over events in order.
* `Event.Serves.run_of_kept`, `Event.Welcomes.run` : a request and an attempt on a server that
  answers.
-/

namespace RateLimit

/-! ### Calls over events -/

namespace Progress

theorem run_nil (p : Progress) : p.run [] = (p, [], []) := by
  cases p <;> rfl

theorem run_finished (c : Connection) (result : Result) (events : List Event) :
    (Progress.finished c result).run events = (.finished c result, [], events) := by
  cases events <;> rfl

theorem run_waiting_cons (x : Exchange) (event : Event) (events : List Event) :
    (Progress.waiting x).run (event :: events) =
      (((x.step event).run events).1, x.accepted event ++ ((x.step event).run events).2.1,
        ((x.step event).run events).2.2) :=
  rfl

/-- A call over events in two parts goes on over the second where the first has left it. -/
theorem run_append (p : Progress) (events later : List Event) :
    p.run (events ++ later) =
      (((p.run events).1.run ((p.run events).2.2 ++ later)).1,
        (p.run events).2.1 ++ ((p.run events).1.run ((p.run events).2.2 ++ later)).2.1,
        ((p.run events).1.run ((p.run events).2.2 ++ later)).2.2) := by
  induction events generalizing p with
  | nil => rw [run_nil]; rfl
  | cons event events ih =>
      cases p with
      | waiting x =>
          rw [List.cons_append, run_waiting_cons, run_waiting_cons, ih, List.append_assoc]
      | finished c result => rw [run_finished, run_finished, run_finished, List.nil_append]

end Progress

namespace Wire

/-- What has passed over a transport after a call over events in order. -/
def afterAll (w : Wire) : Progress → List Event → Wire
  | .waiting x, event :: events => (w.after x event).afterAll (x.step event) events
  | _, _ => w

/-- What a request comes to over events in order. -/
theorem Round.Outcome.run {kept command : Bytes} {w : Wire} {p : Progress}
    (h : Round.Outcome kept command w p) (events : List Event) :
    Round.Outcome kept command (w.afterAll p events) (p.run events).1 := by
  induction events generalizing w p with
  | nil => cases h <;> constructor <;> assumption
  | cons event events ih =>
      cases h with
      | waiting hround => exact ih (hround.outcome event)
      | failed herror hsends hnone => exact .failed herror hsends hnone
      | answered h => exact .answered h

end Wire

theorem Connection.start_request_eq (c : Connection) {command : Command} {bytes : Bytes}
    (hbytes : command.encode = .ok bytes) :
    c.start (.request command) = .waiting ⟨⟨c.buffer, true⟩, .request, .write bytes⟩ := by
  rw [start, transmit, hbytes]

/-- What a request comes to over events in order, on a connection with something left unread. -/
theorem Connection.outcome_request (c : Connection) {command : Command}
    (hencode : command.encode = .ok command.bytes) (events : List Event) :
    Wire.Round.Outcome c.buffer command.bytes
      (Wire.afterAll {} (c.start (.request command)) events)
      ((c.start (.request command)).run events).1 := by
  rw [c.start_request_eq hencode]
  exact Wire.Round.Outcome.run (.waiting (Wire.round_start c.buffer command.bytes)) events

theorem Reply.result_eq_ok {reply : Reply} (h : ∀ text, reply ≠ .error text) :
    reply.result = .ok (some reply) := by
  cases reply with
  | error text => exact absurd rfl (h text)
  | status | integer | bulk | null | array => rfl

/-- **When a request is answered.** A request over any events ends without an error exactly if its
command was passed on and a complete reply has come back that is no error. -/
theorem Connection.request_answered_iff (c : Connection) {command : Command}
    (hencode : command.encode = .ok command.bytes) (events : List Event) :
    (∃ c' reply, ((c.start (.request command)).run events).1 = .finished c' (.ok reply)) ↔
      ∃ reply rest, (Wire.afterAll {} (c.start (.request command)) events).Replied c.buffer
        command.bytes reply rest ∧ ∀ text, reply ≠ .error text := by
  have houtcome := c.outcome_request hencode events
  generalize Wire.afterAll {} (c.start (.request command)) events = w at houtcome ⊢
  generalize ((c.start (.request command)).run events).1 = p at houtcome ⊢
  cases houtcome with
  | waiting hround =>
      refine iff_of_false ?_ ?_
      · rintro ⟨c', reply, heq⟩
        cases heq
      · rintro ⟨reply, rest, hreplied, -⟩
        exact hround.not_replied reply rest hreplied
  | failed herror hsends hnone =>
      refine iff_of_false ?_ ?_
      · rintro ⟨c', reply, heq⟩
        cases heq
      · rintro ⟨reply, rest, hreplied, -⟩
        exact hnone reply rest hreplied
  | @answered reply rest h =>
      constructor
      · rintro ⟨c', reply', heq⟩
        refine ⟨reply, rest, h, ?_⟩
        rintro text rfl
        cases heq
      · rintro ⟨reply', rest', hreplied, hnone⟩
        obtain ⟨rfl, rfl⟩ : reply = reply' ∧ rest = rest' := by
          simpa using h.read.symm.trans hreplied.read
        exact ⟨_, _, by rw [Reply.result_eq_ok hnone]⟩

/-- A request fails in an event, or its transport takes what is no longer to be sent. -/
theorem Exchange.Goes.accepted_append_unsent {x : Exchange} {event : Event} {p : Progress}
    (h : x.Goes event p) :
    (∃ c error, p = .finished c (.error error) ∧ error.OfExchange) ∨
      x.accepted event ++ p.unsent = x.unsent := by
  obtain ⟨c, task, awaiting⟩ := x
  cases h with
  | stays haccepted => exact .inr (by rw [haccepted]; rfl)
  | @wrote rest count hawaiting =>
      cases hawaiting
      exact .inr (List.take_append_drop count rest)
  | @written rest count hawaiting hcount =>
      cases hawaiting
      exact .inr ((List.append_nil _).trans (List.take_of_length_le hcount))
  | passed hawaiting | received hawaiting =>
      cases hawaiting
      exact .inr (Connection.unsent_poll _ _)
  | failed herror => exact .inl ⟨_, _, rfl, herror⟩

/-! ### A server that answers -/

namespace Event

/-- A transport takes bytes, piece by piece. -/
inductive Takes : Bytes → List Event → Prop
  | last {bytes : Bytes} (hne : bytes ≠ []) : Takes bytes [.wrote bytes.length]
  | part {bytes : Bytes} {count : Nat} {events : List Event} (hpos : 0 < count)
      (hcount : count < bytes.length) (h : Takes (bytes.drop count) events) :
      Takes bytes (.wrote count :: events)

/-- A transport takes a command piece by piece, passes it on, and delivers the answer piece by
piece. -/
inductive Serves (command answer : Bytes) : List Event → Prop
  | intro {taken : List Event} {pieces : List Bytes} (htaken : Takes command taken)
      (hpieces : ∀ piece ∈ pieces, piece ≠ []) (hanswer : pieces.flatten = answer) :
      Serves command answer (taken ++ .flushed :: pieces.map .received)

/-- A transport opens, and if there are credentials they are accepted on it. -/
inductive Welcomes : Option Credentials → List Event → Prop
  | free : Welcomes none [.connected]
  | accepted {credentials : Credentials} {answer : Bytes} {text : String} {events : List Event}
      (hserves : Serves credentials.command.bytes answer events)
      (hread : (Reader.read {} answer).1 = .complete (.status text) []) :
      Welcomes (some credentials) (.connected :: events)

variable {c : Connection} {task : Task} {bytes answer : Bytes} {reply : Reply}
  {events later : List Event}

/-- A transport may take a command at once, and deliver the answer at once. -/
theorem serves_at_once {command : Bytes} (hcommand : command ≠ []) (hanswer : answer ≠ []) :
    Serves command answer [.wrote command.length, .flushed, .received answer] := by
  have hpieces : ∀ piece ∈ [answer], piece ≠ [] := List.forall_mem_singleton.mpr hanswer
  exact .intro (.last hcommand) hpieces (List.append_nil answer)

theorem Takes.ne_nil (h : Takes bytes events) : bytes ≠ [] := by
  cases h with
  | last hne => exact hne
  | part hpos hcount h => exact List.ne_nil_of_length_pos (Nat.zero_lt_of_lt hcount)

/-- A command that is taken is passed on next. -/
theorem Takes.run (h : Takes bytes events) :
    (Progress.waiting ⟨c, task, .write bytes⟩).run events =
      (.waiting ⟨c, task, .flush⟩, bytes, []) := by
  induction h with
  | @last bytes hne =>
      have hstep : Exchange.step ⟨c, task, .write bytes⟩ (.wrote bytes.length) =
          .waiting ⟨c, task, .flush⟩ := by
        simp [Exchange.step, hne]
      rw [Progress.run_waiting_cons, hstep, Progress.run_nil]
      simp [Exchange.accepted]
  | @part bytes count events hpos hcount h ih =>
      have hstep : Exchange.step ⟨c, task, .write bytes⟩ (.wrote count) =
          .waiting ⟨c, task, .write (bytes.drop count)⟩ := by
        simp [Exchange.step, hpos.ne', hcount]
      rw [Progress.run_waiting_cons, hstep, ih]
      simp [Exchange.accepted]

/-- Only a command that can be sent is taken. -/
theorem Serves.encode_eq {command : Command} (h : Serves command.bytes answer events) :
    command.encode = .ok command.bytes := by
  obtain ⟨htaken, -, -⟩ := h
  cases command with
  | nil => exact absurd rfl htaken.ne_nil
  | cons word words => rfl

/-- A request that reads ends with the reply at the front of what was kept and what is delivered,
once enough of it has arrived.  The pieces that come after that are left over. -/
theorem run_poll {buffer rest : Bytes} {pieces : List Bytes}
    (hread : (Reader.read {} (buffer ++ pieces.flatten)).1 = .complete reply rest) :
    ∃ kept unread, unread <:+ pieces ∧ kept ++ unread.flatten = rest ∧
      (Connection.poll ⟨buffer, true⟩ .request).run (pieces.map .received) =
        (.finished ⟨kept, false⟩ reply.result, [], unread.map .received) := by
  induction pieces generalizing buffer with
  | nil =>
      rw [List.flatten_nil, List.append_nil] at hread
      rw [Connection.poll_of_complete hread]
      exact ⟨rest, [], List.suffix_rfl, List.append_nil rest, rfl⟩
  | cons piece pieces ih =>
      -- What has arrived before the next piece holds the reply, or waits for more.
      cases hbuffer : (Reader.read {} buffer).1 with
      | complete reply' kept =>
          rw [Reader.settles_read {} buffer (by simp [hbuffer]), hbuffer, Reading.extend_complete,
            Reading.complete.injEq] at hread
          obtain ⟨rfl, rfl⟩ := hread
          rw [Connection.poll_of_complete hbuffer, Progress.run_finished]
          exact ⟨kept, _, List.suffix_rfl, rfl, rfl⟩
      | invalid fault =>
          rw [Reader.settles_read {} buffer (by simp [hbuffer]), hbuffer] at hread
          cases hread
      | needMore =>
          rw [List.flatten_cons, ← List.append_assoc] at hread
          obtain ⟨kept, unread, hunread, hrest, hrun⟩ := ih hread
          have hstep : Exchange.step ⟨⟨buffer, true⟩, .request, .read⟩ (.received piece) =
              Connection.poll ⟨buffer ++ piece, true⟩ .request := rfl
          refine ⟨kept, unread, hunread.trans (List.suffix_cons piece pieces), hrest, ?_⟩
          rw [Connection.poll_of_needMore hbuffer, List.map_cons, Progress.run_waiting_cons, hstep,
            hrun]
          rfl

/-- **A request on a server that answers** ends with the reply at the front of what was kept and the
answer, whatever the pieces in which its command is taken and the answer delivered. -/
theorem Serves.run_of_kept {command : Command} (h : Serves command.bytes answer events)
    (c : Connection) {rest : Bytes}
    (hread : (Reader.read {} (c.buffer ++ answer)).1 = .complete reply rest)
    (later : List Event) :
    ∃ (kept : Bytes) (unread : List Bytes), (∀ piece ∈ unread, piece ≠ []) ∧
      kept ++ unread.flatten = rest ∧
      (c.start (.request command)).run (events ++ later) =
        (.finished ⟨kept, false⟩ reply.result, command.bytes, unread.map .received ++ later) := by
  have hstart := c.start_request_eq h.encode_eq
  obtain ⟨htaken, hpieces, rfl⟩ := h
  obtain ⟨kept, unread, hunread, hrest, hrun⟩ := run_poll hread
  have hflushed : Exchange.step ⟨⟨c.buffer, true⟩, .request, .flush⟩ .flushed =
      Connection.poll ⟨c.buffer, true⟩ .request := rfl
  refine ⟨kept, unread, fun piece hmem => hpieces piece (hunread.subset hmem), hrest, ?_⟩
  rw [hstart, List.append_assoc, Progress.run_append, htaken.run,
    List.nil_append, List.cons_append, Progress.run_waiting_cons, hflushed, Progress.run_append,
    hrun, Progress.run_finished]
  simp [Exchange.accepted]

/-- With nothing kept and nothing behind the reply, nothing is left over. -/
theorem Serves.run {command : Command} (h : Serves command.bytes answer events)
    (hread : (Reader.read {} answer).1 = .complete reply []) (later : List Event) :
    (Connection.start {} (.request command)).run (events ++ later) =
      (.finished {} reply.result, command.bytes, later) := by
  obtain ⟨kept, unread, hunread, hrest, hrun⟩ := h.run_of_kept {} hread later
  obtain ⟨rfl, hnone⟩ := List.append_eq_nil_iff.mp hrest
  obtain rfl : unread = [] :=
    List.eq_nil_iff_forall_not_mem.mpr fun piece hmem =>
      hunread piece hmem (List.flatten_eq_nil_iff.mp hnone piece hmem)
  exact hrun

end Event

/-! ### Attempts over events -/

namespace Attempt

variable {credentials : Option Credentials}

/-- An attempt over events in order, with the bytes that the transport took on the way.  Events
after the end of the attempt are left over. -/
def Progress.run (credentials : Option Credentials) :
    Attempt.Progress → List Event → Attempt.Progress × Bytes × List Event
  | .waiting attempt, event :: events =>
      let (progress, taken, left) := (attempt.step credentials event).run credentials events
      (progress, attempt.accepted event ++ taken, left)
  | progress, events => (progress, [], events)

theorem run_waiting_cons (attempt : Attempt) (event : Event) (events : List Event) :
    (Progress.waiting attempt).run credentials (event :: events) =
      (((attempt.step credentials event).run credentials events).1,
        attempt.accepted event ++ ((attempt.step credentials event).run credentials events).2.1,
        ((attempt.step credentials event).run credentials events).2.2) :=
  rfl

theorem run_opened (c : Connection) (events : List Event) :
    (Progress.opened c).run credentials events = (.opened c, [], events) := by
  cases events <;> rfl

theorem run_failed (error : Error) (events : List Event) :
    (Progress.failed error).run credentials events = (.failed error, [], events) := by
  cases events <;> rfl

/-- An attempt goes as the request does that presents its credentials. -/
theorem run_ofRequest (p : RateLimit.Progress) (events : List Event) :
    (ofRequest p).run credentials events =
      (ofRequest (p.run events).1, (p.run events).2.1, (p.run events).2.2) := by
  induction events generalizing p with
  | nil =>
      rw [p.run_nil]
      cases ofRequest p <;> rfl
  | cons event events ih =>
      cases p with
      | waiting x =>
          change (Progress.waiting (.authenticating x)).run credentials (event :: events) = _
          rw [run_waiting_cons, Progress.run_waiting_cons, step, ih]
          rfl
      | finished c result =>
          rw [Progress.run_finished, ofRequest]
          split
          · exact run_opened _ _
          · exact run_failed _ _

/-- An attempt goes on as an attempt over any events. -/
theorem Progress.IsRequest.run {p : Attempt.Progress} (h : p.IsRequest)
    (credentials : Option Credentials) (events : List Event) :
    (p.run credentials events).1.IsRequest := by
  induction events generalizing p with
  | nil => cases p <;> exact h
  | cons event events ih =>
      cases h with
      | waiting h => exact ih (h.step credentials event)
      | opened h => exact .opened h
      | failed h => exact .failed h

/-- What a transport takes from an attempt over any events is no longer to be sent. -/
theorem taken_append_unsent (credentials : Option Credentials) (p : Attempt.Progress)
    (events : List Event) :
    (p.run credentials events).2.1 ++ (p.run credentials events).1.unsent credentials <+:
      p.unsent credentials := by
  induction events generalizing p with
  | nil => cases p <;> exact List.prefix_rfl
  | cons event events ih =>
      cases p with
      | waiting attempt =>
          have hstep := attempt.accepted_append_unsent credentials event
          have hrest := ih (attempt.step credentials event)
          rw [run_waiting_cons, List.append_assoc]
          exact ((List.prefix_append_right_inj _).mpr hrest).trans hstep
      | opened c => exact List.prefix_rfl
      | failed error => exact List.prefix_rfl

/-- An attempt fails in an event, or its transport takes what is no longer to be sent. -/
theorem IsRequest.step_cases {attempt : Attempt} (h : attempt.IsRequest)
    (credentials : Option Credentials) (event : Event) :
    (∃ error, attempt.step credentials event = .failed error) ∨
      attempt.accepted event ++ (attempt.step credentials event).unsent credentials =
        attempt.unsent credentials := by
  cases h with
  | connecting =>
      cases event with
      | connected => cases credentials <;> exact .inr rfl
      | connectFailed fault => exact .inl ⟨_, rfl⟩
      | _ => exact .inr rfl
  | @authenticating x h =>
      rw [Attempt.step, unsent_ofRequest]
      rcases (Exchange.goes h.task event).accepted_append_unsent with
        ⟨c, error, hp, herror⟩ | hunsent
      · rw [hp]
        cases herror <;> exact .inl ⟨_, rfl⟩
      · exact .inr hunsent

/-- An attempt that does not fail has sent what is no longer to be sent. -/
theorem Progress.IsRequest.taken_append_unsent {p : Attempt.Progress} (h : p.IsRequest)
    (credentials : Option Credentials) (events : List Event) :
    (∃ error, (p.run credentials events).1 = .failed error) ∨
      (p.run credentials events).2.1 ++ (p.run credentials events).1.unsent credentials =
        p.unsent credentials := by
  induction events generalizing p with
  | nil => cases p <;> exact .inr rfl
  | cons event events ih =>
      cases h with
      | opened | failed => exact .inr rfl
      | @waiting attempt h =>
          rw [run_waiting_cons]
          rcases h.step_cases credentials event with ⟨error, herror⟩ | hstep
          · rw [herror, run_failed]
            exact .inl ⟨error, rfl⟩
          · rcases ih (h.step credentials event) with herror | hrest
            · exact .inl herror
            · rw [List.append_assoc, hrest]
              exact .inr hstep

end Attempt

/-- What a transport takes from a request is the beginning of its command. -/
theorem Connection.taken_isPrefix (c : Connection) {command : Command}
    (hencode : command.encode = .ok command.bytes) (events : List Event) :
    ((c.start (.request command)).run events).2.1 <+: command.bytes := by
  have hsent := Attempt.taken_append_unsent none (Attempt.ofRequest (c.start (.request command)))
    events
  rw [Attempt.run_ofRequest, Attempt.unsent_ofRequest, Attempt.unsent_ofRequest,
    c.start_request_eq hencode] at hsent
  rw [c.start_request_eq hencode]
  exact (List.prefix_append _ _).trans hsent

/-- **An attempt on a server that lets its client in** opens a connection with nothing left
unread. -/
theorem Event.Welcomes.run {credentials : Option Credentials} {events : List Event}
    (h : Event.Welcomes credentials events) (later : List Event) :
    (Attempt.Progress.waiting .connecting).run credentials (events ++ later) =
      (.opened {}, greeting credentials, later) := by
  cases h with
  | free => exact Attempt.run_opened {} later
  | @accepted presented answer text events hserves hread =>
      have hconnected : Attempt.step (some presented) .connecting .connected =
          Attempt.ofRequest (Connection.start {} (.request presented.command)) := rfl
      rw [List.cons_append, Attempt.run_waiting_cons, hconnected, Attempt.run_ofRequest,
        hserves.run hread]
      rfl

end RateLimit
