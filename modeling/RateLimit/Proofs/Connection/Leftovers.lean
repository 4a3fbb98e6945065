import RateLimit.Proofs.Connection.Runs
import RateLimit.Proofs.Connection.Uses

/-!
# Requests on a connection with leftovers

A connection puts its commands together in a buffer of its own, in which an earlier command may have
been left, and it keeps the bytes that have arrived and were not read.  A request empties the first
buffer and begins with what stands in the second.  However the transport behaves, and wherever the
request is given up, the transport has taken a beginning of the command and nothing else; and the
request returns a reply, and leaves the connection whole, exactly if the command was passed on and a
complete reply was found.  If the transport takes the command, passes it on and delivers an answer
that completes a reply, the request does return it.

## Main definitions

* `Connection.Buffered` : a connection with the buffer of its commands.
* `Progress.IsAnswered` : a call has returned a reply or an error line of the server.

## Main results

* `Wire.written_afterAll` : a wire holds what the transport has taken.
* `Connection.Buffered.request_exact` : what a request sends, returns and leaves.
-/

namespace RateLimit

/-! ### What a transport takes -/

namespace Wire

theorem written_after (w : Wire) (x : Exchange) (event : Event) :
    (w.after x event).written = w.written ++ x.accepted event := by
  rw [written, written, after]
  by_cases hflushes : x.flushes event = true
  · -- Whoever passes on a command has taken all of it before.
    have haccepted : x.accepted event = [] := by
      rcases x.accepted_cases event with hnone | ⟨rest, count, hrest, rfl⟩
      · exact hnone
      · rw [Exchange.flushes, hrest] at hflushes
        cases hflushes
    simp [hflushes, haccepted]
  · simp [hflushes]

theorem afterAll_finished (w : Wire) (c : Connection) (result : Result) (events : List Event) :
    w.afterAll (.finished c result) events = w := by
  cases events <;> rfl

/-- A wire holds the bytes that the transport has taken during a call. -/
theorem written_afterAll (w : Wire) (p : Progress) (events : List Event) :
    (w.afterAll p events).written = w.written ++ (p.run events).2.1 := by
  induction events generalizing w p with
  | nil => cases p <;> exact (List.append_nil _).symm
  | cons event events ih =>
      cases p with
      | waiting x =>
          rw [Progress.run_waiting_cons, afterAll, ih, written_after, List.append_assoc]
      | finished c result =>
          rw [afterAll_finished, Progress.run_finished, List.append_nil]

end Wire

/-! ### What a request returns -/

/-- A call has returned a reply, or an error line of the server. -/
def Progress.IsAnswered : Progress → Prop
  | .finished _ (.ok (some _)) | .finished _ (.error (.server _)) => True
  | _ => False

theorem Reply.isAnswered_result (c : Connection) (reply : Reply) :
    (Progress.finished c reply.result).IsAnswered := by
  cases reply <;> trivial

theorem Error.OfExchange.not_isAnswered {error : Error} (h : error.OfExchange) (c : Connection) :
    ¬(Progress.finished c (.error error)).IsAnswered := by
  cases h <;> exact id

/-- A request leaves its connection whole exactly if it has returned a reply or an error line. -/
theorem Progress.IsRequest.broken_eq_false_iff {p : Progress} (h : p.IsRequest) :
    p.connection.broken = false ↔ p.IsAnswered := by
  cases h with
  | @waiting x h => exact iff_of_false (by simp [Progress.connection, h.broken]) id
  | answered rest reply => exact iff_of_true rfl (reply.isAnswered_result _)
  | failed hbroken herror =>
      exact iff_of_false (by simp [Progress.connection, hbroken]) (herror.not_isAnswered _)

namespace Wire.Round.Outcome

variable {kept command : Bytes} {w : Wire} {p : Progress}

/-- A request has returned a reply or an error line exactly if its command has been replied to. -/
theorem isAnswered_iff (h : Round.Outcome kept command w p) :
    p.IsAnswered ↔ ∃ reply rest, w.Replied kept command reply rest := by
  cases h with
  | waiting hround =>
      refine iff_of_false id ?_
      rintro ⟨reply, rest, hreplied⟩
      exact hround.not_replied reply rest hreplied
  | failed herror hsends hnone =>
      refine iff_of_false (herror.not_isAnswered _) ?_
      rintro ⟨reply, rest, hreplied⟩
      exact hnone reply rest hreplied
  | @answered reply rest hreplied =>
      exact iff_of_true (reply.isAnswered_result _) ⟨reply, rest, hreplied⟩

/-- A request that has been replied to has returned that reply and left what follows it. -/
theorem eq_of_replied (h : Round.Outcome kept command w p) {reply : Reply} {rest : Bytes}
    (hreplied : w.Replied kept command reply rest) :
    p = .finished ⟨rest, false⟩ reply.result := by
  cases h with
  | waiting hround => exact absurd hreplied (hround.not_replied reply rest)
  | failed herror hsends hnone => exact absurd hreplied (hnone reply rest)
  | @answered reply' rest' hreplied' =>
      obtain ⟨rfl, rfl⟩ : reply' = reply ∧ rest' = rest := by
        simpa using hreplied'.read.symm.trans hreplied.read
      rfl

end Wire.Round.Outcome

theorem Wire.Replied.written_eq {kept command : Bytes} {w : Wire} {reply : Reply} {rest : Bytes}
    (h : w.Replied kept command reply rest) : w.written = command := by
  rw [Wire.written, h.commands, h.pending, List.flatten_singleton, List.append_nil]

/-! ### The buffer of commands -/

namespace Connection

/-- What a request comes to over events in order, whether its command can be sent or not. -/
theorem outcome_start (c : Connection) (command : Command) (events : List Event) :
    Wire.Round.Outcome c.buffer command.bytes
      (Wire.afterAll {} (c.start (.request command)) events)
      ((c.start (.request command)).run events).1 := by
  cases command with
  | cons word words => exact c.outcome_request rfl events
  | nil =>
      change Wire.Round.Outcome c.buffer []
        (Wire.afterAll {} (.finished { c with broken := true } _) events)
        (Progress.run (.finished { c with broken := true } _) events).1
      rw [Progress.run_finished, Wire.afterAll_finished]
      exact .failed (.protocol _) (Wire.sends_empty _) fun reply rest h => by cases h.commands

/-- What a transport takes from a request is the beginning of its command, whether the command can
be sent or not. -/
theorem taken_start_isPrefix (c : Connection) (command : Command) (events : List Event) :
    ((c.start (.request command)).run events).2.1 <+: command.bytes := by
  cases command with
  | cons word words => exact c.taken_isPrefix rfl events
  | nil =>
      change (Progress.run (.finished { c with broken := true } _) events).2.1 <+: []
      rw [Progress.run_finished]

/-- A connection with the buffer in which it puts its commands together, and with what an earlier
command has left there. -/
structure Buffered where
  connection : Connection
  outgoing : Bytes

namespace Buffered

/-- Begins a request, and tells what is in the buffer from then on.  The buffer is emptied, the
command is put together in it, and the transport is to take what it holds. -/
def request (b : Buffered) (command : Command) : Progress × Bytes :=
  let marked := { b.connection with broken := true }
  match command.append (b.outgoing.take 0) with
  | (.ok (), outgoing) => (.waiting ⟨marked, .request, .write outgoing⟩, outgoing)
  | (.error fault, outgoing) => (.finished marked (.error (.protocol fault)), outgoing)

/-- A request does not depend on what was left in the buffer. -/
theorem request_eq (b : Buffered) (command : Command) :
    b.request command = (b.connection.start (.request command), command.bytes) := by
  cases command with
  | nil => rfl
  | cons word words => rfl

/-- **One round trip, exactly.**  Whatever a connection is, whatever is left in its two buffers,
whatever happens on its transport, and wherever the request is given up: the transport has taken a
beginning of the command and nothing else, and nothing at all if the command cannot be sent.  The
request has returned a reply, or an error line of the server, exactly if the whole command was taken
and passed on and a complete reply then stood at the front of the bytes that were kept and those
that were delivered.  The connection counts as whole afterwards exactly if the request has returned
one of these, and exactly the bytes behind the reply are then left on it.

And that comes about: if the transport takes the command, passes it on and delivers an answer, in
whatever pieces, and a reply is complete with the answer behind the bytes that were kept, the
request returns it.  What is delivered behind the reply is left on the connection, but for the
pieces that the request did not wait for. -/
theorem request_exact (b : Buffered) (command : Command) (events : List Event) :
    let begun := b.request command
    let (progress, taken, left) := begun.1.run events
    let w := Wire.afterAll {} begun.1 events
    begun = (b.connection.start (.request command), command.bytes) ∧
      taken <+: command.bytes ∧ (command = [] → taken = []) ∧ w.written = taken ∧
      (progress.IsAnswered ↔
        ∃ reply rest, w.Replied b.connection.buffer command.bytes reply rest) ∧
      (progress.connection.broken = false ↔ progress.IsAnswered) ∧
      (∀ reply rest, w.Replied b.connection.buffer command.bytes reply rest →
        taken = command.bytes ∧ progress = .finished ⟨rest, false⟩ reply.result) ∧
      ∀ served later answer reply rest, events = served ++ later →
        Event.Serves command.bytes answer served →
        (Reader.read {} (b.connection.buffer ++ answer)).1 = .complete reply rest →
        ∃ (kept : Bytes) (unread : List Bytes),
          kept ++ unread.flatten = rest ∧ left = unread.map .received ++ later ∧
          taken = command.bytes ∧ progress = .finished ⟨kept, false⟩ reply.result := by
  intro begun
  have hbegun : begun = (b.connection.start (.request command), command.bytes) :=
    b.request_eq command
  have houtcome := b.connection.outcome_start command events
  have htaken := b.connection.taken_start_isPrefix command events
  have hwritten := Wire.written_afterAll {} (b.connection.start (.request command)) events
  have hrequest := (b.connection.start_isRequest command).run events
  rw [hbegun]
  refine ⟨rfl, htaken, ?_, hwritten, houtcome.isAnswered_iff, hrequest.broken_eq_false_iff,
    fun reply rest hreplied => ⟨?_, houtcome.eq_of_replied hreplied⟩, ?_⟩
  · rintro rfl
    exact List.prefix_nil.mp htaken
  · exact hwritten.symm.trans hreplied.written_eq
  · rintro served later answer reply rest rfl hserves hread
    obtain ⟨kept, unread, -, hrest, hrun⟩ := hserves.run_of_kept b.connection hread later
    exact ⟨kept, unread, hrest, congrArg (·.2.2) hrun, congrArg (·.2.1) hrun, congrArg (·.1) hrun⟩

/-- A command was left in the buffer, and a part of a reply was kept: the request sends its own
command, in two pieces, and ends with the reply of which that was a part. -/
example :
    let b : Buffered := ⟨⟨Bytes.ofString "+la", true⟩, Bytes.ofString "*1\r\n$1\r\nB\r\n"⟩
    let events := [.wrote 4, .wrote 7, .flushed, .received (Bytes.ofString "te\r\n:1")]
    let run := (b.request (.ofTexts ["A"])).1.run events
    run.2.1 = Bytes.ofString "*1\r\n$1\r\nA\r\n" ∧
      run.1 = .finished ⟨Bytes.ofString ":1", false⟩ (.ok (some (.status "late"))) :=
  ⟨rfl, rfl⟩

end Buffered

end Connection

end RateLimit
