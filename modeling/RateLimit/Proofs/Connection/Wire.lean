import Mathlib.Data.List.Infix
import RateLimit.Proofs.Connection.Request
import RateLimit.Proofs.Reply.Extension

/-!
# What passes over a transport

Beside a connection stands a record of all that has passed over its transport: the commands that
were passed on and the bytes that were delivered.  Of the server nothing is assumed but that it
answers the commands that have reached it, in their order, with one reply each; it may stop at any
byte.  A request that begins on a connection where every command is answered then either fails, or
ends with the answer to its own command and leaves every command answered.

## Main definitions

* `Wire` : what has passed over a transport.
* `Server` : what a server answers, and `Server.Allows` : whether a wire can be its doing.
* `Wire.Settled` : every command is answered.
* `Wire.Stage` : how a wire stands to a request in progress on it.

## Main results

* `Wire.Stage.outcome` : what a request comes to in an event.
-/

namespace RateLimit

/-- What has passed over a transport. -/
structure Wire where
  /-- The bytes that the transport has taken and not passed on yet. -/
  pending : Bytes := []
  /-- What the transport has passed on, one command after the other. -/
  commands : List Bytes := []
  /-- The bytes that the transport has delivered. -/
  delivered : Bytes := []

/-- What a server answers to the commands that reach it on each transport, in their order.  An
answer is one reply: where a reply is found at the front of it, nothing is behind. -/
structure Server where
  /-- The answer to a command, by the number of the transport and of the command on it. -/
  answer : Nat → Nat → Bytes
  single : ∀ dial i reply rest,
    (Reader.read {} (answer dial i)).1 = .complete reply rest → rest = []

namespace Server

/-- The answers to the first commands on a transport, one behind the other. -/
def stream (server : Server) (dial n : Nat) : Bytes :=
  (List.range n).flatMap (server.answer dial)

/-- Whether a server has sent nothing on a transport but answers, in their order, to commands that
had been passed on. -/
def Allows (server : Server) (dial : Nat) (w : Wire) : Prop :=
  w.delivered <+: server.stream dial w.commands.length

/-- Whether the answer to a command is the given reply. -/
def Answers (server : Server) (dial i : Nat) (reply : Reply) : Prop :=
  (Reader.read {} (server.answer dial i)).1 = .complete reply []

theorem stream_succ (server : Server) (dial n : Nat) :
    server.stream dial (n + 1) = server.stream dial n ++ server.answer dial n := by
  rw [stream, List.range_succ, List.flatMap_append, List.flatMap_singleton]
  rfl

/-- A reply that is found in the beginning of an answer is the answer. -/
theorem answers_of_read {server : Server} {dial i : Nat} {arrived rest : Bytes} {reply : Reply}
    (harrived : arrived <+: server.answer dial i)
    (h : (Reader.read {} arrived).1 = .complete reply rest) :
    server.Answers dial i reply ∧ rest = [] ∧ arrived = server.answer dial i := by
  obtain ⟨later, hlater⟩ := harrived
  have hread : (Reader.read {} (server.answer dial i)).1 = .complete reply (rest ++ later) := by
    rw [← hlater, Reader.settles_read {} arrived (by simp [h]) later, h, Reading.extend_complete]
  have hnil := server.single dial i reply _ hread
  obtain ⟨rfl, rfl⟩ := List.append_eq_nil_iff.1 hnil
  exact ⟨hread, rfl, by rw [← hlater, List.append_nil]⟩

end Server

/-! ### Wires and requests -/

/-- The bytes that a call takes off its transport in an event. -/
def Exchange.arrived (x : Exchange) (event : Event) : Bytes :=
  match x.awaiting, event with
  | .read, .received data => data
  | _, _ => []

namespace Wire

/-- What has passed over a transport after an event of a call. -/
def after (w : Wire) (x : Exchange) (event : Event) : Wire where
  pending := if x.flushes event then [] else w.pending ++ x.accepted event
  commands := if x.flushes event then w.commands ++ [w.pending] else w.commands
  delivered := w.delivered ++ x.arrived event

/-- Whether every command that went over a wire is answered in full and nothing else has passed. -/
structure Settled (server : Server) (dial : Nat) (w : Wire) : Prop where
  pending : w.pending = []
  delivered : w.delivered = server.stream dial w.commands.length
  answered : ∀ i < w.commands.length, ∃ reply, server.Answers dial i reply

theorem settled_empty (server : Server) (dial : Nat) : Settled server dial {} :=
  ⟨rfl, rfl, fun _ h => (Nat.not_lt_zero _ h).elim⟩

/-- A wire, and a request in progress on it that sends a command: what the wire was when the
request began, what it is now, and what the request has come to. -/
inductive Stage (before : Wire) (command : Bytes) : Wire → Exchange → Prop
  /-- A part of the command is taken. -/
  | writing {sent rest : Bytes} (h : sent ++ rest = command) :
      Stage before command { before with pending := sent } ⟨⟨[], true⟩, .request, .write rest⟩
  /-- The command is taken. -/
  | flushing :
      Stage before command { before with pending := command } ⟨⟨[], true⟩, .request, .flush⟩
  /-- The command is passed on, and a part of its answer has arrived. -/
  | reading (arrived : Bytes) :
      Stage before command ⟨[], before.commands ++ [command], before.delivered ++ arrived⟩
        ⟨⟨arrived, true⟩, .request, .read⟩

/-- A wire, and what a request on it comes to in an event. -/
inductive Outcome (server : Server) (dial : Nat) (before : Wire) (command : Bytes) (x : Exchange) :
    Wire → Progress → Prop
  /-- The request goes on. -/
  | waiting {w : Wire} {x' : Exchange} (h : Stage before command w x') :
      Outcome server dial before command x w (.waiting x')
  /-- The request fails. -/
  | failed {w : Wire} {c : Connection} {error : Error} (hbroken : c.broken = true)
      (herror : error.OfExchange) :
      Outcome server dial before command x w (.finished c (.error error))
  /-- The request, which waited for bytes, ends with the answer to its command. -/
  | answered {w : Wire} {reply : Reply} (hawaiting : x.awaiting = .read)
      (hreply : server.Answers dial before.commands.length reply)
      (hcommands : w.commands = before.commands ++ [command]) (hw : Settled server dial w) :
      Outcome server dial before command x w (.finished {} reply.result)

variable {server : Server} {dial : Nat} {before w : Wire} {command : Bytes} {x : Exchange}

theorem Stage.isRequest (h : Stage before command w x) : x.IsRequest := by
  cases h <;> exact ⟨rfl, rfl⟩

/-- Whoever waits for an answer has sent its command last. -/
theorem Stage.commands_of_read (h : Stage before command w x) (hread : x.awaiting = .read) :
    w.commands = before.commands ++ [command] := by
  cases h with
  | reading => rfl
  | writing | flushing => cases hread

/-- An event that passes nothing leaves a wire as it is. -/
theorem after_eq_self {event : Event} (haccepted : x.accepted event = [])
    (hflushes : x.flushes event = false)
    (hread : x.awaiting = .read → ∀ data, event ≠ .received data) :
    w.after x event = w := by
  have harrived : x.arrived event = [] := by
    unfold Exchange.arrived
    split
    · rename_i data hawaiting
      exact (hread hawaiting data rfl).elim
    · rfl
  rw [after, haccepted, hflushes, harrived, List.append_nil, List.append_nil]
  rfl

theorem after_wrote (w : Wire) (c : Connection) (task : Task) (rest : Bytes) (count : Nat) :
    w.after ⟨c, task, .write rest⟩ (.wrote count) =
      { w with pending := w.pending ++ rest.take count } :=
  congrArg (Wire.mk _ _) (List.append_nil _)

theorem after_received (commands : List Bytes) (delivered : Bytes) (c : Connection) (task : Task)
    (data : Bytes) :
    after ⟨[], commands, delivered⟩ ⟨c, task, .read⟩ (.received data) =
      ⟨[], commands, delivered ++ data⟩ := rfl

/-- What has arrived of the answer to the last command is a beginning of it. -/
theorem Settled.arrived_isPrefix (hbefore : Settled server dial before) {arrived : Bytes}
    (h : server.Allows dial ⟨[], before.commands ++ [command], before.delivered ++ arrived⟩) :
    arrived <+: server.answer dial before.commands.length := by
  rw [Server.Allows] at h
  dsimp only at h
  rw [List.length_append, List.length_singleton, Server.stream_succ, hbefore.delivered,
    List.prefix_append_right_inj] at h
  exact h

/-- A request that looks for its reply among the bytes that have arrived finds the answer to its
command or goes on, unless it fails. -/
theorem Settled.outcome_poll (hbefore : Settled server dial before) (hawaiting : x.awaiting = .read)
    {arrived : Bytes}
    (h : server.Allows dial ⟨[], before.commands ++ [command], before.delivered ++ arrived⟩) :
    Outcome server dial before command x
      ⟨[], before.commands ++ [command], before.delivered ++ arrived⟩
      (Connection.poll ⟨arrived, true⟩ .request) := by
  rcases Connection.poll_request_cases ⟨arrived, true⟩ with
    hwait | ⟨reply, rest, hread, hdone⟩ | ⟨fault, hfail⟩
  · rw [hwait]
    exact .waiting (.reading arrived)
  · obtain ⟨hreply, rfl, hall⟩ := Server.answers_of_read (hbefore.arrived_isPrefix h) hread
    rw [hdone]
    refine .answered hawaiting hreply rfl ⟨rfl, ?_, fun i hi => ?_⟩
    · rw [hbefore.delivered, hall, List.length_append, List.length_singleton, Server.stream_succ]
    · rw [List.length_append, List.length_singleton] at hi
      rcases Nat.lt_succ_iff_lt_or_eq.1 hi with hlt | rfl
      · exact hbefore.answered i hlt
      · exact ⟨reply, hreply⟩
  · rw [hfail]
    exact .failed rfl (.protocol fault)

/-- What a request comes to in an event on a wire that is the doing of the server. -/
theorem Stage.outcome (h : Stage before command w x) (hbefore : Settled server dial before)
    (event : Event) (hallows : server.Allows dial (w.after x event)) :
    Outcome server dial before command x (w.after x event) (x.step event) := by
  have hgoes := Exchange.goes h.isRequest.task event
  generalize x.step event = p at hgoes ⊢
  cases hgoes with
  | stays haccepted hflushes hread =>
      rw [after_eq_self haccepted hflushes hread]
      exact .waiting h
  | failed herror => exact .failed h.isRequest.broken herror
  | @wrote rest count hawaiting hcount =>
      cases h with
      | @writing sent _ h =>
          cases hawaiting
          rw [after_wrote]
          exact .waiting (.writing (by rw [List.append_assoc, List.take_append_drop, h]))
      | flushing | reading => cases hawaiting
  | @written rest count hawaiting hcount =>
      cases h with
      | @writing sent _ h =>
          cases hawaiting
          rw [after_wrote, List.take_of_length_le hcount, h]
          exact .waiting .flushing
      | flushing | reading => cases hawaiting
  | passed hawaiting =>
      cases h with
      | flushing => exact .waiting (.reading [])
      | writing | reading => cases hawaiting
  | received hawaiting =>
      cases h with
      | @reading arrived =>
          rw [after_received, List.append_assoc] at hallows ⊢
          exact hbefore.outcome_poll rfl hallows
      | writing | flushing => cases hawaiting

/-- A request that begins on a settled wire is about to write its command. -/
theorem Settled.stage_start (hw : Settled server dial w) (command : Bytes) :
    Stage w command w ⟨⟨[], true⟩, .request, .write command⟩ := by
  have hstage : Stage w command { w with pending := [] } ⟨⟨[], true⟩, .request, .write command⟩ :=
    .writing (List.nil_append command)
  have hself : { w with pending := [] } = w := by rw [← hw.pending]
  rwa [hself] at hstage

end Wire

end RateLimit
