import RateLimit.Proofs.Connection.Wire

/-!
# What a request sends and reads

Of the server nothing is assumed here.  A request sends its command and nothing else, once at most;
it ends with a reply exactly if the whole command was passed on and a complete reply stands at the
front of the bytes that were left unread on the connection and those that were delivered since.  An
attempt to open a connection that presents credentials is such a request, on a connection with
nothing left unread, and it opens the connection if the reply is a status line.

## Main definitions

* `Wire.Sends` : nothing has gone over a wire but a command, once at most.
* `Wire.Replied` : a command has gone over a wire and is replied to.
* `Wire.Round` : how a wire stands to a request in progress that began on it.
* `Wire.Greeted`, `Wire.Admitted` : what goes over a wire before a connection may be used.
* `Attempt.Greets` : how a wire stands to an attempt to open a connection.

## Main results

* `Wire.Round.outcome` : what a request comes to in an event.
* `Attempt.Greets.outcome` : what an attempt to open a connection comes to in an event.
-/

namespace RateLimit

namespace Wire

/-- The bytes that a transport has taken. -/
def written (w : Wire) : Bytes :=
  w.commands.flatten ++ w.pending

/-- Nothing has gone over a wire but a command, once at most. -/
structure Sends (command : Bytes) (w : Wire) : Prop where
  commands : w.commands <+: [command]
  written : w.written <+: command

/-- A command has gone over a wire, and a complete reply to it stands at the front of the bytes that
were kept and those that were delivered. -/
structure Replied (kept command : Bytes) (w : Wire) (reply : Reply) (rest : Bytes) : Prop where
  pending : w.pending = []
  commands : w.commands = [command]
  read : (Reader.read {} (kept ++ w.delivered)).1 = .complete reply rest

/-- A wire over which nothing had passed when a request began, and the request, which sends the
command on a connection with the bytes that were kept. -/
inductive Round (kept command : Bytes) : Wire → Exchange → Prop
  /-- A part of the command is taken. -/
  | writing {sent rest : Bytes} (h : sent ++ rest = command) :
      Round kept command ⟨sent, [], []⟩ ⟨⟨kept, true⟩, .request, .write rest⟩
  /-- The command is taken. -/
  | flushing : Round kept command ⟨command, [], []⟩ ⟨⟨kept, true⟩, .request, .flush⟩
  /-- The command is passed on, and no complete reply has arrived. -/
  | reading {arrived : Bytes} (h : (Reader.read {} (kept ++ arrived)).1 = .needMore) :
      Round kept command ⟨[], [command], arrived⟩ ⟨⟨kept ++ arrived, true⟩, .request, .read⟩

/-- What a request comes to in an event. -/
inductive Round.Outcome (kept command : Bytes) (w : Wire) : Progress → Prop
  /-- The request goes on. -/
  | waiting {x : Exchange} (h : Round kept command w x) : Outcome kept command w (.waiting x)
  /-- The request fails, without a complete reply. -/
  | failed {c : Connection} {error : Error} (herror : error.OfExchange) (hsends : w.Sends command)
      (hnone : ∀ reply rest, ¬w.Replied kept command reply rest) :
      Outcome kept command w (.finished c (.error error))
  /-- The request ends with the reply. -/
  | answered {reply : Reply} {rest : Bytes} (h : w.Replied kept command reply rest) :
      Outcome kept command w (.finished ⟨rest, false⟩ reply.result)

variable {kept command : Bytes} {w : Wire} {x : Exchange}

theorem sends_empty (command : Bytes) : Sends command {} :=
  ⟨List.nil_prefix, List.nil_prefix⟩

theorem sends_pending {pending : Bytes} (h : pending <+: command) :
    Sends command ⟨pending, [], []⟩ :=
  ⟨List.nil_prefix, h⟩

theorem sends_all (command delivered : Bytes) : Sends command ⟨[], [command], delivered⟩ where
  commands := List.prefix_rfl
  written := by
    rw [Wire.written, List.flatten_singleton, List.append_nil]

theorem Replied.sends {reply : Reply} {rest : Bytes} (h : w.Replied kept command reply rest) :
    w.Sends command := by
  obtain ⟨pending, commands, delivered⟩ := w
  obtain rfl : pending = [] := h.pending
  obtain rfl : commands = [command] := h.commands
  exact sends_all command delivered

theorem Round.sends (h : Round kept command w x) : w.Sends command := by
  cases h with
  | writing h => exact sends_pending ⟨_, h⟩
  | flushing => exact sends_pending List.prefix_rfl
  | reading => exact sends_all ..

/-- A request in progress has got no complete reply. -/
theorem Round.not_replied (h : Round kept command w x) (reply : Reply) (rest : Bytes) :
    ¬w.Replied kept command reply rest := by
  intro hreplied
  cases h with
  | writing | flushing => cases hreplied.commands
  | reading h => cases h.symm.trans hreplied.read

/-- A request begins with nothing passed. -/
theorem round_start (kept command : Bytes) :
    Round kept command {} ⟨⟨kept, true⟩, .request, .write command⟩ :=
  .writing (List.nil_append command)

/-- A request that looks for its reply among the bytes that it has finds it, goes on or fails. -/
theorem outcome_poll (kept command arrived : Bytes) :
    Round.Outcome kept command ⟨[], [command], arrived⟩
      (Connection.poll ⟨kept ++ arrived, true⟩ .request) := by
  cases hread : (Reader.read {} (kept ++ arrived)).1 with
  | needMore =>
      rw [Connection.poll_of_needMore hread]
      exact .waiting (.reading hread)
  | complete reply rest =>
      rw [Connection.poll_of_complete hread]
      exact .answered ⟨rfl, rfl, hread⟩
  | invalid fault =>
      rw [Connection.poll_of_invalid hread]
      refine .failed (.protocol fault) (sends_all ..) fun reply rest hreplied => ?_
      cases hread.symm.trans hreplied.read

/-- A request fails in an event in which nothing passes. -/
theorem Round.failed (h : Round kept command w x) {event : Event} (hafter : w.after x event = w)
    {error : Error} (herror : error.OfExchange) :
    Outcome kept command (w.after x event) (.finished x.connection (.error error)) := by
  rw [hafter]
  exact .failed herror h.sends h.not_replied

/-- A request does not wait for an event, and nothing passes in it. -/
theorem Round.stays (h : Round kept command w x) {event : Event} (hafter : w.after x event = w) :
    Outcome kept command (w.after x event) (.waiting x) := by
  rw [hafter]
  exact .waiting h

/-- What a request that is writing its command comes to when its transport takes bytes. -/
theorem outcome_wrote {sent rest : Bytes} (h : sent ++ rest = command) (count : Nat) :
    Round.Outcome kept command
      (after ⟨sent, [], []⟩ ⟨⟨kept, true⟩, .request, .write rest⟩ (.wrote count))
      (Exchange.step ⟨⟨kept, true⟩, .request, .write rest⟩ (.wrote count)) := by
  have hround : Round kept command ⟨sent, [], []⟩ ⟨⟨kept, true⟩, .request, .write rest⟩ :=
    .writing h
  change Round.Outcome kept command _
    (if count = 0 then _ else if count < rest.length then _ else _)
  split_ifs with hzero hcount
  · subst hzero
    exact hround.failed (by rw [after_wrote, List.take_zero, List.append_nil]) (.transport _)
  · rw [after_wrote]
    exact .waiting (.writing (by rw [List.append_assoc, List.take_append_drop, h]))
  · rw [after_wrote, List.take_of_length_le (Nat.le_of_not_lt hcount), h]
    exact .waiting .flushing

/-- What a request comes to in an event. -/
theorem Round.outcome (h : Round kept command w x) (event : Event) :
    Outcome kept command (w.after x event) (x.step event) := by
  have hround := h
  cases h with
  | writing h =>
      cases event with
      | wrote count => exact outcome_wrote h count
      | writeFailed fault =>
          exact hround.failed (after_eq_self rfl rfl fun hread => by cases hread) (.transport fault)
      | _ => exact hround.stays (after_eq_self rfl rfl fun hread => by cases hread)
  | flushing =>
      cases event with
      | flushed =>
          have hpoll := outcome_poll kept command []
          rwa [List.append_nil] at hpoll
      | flushFailed fault =>
          exact hround.failed (after_eq_self rfl rfl fun hread => by cases hread) (.transport fault)
      | _ => exact hround.stays (after_eq_self rfl rfl fun hread => by cases hread)
  | @reading arrived =>
      cases event with
      | received data =>
          rw [after_received]
          change Outcome kept command _ (Connection.poll ⟨kept ++ arrived ++ data, true⟩ .request)
          rw [List.append_assoc]
          exact outcome_poll kept command _
      | readFailed fault =>
          exact hround.failed (after_eq_self rfl rfl fun _ _ => Event.noConfusion)
            (.transport fault)
      | ended =>
          have hafter : Wire.after ⟨[], [command], arrived⟩
              ⟨⟨kept ++ arrived, true⟩, .request, .read⟩ .ended = ⟨[], [command], arrived⟩ :=
            after_eq_self rfl rfl fun _ _ => Event.noConfusion
          change Outcome kept command _ (if (kept ++ arrived).isEmpty then _ else _)
          split
          · exact hround.failed hafter (.transport _)
          · exact hround.failed hafter (.protocol _)
      | _ => exact hround.stays (after_eq_self rfl rfl fun _ _ => Event.noConfusion)

/-! ### Connections that are opened -/

/-- Nothing has gone over a wire but the command that presents credentials, once at most, and
without credentials nothing at all. -/
inductive Greeted : Option Credentials → Wire → Prop
  | free : Greeted none {}
  | presented {credentials : Credentials} {w : Wire} (h : w.Sends credentials.command.bytes) :
      Greeted (some credentials) w

/-- A wire that was greeted may be used: with credentials, the command that presents them has been
passed on and a status line stands at the front of what was delivered. -/
inductive Admitted : Option Credentials → Wire → Prop
  | free : Admitted none {}
  | accepted {credentials : Credentials} {w : Wire} {text : String} {rest : Bytes}
      (h : w.Replied [] credentials.command.bytes (.status text) rest) :
      Admitted (some credentials) w

theorem greeted_empty (credentials : Option Credentials) : Greeted credentials {} := by
  cases credentials with
  | none => exact .free
  | some credentials => exact .presented (sends_empty _)

theorem Admitted.greeted {credentials : Option Credentials} (h : w.Admitted credentials) :
    w.Greeted credentials := by
  cases h with
  | free => exact .free
  | accepted h => exact .presented h.sends

end Wire

namespace Attempt

/-- What has passed over the transport of an attempt after an event. -/
def observe (w : Wire) : Attempt → Event → Wire
  | .connecting, _ => w
  | .authenticating x, event => w.after x event

/-- How the wire of an attempt to open a connection stands to it. -/
inductive Greets (credentials : Option Credentials) : Wire → Attempt → Prop
  /-- Nothing passes before the transport is open. -/
  | connecting : Greets credentials {} .connecting
  /-- The credentials are the first that passes. -/
  | authenticating {presented : Credentials} (h : credentials = some presented) {w : Wire}
      {x : Exchange} (hround : w.Round [] presented.command.bytes x) :
      Greets credentials w (.authenticating x)

/-- What an attempt to open a connection comes to in an event. -/
inductive Greets.Outcome (credentials : Option Credentials) (w : Wire) : Attempt.Progress → Prop
  /-- The attempt goes on. -/
  | waiting {attempt : Attempt} (h : attempt.Greets credentials w) :
      Outcome credentials w (.waiting attempt)
  /-- The connection is open and whole. -/
  | opened {c : Connection} (hwhole : c.broken = false) (h : w.Admitted credentials) :
      Outcome credentials w (.opened c)
  /-- The attempt has failed. -/
  | failed (error : Error) (h : w.Greeted credentials) : Outcome credentials w (.failed error)

variable {credentials : Option Credentials} {w : Wire} {attempt : Attempt}

theorem Greets.greeted (h : attempt.Greets credentials w) : w.Greeted credentials := by
  cases h with
  | connecting => exact Wire.greeted_empty credentials
  | authenticating h hround =>
      subst h
      exact .presented hround.sends

/-- What comes of the request that presents credentials. -/
theorem outcome_ofRequest {presented : Credentials} {p : RateLimit.Progress}
    (h : Wire.Round.Outcome [] presented.command.bytes w p) :
    Greets.Outcome (some presented) w (ofRequest p) := by
  cases h with
  | waiting hround => exact .waiting (.authenticating rfl hround)
  | failed herror hsends => cases herror <;> exact .failed _ (.presented hsends)
  | @answered reply rest h =>
      cases reply with
      | status text => exact .opened rfl (.accepted h)
      | error | integer | bulk | null | array => exact .failed _ (.presented h.sends)

/-- What an attempt to open a connection comes to in an event. -/
theorem Greets.outcome (h : attempt.Greets credentials w) (event : Event) :
    Outcome credentials (attempt.observe w event) (attempt.step credentials event) := by
  cases h with
  | connecting =>
      cases event with
      | connected =>
          cases credentials with
          | none => exact .opened rfl .free
          | some presented =>
              change Outcome (some presented) {}
                (ofRequest (Connection.start {} (.request presented.command)))
              rw [Connection.start_request rfl]
              exact .waiting (.authenticating rfl (Wire.round_start [] _))
      | connectFailed fault => exact .failed _ (Wire.greeted_empty credentials)
      | _ => exact .waiting .connecting
  | authenticating h hround =>
      subst h
      exact outcome_ofRequest (hround.outcome event)

end Attempt

end RateLimit
