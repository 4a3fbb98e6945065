import Mathlib.Data.List.Forall2
import RateLimit.Proofs.Connection.RoundTrip

/-!
# Connections of clients that differ in the password

Two clients are set up alike but for the password, and the same happens to both, except that their
transports may take a command in other pieces.  Whatever a connection of the one comes to, that of
the other comes to as well, with the same error or reply; what passes over their transports differs
in the last word of the command that presents credentials, and in nothing else.

## Main definitions

* `Credentials.Pair` : the credentials of two clients that differ in the password at most.
* `Command.Twins`, `Wire.Twins` : commands, and wires, that differ in it at most.
* `Awaiting.cuts` : an event in which a transport takes a part of a command.
* `Event.outline` : an event without the number of bytes that are taken in it.
* `Exchange.Twins`, `Attempt.Twins` : calls and attempts that have come equally far.

## Main results

* `Exchange.Twins.step`, `Attempt.Twins.step` : the same event brings them equally far.
* `Exchange.Twins.cut`, `Attempt.Twins.cut` : a part of a command makes no difference.
-/

namespace RateLimit

/-- The credentials of two clients.  They differ in the password at most: both clients have none, or
both have some, with the same user. -/
structure Credentials.Pair where
  one : Option Credentials
  other : Option Credentials
  username_eq : other.map Credentials.username = one.map Credentials.username

/-- The same two clients, the other one first. -/
def Credentials.Pair.swap (pair : Credentials.Pair) : Credentials.Pair :=
  ⟨pair.other, pair.one, pair.username_eq.symm⟩

/-- Two commands that differ in the password at most: they are the same, or both present
credentials, whose password is the last word. -/
inductive Command.Twins (pair : Credentials.Pair) : Command → Command → Prop
  | same (command : Command) : Twins pair command command
  | auth {username : Option String} {password password' : String}
      (h : pair.one = some ⟨username, password⟩) (h' : pair.other = some ⟨username, password'⟩) :
      Twins pair (.ofTexts (["AUTH"] ++ username.toList ++ [password]))
        (.ofTexts (["AUTH"] ++ username.toList ++ [password']))

/-- The bytes of two commands that differ in the password at most. -/
def Bytes.Twins (pair : Credentials.Pair) (bytes bytes' : Bytes) : Prop :=
  ∃ command command' : Command, Command.Twins pair command command' ∧
    bytes = command.bytes ∧ bytes' = command'.bytes

/-- Two wires that differ in the password at most: the same was delivered, and as many commands have
passed, each the same or with another password.  What is taken and not passed on yet is the
beginning of such a command; it may be longer on one of them. -/
structure Wire.Twins (pair : Credentials.Pair) (w w' : Wire) : Prop where
  delivered : w'.delivered = w.delivered
  commands : List.Forall₂ (Bytes.Twins pair) w.commands w'.commands
  pending : ∃ bytes bytes', Bytes.Twins pair bytes bytes' ∧
    w.pending <+: bytes ∧ w'.pending <+: bytes'

/-- Two wires with nothing that is taken and not passed on. -/
structure Wire.Quiet (w w' : Wire) : Prop where
  pending : w.pending = []
  pending' : w'.pending = []

section

variable {pair : Credentials.Pair}

theorem Bytes.twins_command (pair : Credentials.Pair) (command : Command) :
    Bytes.Twins pair command.bytes command.bytes :=
  ⟨command, command, .same command, rfl, rfl⟩

/-- Both clients present credentials, or neither does. -/
theorem Credentials.Pair.cases (pair : Credentials.Pair) :
    pair.one = none ∧ pair.other = none ∨
      ∃ presented presented', pair.one = some presented ∧ pair.other = some presented' ∧
        Bytes.Twins pair presented.command.bytes presented'.command.bytes := by
  obtain ⟨one, other, husername⟩ := pair
  cases one with
  | none => exact .inl ⟨rfl, Option.map_eq_none_iff.1 husername⟩
  | some presented =>
      obtain ⟨presented', rfl, heq⟩ := Option.map_eq_some_iff.1 husername
      obtain ⟨username, password⟩ := presented
      obtain ⟨username', password'⟩ := presented'
      obtain rfl : username' = username := heq
      exact .inr ⟨_, _, rfl, rfl, _, _, .auth rfl rfl, rfl, rfl⟩

theorem Wire.twins_empty (pair : Credentials.Pair) : Wire.Twins pair {} {} where
  delivered := rfl
  commands := .nil
  pending := ⟨_, _, Bytes.twins_command pair [], List.nil_prefix, List.nil_prefix⟩

/-- What is pending on two wires may be replaced by the beginnings of two messages. -/
theorem Wire.Twins.pend {w w' : Wire} (hw : Wire.Twins pair w w')
    {message message' pending pending' : Bytes} (hmessage : Bytes.Twins pair message message')
    (h : pending <+: message) (h' : pending' <+: message') :
    Wire.Twins pair { w with pending } { w' with pending := pending' } :=
  ⟨hw.delivered, hw.commands, _, _, hmessage, h, h'⟩

/-! ### Symmetry -/

theorem Bytes.Twins.swap {bytes bytes' : Bytes} (h : Bytes.Twins pair bytes bytes') :
    Bytes.Twins pair.swap bytes' bytes := by
  obtain ⟨command, command', hcommand, rfl, rfl⟩ := h
  refine ⟨command', command, ?_, rfl, rfl⟩
  cases hcommand with
  | same => exact .same command
  | auth h h' => exact .auth h' h

theorem Wire.Twins.swap {w w' : Wire} (h : Wire.Twins pair w w') : Wire.Twins pair.swap w' w where
  delivered := h.delivered.symm
  commands := (h.commands.imp fun _ _ hbytes => hbytes.swap).flip
  pending := by
    obtain ⟨bytes, bytes', hbytes, hpending, hpending'⟩ := h.pending
    exact ⟨bytes', bytes, hbytes.swap, hpending', hpending⟩

theorem Wire.Quiet.swap {w w' : Wire} (h : w.Quiet w') : w'.Quiet w :=
  ⟨h.pending', h.pending⟩

end

/-! ### Events -/

/-- Whether a transport takes a part of what somebody waits to write, but not all. -/
def Awaiting.cuts : Awaiting → Event → Bool
  | .write rest, .wrote count => decide (0 < count ∧ count < rest.length)
  | _, _ => false

/-- An event as it is whatever the length of the command: some bytes are taken, or none. -/
def Event.outline : Event → Event
  | .wrote count => .wrote (min count 1)
  | event => event

/-- Two events with the same outline: they are the same, or some bytes are taken in both. -/
inductive Event.Twins : Event → Event → Prop
  | same (event : Event) : Twins event event
  | wrote {count count' : Nat} (h : count ≠ 0) (h' : count' ≠ 0) :
      Twins (.wrote count) (.wrote count')

theorem Event.twins_of_outline_eq {event event' : Event} (h : event.outline = event'.outline) :
    event.Twins event' := by
  cases event with
  | wrote count =>
      cases event' with
      | wrote count' =>
          have hmin : min count 1 = min count' 1 := Event.wrote.inj h
          by_cases hzero : count = 0
          · obtain rfl : count' = 0 := by omega
            exact hzero ▸ .same _
          · exact .wrote hzero (by omega)
      | _ => cases h
  | _ =>
      cases event' <;> cases h
      exact .same _

theorem Awaiting.exists_of_cuts {awaiting : Awaiting} {event : Event}
    (h : awaiting.cuts event = true) :
    ∃ rest count, awaiting = .write rest ∧ event = .wrote count ∧ count ≠ 0 ∧
      count < rest.length := by
  unfold cuts at h
  split at h
  · rename_i rest count
    have hcount := of_decide_eq_true h
    exact ⟨rest, count, rfl, rfl, Nat.ne_of_gt hcount.1, hcount.2⟩
  · cases h

/-- Whatever happens, the same can happen without a part of a command being taken. -/
theorem Awaiting.exists_uncut (awaiting : Awaiting) (event : Event) :
    ∃ event', event'.outline = event.outline ∧ awaiting.cuts event' = false := by
  cases hcuts : awaiting.cuts event with
  | false => exact ⟨event, rfl, hcuts⟩
  | true =>
      obtain ⟨rest, count, rfl, rfl, hzero, hcount⟩ := exists_of_cuts hcuts
      refine ⟨.wrote rest.length, congrArg Event.wrote ?_, ?_⟩
      · omega
      · exact decide_eq_false fun h => Nat.lt_irrefl _ h.2

theorem Awaiting.length_le_of_not_cuts {rest : Bytes} {count : Nat} (hcount : count ≠ 0)
    (h : (Awaiting.write rest).cuts (.wrote count) = false) : rest.length ≤ count := by
  have hnot := of_decide_eq_false h
  omega

/-! ### Calls -/

namespace Exchange

/-- Two requests that have come equally far in sending their messages, and the wires on which they
do. -/
inductive Twins (message message' : Bytes) (w w' : Wire) : Exchange → Exchange → Prop
  /-- The messages are not taken in full. -/
  | writing {c : Connection} (hbroken : c.broken = true) {rest rest' : Bytes}
      (h : w.pending ++ rest = message) (h' : w'.pending ++ rest' = message') :
      Twins message message' w w' ⟨c, .request, .write rest⟩ ⟨c, .request, .write rest'⟩
  /-- The messages are taken. -/
  | flushing {c : Connection} (hbroken : c.broken = true) (h : w.pending = message)
      (h' : w'.pending = message') :
      Twins message message' w w' ⟨c, .request, .flush⟩ ⟨c, .request, .flush⟩
  /-- The messages are passed on. -/
  | reading {c : Connection} (hbroken : c.broken = true) (hquiet : w.Quiet w') :
      Twins message message' w w' ⟨c, .request, .read⟩ ⟨c, .request, .read⟩

end Exchange

/-- Two requests that have come equally far, or have ended alike. -/
inductive Progress.Twins (message message' : Bytes) (w w' : Wire) : Progress → Progress → Prop
  | waiting {x x' : Exchange} (h : Exchange.Twins message message' w w' x x') :
      Twins message message' w w' (.waiting x) (.waiting x')
  /-- They have got the same reply. -/
  | answered (rest : Bytes) (reply : Reply) (hquiet : w.Quiet w') :
      Twins message message' w w' (.finished ⟨rest, false⟩ reply.result)
        (.finished ⟨rest, false⟩ reply.result)
  /-- They have failed with the same error. -/
  | failed {c : Connection} (hbroken : c.broken = true) (error : Error) :
      Twins message message' w w' (.finished c (.error error)) (.finished c (.error error))

namespace Exchange

variable {pair : Credentials.Pair} {message message' : Bytes}
  {w w' : Wire} {x x' : Exchange} {event event' : Event} {c : Connection}

theorem twins_poll (hbroken : c.broken = true) (hquiet : w.Quiet w') :
    Progress.Twins message message' w w' (c.poll .request) (c.poll .request) := by
  rcases c.poll_request_cases with hwait | ⟨reply, rest, -, hdone⟩ | ⟨fault, hfail⟩
  · rw [hwait]
    exact .waiting (.reading hbroken hquiet)
  · rw [hdone]
    exact .answered rest reply hquiet
  · rw [hfail]
    exact .failed hbroken _

theorem Twins.connection_eq (h : Twins message message' w w' x x') :
    x'.connection = x.connection ∧ x.connection.broken = true := by
  cases h <;> exact ⟨rfl, ‹_›⟩

theorem Twins.swap (h : Twins message message' w w' x x') :
    Twins message' message w' w x' x := by
  cases h with
  | writing hbroken h h' => exact .writing hbroken h' h
  | flushing hbroken h h' => exact .flushing hbroken h' h
  | reading hbroken hquiet => exact .reading hbroken hquiet.swap

/-- What is taken and not passed on yet is the beginning of a message. -/
theorem Twins.pending (h : Twins message message' w w' x x') :
    w.pending <+: message ∧ w'.pending <+: message' := by
  cases h with
  | writing _ h h' => exact ⟨⟨_, h⟩, ⟨_, h'⟩⟩
  | flushing _ h h' => exact ⟨⟨[], by rw [List.append_nil, h]⟩, ⟨[], by rw [List.append_nil, h']⟩⟩
  | reading _ hquiet =>
      rw [hquiet.pending, hquiet.pending']
      exact ⟨List.nil_prefix, List.nil_prefix⟩

/-- What the same event brings two requests to. -/
structure Advanced (pair : Credentials.Pair)
    (message message' : Bytes) (w w' : Wire) (x x' : Exchange) (event event' : Event) : Prop where
  progress : Progress.Twins message message' (w.after x event) (w'.after x' event') (x.step event)
    (x'.step event')
  wires : Wire.Twins pair (w.after x event) (w'.after x' event')
  flushes : x'.flushes event' = x.flushes event

/-- An event in which nothing passes over the transport of a call. -/
structure Silent (x : Exchange) (event : Event) : Prop where
  accepted : x.accepted event = []
  flushes : x.flushes event = false
  arrived : x.arrived event = []

theorem Silent.after (h : x.Silent event) (w : Wire) : w.after x event = w := by
  rw [Wire.after, h.accepted, h.flushes, h.arrived, List.append_nil, List.append_nil]
  rfl

theorem advanced_of_silent (hw : Wire.Twins pair w w') (hx : x.Silent event)
    (hx' : x'.Silent event')
    (h : Progress.Twins message message' w w' (x.step event) (x'.step event')) :
    Advanced pair message message' w w' x x' event event' where
  progress := (hx.after w).symm ▸ (hx'.after w').symm ▸ h
  wires := (hx.after w).symm ▸ (hx'.after w').symm ▸ hw
  flushes := hx'.flushes.trans hx.flushes.symm

theorem advanced_of_written (hw : Wire.Twins pair w w')
    (hmessage : Bytes.Twins pair message message') (hbroken : c.broken = true)
    {rest rest' : Bytes} (h : w.pending ++ rest = message) (h' : w'.pending ++ rest' = message')
    {count count' : Nat} (hzero : count ≠ 0) (hzero' : count' ≠ 0) (hcount : rest.length ≤ count)
    (hcount' : rest'.length ≤ count') :
    Advanced pair message message' w w' ⟨c, .request, .write rest⟩
      ⟨c, .request, .write rest'⟩ (.wrote count) (.wrote count') := by
  have hstep (rest : Bytes) (count : Nat) (hzero : count ≠ 0) (hcount : rest.length ≤ count) :
      step ⟨c, .request, .write rest⟩ (.wrote count) = .waiting ⟨c, .request, .flush⟩ := by
    change (if count = 0 then _ else if count < rest.length then _ else _) = _
    rw [if_neg hzero, if_neg (Nat.not_lt.2 hcount)]
  have hafter := Wire.after_wrote w c .request rest count
  have hafter' := Wire.after_wrote w' c .request rest' count'
  rw [List.take_of_length_le hcount, h] at hafter
  rw [List.take_of_length_le hcount', h'] at hafter'
  refine ⟨?_, ?_, rfl⟩
  · rw [hafter, hafter', hstep rest count hzero hcount, hstep rest' count' hzero' hcount']
    exact .waiting (.flushing hbroken rfl rfl)
  · rw [hafter, hafter']
    exact hw.pend hmessage List.prefix_rfl List.prefix_rfl

/-- Requests that write come equally far in the same event. -/
theorem advanced_of_writing (hw : Wire.Twins pair w w')
    (hmessage : Bytes.Twins pair message message') (hbroken : c.broken = true)
    {rest rest' : Bytes} (h : w.pending ++ rest = message) (h' : w'.pending ++ rest' = message')
    (hevent : event.Twins event') (hcuts : (Awaiting.write rest).cuts event = false)
    (hcuts' : (Awaiting.write rest').cuts event' = false) :
    Advanced pair message message' w w' ⟨c, .request, .write rest⟩
      ⟨c, .request, .write rest'⟩ event event' := by
  have htwins : Twins message message' w w' ⟨c, .request, .write rest⟩
      ⟨c, .request, .write rest'⟩ := .writing hbroken h h'
  cases hevent with
  | wrote hzero hzero' =>
      exact advanced_of_written hw hmessage hbroken h h' hzero hzero'
        (Awaiting.length_le_of_not_cuts hzero hcuts) (Awaiting.length_le_of_not_cuts hzero' hcuts')
  | same =>
      cases event with
      | wrote count =>
          by_cases hzero : count = 0
          · subst hzero
            exact advanced_of_silent hw ⟨rfl, rfl, rfl⟩ ⟨rfl, rfl, rfl⟩ (.failed hbroken _)
          · exact advanced_of_written hw hmessage hbroken h h' hzero hzero
              (Awaiting.length_le_of_not_cuts hzero hcuts)
              (Awaiting.length_le_of_not_cuts hzero hcuts')
      | writeFailed fault =>
          exact advanced_of_silent hw ⟨rfl, rfl, rfl⟩ ⟨rfl, rfl, rfl⟩ (.failed hbroken _)
      | _ =>
          exact advanced_of_silent hw ⟨rfl, rfl, rfl⟩ ⟨rfl, rfl, rfl⟩ (.waiting htwins)

/-- Requests that have written come equally far in the same event. -/
theorem advanced_of_flushing (hw : Wire.Twins pair w w')
    (hmessage : Bytes.Twins pair message message') (hbroken : c.broken = true)
    (h : w.pending = message) (h' : w'.pending = message') (event : Event) :
    Advanced pair message message' w w' ⟨c, .request, .flush⟩
      ⟨c, .request, .flush⟩ event event := by
  have htwins : Twins message message' w w' ⟨c, .request, .flush⟩ ⟨c, .request, .flush⟩ :=
    .flushing hbroken h h'
  cases event with
  | flushed =>
      refine ⟨twins_poll hbroken ⟨rfl, rfl⟩, ?_, rfl⟩
      have hpassed : Bytes.Twins pair w.pending w'.pending := by rwa [h, h']
      exact {
        delivered := congrArg (· ++ []) hw.delivered
        commands := List.rel_append hw.commands (.cons hpassed .nil)
        pending := ⟨_, _, hmessage, List.nil_prefix, List.nil_prefix⟩ }
  | flushFailed fault =>
      exact advanced_of_silent hw ⟨rfl, rfl, rfl⟩ ⟨rfl, rfl, rfl⟩ (.failed hbroken _)
  | _ =>
      exact advanced_of_silent hw ⟨rfl, rfl, rfl⟩ ⟨rfl, rfl, rfl⟩ (.waiting htwins)

/-- Requests that wait for a reply come equally far in the same event. -/
theorem advanced_of_reading (hw : Wire.Twins pair w w') (hbroken : c.broken = true)
    (hquiet : w.Quiet w') (event : Event) :
    Advanced pair message message' w w' ⟨c, .request, .read⟩
      ⟨c, .request, .read⟩ event event := by
  have htwins : Twins message message' w w' ⟨c, .request, .read⟩ ⟨c, .request, .read⟩ :=
    .reading hbroken hquiet
  cases event with
  | received data =>
      have hpending (w : Wire) :
          (w.after ⟨c, .request, .read⟩ (.received data)).pending = w.pending :=
        List.append_nil _
      have hquiet' : (w.after ⟨c, .request, .read⟩ (.received data)).Quiet
          (w'.after ⟨c, .request, .read⟩ (.received data)) :=
        ⟨(hpending w).trans hquiet.pending, (hpending w').trans hquiet.pending'⟩
      refine ⟨twins_poll hbroken hquiet', ?_, rfl⟩
      exact {
        delivered := congrArg (· ++ data) hw.delivered
        commands := hw.commands
        pending := by
          rw [hpending, hpending]
          exact hw.pending }
  | readFailed fault =>
      exact advanced_of_silent hw ⟨rfl, rfl, rfl⟩ ⟨rfl, rfl, rfl⟩ (.failed hbroken _)
  | ended =>
      refine advanced_of_silent hw ⟨rfl, rfl, rfl⟩ ⟨rfl, rfl, rfl⟩ ?_
      change Progress.Twins message message' w w' (if c.buffer.isEmpty then _ else _)
        (if c.buffer.isEmpty then _ else _)
      split <;> exact .failed hbroken _
  | _ =>
      exact advanced_of_silent hw ⟨rfl, rfl, rfl⟩ ⟨rfl, rfl, rfl⟩ (.waiting htwins)

/-- **Requests come equally far in the same event**, unless a transport takes a part of the
command. -/
theorem Twins.step (h : Twins message message' w w' x x')
    (hmessage : Bytes.Twins pair message message')
    (hw : Wire.Twins pair w w') (hevent : event.Twins event')
    (hcuts : x.awaiting.cuts event = false) (hcuts' : x'.awaiting.cuts event' = false) :
    Advanced pair message message' w w' x x' event event' := by
  cases h with
  | writing hbroken h h' => exact advanced_of_writing hw hmessage hbroken h h' hevent hcuts hcuts'
  | flushing hbroken h h' =>
      cases hevent with
      | same => exact advanced_of_flushing hw hmessage hbroken h h' event
      | wrote =>
          exact advanced_of_silent hw ⟨rfl, rfl, rfl⟩ ⟨rfl, rfl, rfl⟩
            (.waiting (.flushing hbroken h h'))
  | reading hbroken hquiet =>
      cases hevent with
      | same => exact advanced_of_reading hw hbroken hquiet event
      | wrote =>
          exact advanced_of_silent hw ⟨rfl, rfl, rfl⟩ ⟨rfl, rfl, rfl⟩
            (.waiting (.reading hbroken hquiet))

/-! ### Parts of commands -/

/-- A call whose command is taken in part goes on to write the rest. -/
theorem step_of_cuts (h : x.awaiting.cuts event = true) :
    ∃ rest count, x.awaiting = .write rest ∧ event = .wrote count ∧
      x.step event = .waiting { x with awaiting := .write (rest.drop count) } := by
  obtain ⟨rest, count, hawaiting, rfl, hzero, hcount⟩ := Awaiting.exists_of_cuts h
  refine ⟨rest, count, hawaiting, rfl, ?_⟩
  obtain ⟨c, task, awaiting⟩ := x
  obtain rfl : awaiting = .write rest := hawaiting
  change (if count = 0 then _ else if count < rest.length then _ else _) = _
  rw [if_neg hzero, if_pos hcount]

theorem flushes_of_cuts (h : x.awaiting.cuts event = true) : x.flushes event = false := by
  obtain ⟨rest, count, -, rfl, -⟩ := Awaiting.exists_of_cuts h
  exact Bool.and_eq_false_iff.2 (.inr rfl)

/-- A request whose command is taken in part has come as far as before. -/
theorem Twins.cut (h : Twins message message' w w' x x')
    (hmessage : Bytes.Twins pair message message')
    (hw : Wire.Twins pair w w') (hcuts : x.awaiting.cuts event = true) :
    ∃ x₁, x.step event = .waiting x₁ ∧ Twins message message' (w.after x event) w' x₁ x' ∧
      Wire.Twins pair (w.after x event) w' := by
  obtain ⟨rest, count, hawaiting, rfl, hstep⟩ := step_of_cuts hcuts
  cases h with
  | @writing c hbroken _ _ h h' =>
      cases hawaiting
      have htwins : Twins message message' (w.after ⟨c, .request, .write rest⟩ (.wrote count)) w'
          ⟨c, .request, .write (rest.drop count)⟩ _ :=
        .writing hbroken (by rw [Wire.after_wrote, List.append_assoc, List.take_append_drop, h]) h'
      have hpending := htwins.pending
      refine ⟨_, hstep, htwins, ?_⟩
      rw [Wire.after_wrote] at hpending ⊢
      exact hw.pend hmessage hpending.1 hpending.2
  | flushing | reading => cases hawaiting

end Exchange

/-! ### Attempts to open a connection -/

namespace Attempt

/-- Two attempts to open a connection that have come equally far, and the wires of their
transports. -/
inductive Twins (pair : Credentials.Pair) (w w' : Wire) : Attempt → Attempt → Prop
  /-- The transports are not open yet. -/
  | connecting (hquiet : w.Quiet w') : Twins pair w w' .connecting .connecting
  /-- The credentials are being presented. -/
  | authenticating {message message' : Bytes}
      (hmessage : Bytes.Twins pair message message') {x x' : Exchange}
      (h : Exchange.Twins message message' w w' x x') :
      Twins pair w w' (.authenticating x) (.authenticating x')

/-- Two attempts that have come equally far, or have ended alike. -/
inductive Progress.Twins (pair : Credentials.Pair) (w w' : Wire) :
    Attempt.Progress → Attempt.Progress → Prop
  | waiting {attempt attempt' : Attempt} (h : attempt.Twins pair w w' attempt') :
      Twins pair w w' (.waiting attempt) (.waiting attempt')
  | opened (c : Connection) (hquiet : w.Quiet w') : Twins pair w w' (.opened c) (.opened c)
  | failed (error : Error) : Twins pair w w' (.failed error) (.failed error)

/-- What the same event brings two attempts to. -/
structure Advanced (pair : Credentials.Pair) (w w' : Wire)
    (attempt attempt' : Attempt) (event event' : Event) : Prop where
  progress : Progress.Twins pair (attempt.observe w event)
    (attempt'.observe w' event') (attempt.step pair.one event) (attempt'.step pair.other event')
  wires : Wire.Twins pair (attempt.observe w event) (attempt'.observe w' event')
  flushes : attempt'.flushes event' = attempt.flushes event

variable {pair : Credentials.Pair} {message message' : Bytes}
  {w w' : Wire} {attempt attempt' : Attempt} {event event' : Event}

theorem Twins.swap (h : attempt.Twins pair w w' attempt') :
    attempt'.Twins pair.swap w' w attempt := by
  cases h with
  | connecting hquiet => exact .connecting hquiet.swap
  | authenticating hmessage h => exact .authenticating hmessage.swap h.swap

theorem Twins.hasTransport_eq (h : attempt.Twins pair w w' attempt') :
    attempt'.hasTransport = attempt.hasTransport := by
  cases h <;> rfl

/-- Requests that have ended alike have presented their credentials alike. -/
theorem twins_ofRequest (hmessage : Bytes.Twins pair message message')
    {p p' : RateLimit.Progress} (h : RateLimit.Progress.Twins message message' w w' p p') :
    Progress.Twins pair w w' (ofRequest p) (ofRequest p') := by
  cases h with
  | waiting h => exact .waiting (.authenticating hmessage h)
  | answered rest reply hquiet =>
      cases reply with
      | status => exact .opened _ hquiet
      | error | integer | bulk | null | array => exact .failed _
  | failed hbroken error => cases error <;> exact .failed _

/-- Attempts whose transports open come equally far. -/
theorem twins_connected (hquiet : w.Quiet w') :
    Progress.Twins pair w w' (connecting.step pair.one .connected)
      (connecting.step pair.other .connected) := by
  rcases pair.cases with ⟨hnone, hnone'⟩ | ⟨presented, presented', hsome, hsome', htwins⟩
  · rw [hnone, hnone']
    exact .opened _ hquiet
  · rw [hsome, hsome']
    refine .waiting (.authenticating htwins (.writing rfl ?_ ?_))
    · rw [hquiet.pending]
      rfl
    · rw [hquiet.pending']
      rfl

/-- **Attempts come equally far in the same event**, unless a transport takes a part of the
credentials. -/
theorem Twins.step (h : attempt.Twins pair w w' attempt')
    (hw : Wire.Twins pair w w') (hevent : event.Twins event')
    (hcuts : attempt.awaiting.cuts event = false) (hcuts' : attempt'.awaiting.cuts event' = false) :
    Advanced pair w w' attempt attempt' event event' := by
  cases h with
  | connecting hquiet =>
      refine ⟨?_, hw, rfl⟩
      change Progress.Twins pair w w' _ _
      cases hevent with
      | wrote => exact .waiting (.connecting hquiet)
      | same =>
          cases event with
          | connected => exact twins_connected hquiet
          | connectFailed fault => exact .failed _
          | _ => exact .waiting (.connecting hquiet)
  | authenticating hmessage h =>
      have hadvanced := h.step hmessage hw hevent hcuts hcuts'
      exact ⟨twins_ofRequest hmessage hadvanced.progress, hadvanced.wires, hadvanced.flushes⟩

/-- An attempt whose credentials are taken in part has come as far as before. -/
theorem Twins.cut (h : attempt.Twins pair w w' attempt')
    (hw : Wire.Twins pair w w') (hcuts : attempt.awaiting.cuts event = true)
    (presented : Option Credentials) :
    ∃ attempt₁, attempt.step presented event = .waiting attempt₁ ∧
      attempt₁.Twins pair (attempt.observe w event) w' attempt' ∧
      Wire.Twins pair (attempt.observe w event) w' := by
  cases h with
  | connecting => cases hcuts
  | @authenticating _ _ hmessage x _ h =>
      obtain ⟨x₁, hstep, htwins, hw₁⟩ := h.cut hmessage hw hcuts
      refine ⟨.authenticating x₁, ?_, .authenticating hmessage htwins, hw₁⟩
      rw [Attempt.step, hstep, ofRequest]

end Attempt

end RateLimit
