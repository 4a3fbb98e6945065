import RateLimit.Command
import RateLimit.Connection.Transport
import RateLimit.Reply.Reader

/-!
# Connections

A connection has an open transport, the bytes that arrived on it and were not read yet, and a mark
that it is broken.  A call on a connection sends a command, receives a reply, or does both in one
round trip (a request).  A call in progress is an `Exchange`; it waits for one thing on the
transport and goes on when that happens (`Exchange.step`).  It may be given up between two events,
and the connection is then left as it is.

A request marks the connection as broken before anything else and takes the mark away when the
reply is complete, so that every other end of a request leaves the mark.

## Main definitions

* `Connection` : a connection.
* `Connection.start` : the beginning of a call.
* `Exchange.step` : what an event does to a call in progress.
* `Progress.run` : a call over several events.
-/

namespace RateLimit

/-- A connection on an open transport. -/
structure Connection where
  /-- The bytes that arrived and were not read yet. -/
  buffer : Bytes := []
  /-- Whether the connection may no longer stand between two replies. -/
  broken : Bool := false
  deriving DecidableEq, Repr

/-- What a caller can do on a connection. -/
inductive Call
  /-- Send a command. -/
  | send (command : Command)
  /-- Receive a reply. -/
  | receive
  /-- Send a command and receive its reply. -/
  | request (command : Command)
  deriving DecidableEq, Repr

/-- What remains to be done once a command is sent, or a reply complete. -/
inductive Task
  /-- Nothing, once the command is sent. -/
  | send
  /-- The reply is handed to the caller. -/
  | receive
  /-- The reply is handed to the caller and the connection is whole again. -/
  | request
  deriving DecidableEq, Repr

/-- A call in progress. -/
structure Exchange where
  /-- The connection as it is left if the call is given up now. -/
  connection : Connection
  /-- What the call is for. -/
  task : Task
  /-- What the call waits for. -/
  awaiting : Awaiting
  deriving DecidableEq, Repr

/-- The result of a call: an error, or a reply if one was asked for. -/
abbrev Result := Except Error (Option Reply)

/-- How far a call has come. -/
inductive Progress
  /-- The call waits for its transport. -/
  | waiting (exchange : Exchange)
  /-- The call has ended and leaves the connection. -/
  | finished (connection : Connection) (result : Result)

namespace Connection

/-- Hands a complete reply to the caller.  The error lines that a request gets are errors of the
server, and leave the connection usable. -/
def deliver (c : Connection) (task : Task) (reply : Reply) (rest : Bytes) : Progress :=
  match task with
  | .send | .receive => .finished { c with buffer := rest } (.ok (some reply))
  | .request =>
      .finished { buffer := rest, broken := false } <|
        match reply with
        | .error text => .error (.server text)
        | reply => .ok (some reply)

/-- Looks for a reply among the bytes that have arrived, and waits for more if there is none. -/
def poll (c : Connection) (task : Task) : Progress :=
  match (Reader.read {} c.buffer).1 with
  | .needMore => .waiting ⟨c, task, .read⟩
  | .invalid fault => .finished c (.error (.protocol fault))
  | .complete reply rest => c.deliver task reply rest

/-- Begins to send a command. -/
def transmit (c : Connection) (task : Task) (command : Command) : Progress :=
  match command.encode with
  | .ok bytes => .waiting ⟨c, task, .write bytes⟩
  | .error fault => .finished c (.error (.protocol fault))

/-- Begins a call. -/
def start (c : Connection) : Call → Progress
  | .send command => c.transmit .send command
  | .receive => c.poll .receive
  | .request command => { c with broken := true }.transmit .request command

end Connection

namespace Exchange

/-- Ends a call with a failure of the transport. -/
def fail (x : Exchange) (fault : TransportFault) : Progress :=
  .finished x.connection (.error (.transport fault))

/-- What an event on the transport does to a call in progress.  An event that the call does not
wait for changes nothing. -/
def step (x : Exchange) (event : Event) : Progress :=
  match x.awaiting, event with
  | .write rest, .wrote count =>
      if count = 0 then x.fail .writeZero
      else if count < rest.length then .waiting { x with awaiting := .write (rest.drop count) }
      else .waiting { x with awaiting := .flush }
  | .write _, .writeFailed fault => x.fail fault
  | .flush, .flushed =>
      match x.task with
      | .send => .finished x.connection (.ok none)
      | task => x.connection.poll task
  | .flush, .flushFailed fault => x.fail fault
  | .read, .received data =>
      { x.connection with buffer := x.connection.buffer ++ data }.poll x.task
  | .read, .readFailed fault => x.fail fault
  | .read, .ended =>
      if x.connection.buffer.isEmpty then x.fail .closedByServer
      else .finished x.connection (.error (.protocol .closedInReply))
  | _, _ => .waiting x

/-- The bytes that the transport takes in an event. -/
def accepted (x : Exchange) (event : Event) : Bytes :=
  match x.awaiting, event with
  | .write rest, .wrote count => rest.take count
  | _, _ => []

/-- Whether the transport passes on the bytes of a command in an event. -/
def flushes (x : Exchange) (event : Event) : Bool :=
  x.awaiting = .flush && event = .flushed

end Exchange

namespace Progress

/-- The connection as it is left if the call is given up now, or as it was left at its end. -/
def connection : Progress → Connection
  | .waiting x => x.connection
  | .finished c _ => c

/-- A call over events in order, with the bytes that the transport took on the way.  Events after
the end of the call are left over. -/
def run : Progress → List Event → Progress × Bytes × List Event
  | .waiting x, event :: events =>
      let (progress, taken, left) := (x.step event).run events
      (progress, x.accepted event ++ taken, left)
  | progress, events => (progress, [], events)

end Progress

/-- The form in which messages show a connection with a given number. -/
def Connection.text (c : Connection) (number : String) : String :=
  "Connection \x7b id: " ++ number ++ ", broken: " ++ toString c.broken ++ " \x7d"

/-- The form in which messages show a connection that is lent to a user of a pool. -/
def Connection.lentText (c : Connection) (number : String) : String :=
  "PooledConnection(Some(" ++ c.text number ++ "))"

end RateLimit
