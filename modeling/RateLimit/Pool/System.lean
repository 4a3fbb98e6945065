import RateLimit.Pool.Basic

/-!
# A pool in use

A pool and everybody who uses it at the moment, each in a role of its own: opening a connection,
holding one, or in a call on one.  Whatever callers and transports do is an action, in any order;
an action says what it did by notices.  A caller that gives up in the middle of an action is an
action as well, and so is the closing of the pool while others are waiting.

Users are named by numbers.  A name that is in use cannot be taken again, and an action that does
not fit the role of its user changes nothing.

## Main definitions

* `Pool.Role` : what a user of a pool is doing.
* `Pool.System` : a pool and its users.
* `Pool.Action`, `Pool.Notice` : what can happen, and what it makes known.
* `Pool.Turn` : what an action comes to for its user.
* `Pool.System.step` : what an action does.
-/

namespace RateLimit.Pool

/-- What a user of a pool is doing. -/
inductive Role
  /-- Opening a connection, with the number of the attempt. -/
  | opening (dial : Nat) (attempt : Attempt)
  /-- Holding a connection at rest. -/
  | holding (session : Session)
  /-- In a call on the connection that was opened by the given attempt. -/
  | calling (dial : Nat) (exchange : Exchange)
  deriving DecidableEq, Repr

namespace Role

/-- The number of the attempt to which a user owes its transport, or will owe it. -/
def dial : Role → Nat
  | .opening dial _ => dial
  | .holding session => session.dial
  | .calling dial _ => dial

/-- Whether a user has an open transport. -/
def hasTransport : Role → Bool
  | .opening _ attempt => attempt.hasTransport
  | .holding _ | .calling _ _ => true

/-- What a user waits for. -/
def awaiting? : Role → Option Awaiting
  | .opening _ attempt => some attempt.awaiting
  | .holding _ => none
  | .calling _ exchange => some exchange.awaiting

/-- The bytes that the transport of a user takes in an event. -/
def accepted : Role → Event → Bytes
  | .opening _ attempt, event => attempt.accepted event
  | .holding _, _ => []
  | .calling _ exchange, event => exchange.accepted event

/-- Whether the transport of a user passes on the bytes of a command in an event. -/
def flushes : Role → Event → Bool
  | .opening _ attempt, event => attempt.flushes event
  | .holding _, _ => false
  | .calling _ exchange, event => exchange.flushes event

end Role

/-- What an action makes known. -/
inductive Notice
  /-- An attempt to open a connection has begun. -/
  | dialed (dial : Nat)
  /-- A transport has taken bytes. -/
  | wrote (dial : Nat) (bytes : Bytes)
  /-- A transport has passed on the bytes it took. -/
  | flushed (dial : Nat)
  /-- A user has got a connection. -/
  | acquired (user dial : Nat)
  /-- A user has not got a connection. -/
  | refused (user : Nat) (error : Error)
  /-- A call of a user has ended. -/
  | ended (user : Nat) (result : Result)

/-- The attempts to open a connection that notices tell of. -/
def dials (notices : List Notice) : List Nat :=
  notices.filterMap fun
    | .dialed dial => some dial
    | _ => none

/-- What an action comes to for its user. -/
inductive Turn
  /-- The user waits, or nothing has happened to it. -/
  | pending
  /-- The user has begun to open a connection. -/
  | dialing (dial : Nat)
  /-- The user has got a connection. -/
  | acquired (dial : Nat)
  /-- The user has not got a connection. -/
  | refused (error : Error)
  /-- The call of the user has ended. -/
  | ended (result : Result)

/-- What the turn of a user makes known. -/
def Turn.notices (user : Nat) : Turn → List Notice
  | .pending => []
  | .dialing dial => [.dialed dial]
  | .acquired dial => [.acquired user dial]
  | .refused error => [.refused user error]
  | .ended result => [.ended user result]

/-- What an event makes known about the bytes on the transport of a user. -/
def Role.traffic (role : Role) (event : Event) : List Notice :=
  (if (role.accepted event).isEmpty then [] else [.wrote role.dial (role.accepted event)]) ++
    if role.flushes event then [.flushed role.dial] else []

/-- What can happen to a pool and its users. -/
inductive Action
  /-- Somebody asks for a connection. -/
  | acquire (user : Nat)
  /-- Something happens on the transport that a user waits for. -/
  | event (user : Nat) (event : Event)
  /-- A user begins a call on the connection it holds. -/
  | call (user : Nat) (call : Call)
  /-- A user gives up what it waits for: the attempt to get a connection, or the call. -/
  | giveUp (user : Nat)
  /-- A user gives back the connection it holds. -/
  | release (user : Nat)
  /-- Somebody closes the pool. -/
  | close
  deriving DecidableEq, Repr

/-- A pool and its users. -/
structure System where
  /-- What every new connection identifies itself with. -/
  credentials : Option Credentials
  /-- The books of the pool. -/
  pool : Pool
  /-- The users, by name. -/
  users : List (Nat × Role) := []
  /-- How many attempts to open a connection were begun. -/
  dialed : Nat := 0
  deriving DecidableEq, Repr

namespace System

/-- The role of a user. -/
def role? (s : System) (user : Nat) : Option Role :=
  s.users.lookup user

/-- The users but one. -/
def others (s : System) (user : Nat) : List (Nat × Role) :=
  s.users.filter fun entry => entry.1 ≠ user

/-- Gives a user a role. -/
def assign (s : System) (user : Nat) (role : Role) : System :=
  { s with users := (user, role) :: s.others user }

/-- Removes a user, with the books of the pool as they are afterwards. -/
def dismiss (s : System) (user : Nat) (pool : Pool) : System :=
  { s with pool, users := s.others user }

/-- The numbers of the transports that are open. -/
def transports (s : System) : List Nat :=
  s.pool.idle.map Session.dial ++
    (s.users.filter fun entry => entry.2.hasTransport).map fun entry => entry.2.dial

/-- Somebody asks for a connection. -/
def acquire (s : System) (user : Nat) : System × Turn :=
  match s.pool.checkout with
  | (.refused error, _) => (s, .refused error)
  | (.session session, pool) =>
      ({ s with pool }.assign user (.holding session), .acquired session.dial)
  | (.slot, pool) =>
      ({ s with pool, dialed := s.dialed + 1 }.assign user (.opening s.dialed .connecting),
        .dialing s.dialed)

/-- Goes on with an attempt to open a connection.  A connection that is opened after the pool was
closed is destroyed. -/
def proceed (s : System) (user dial : Nat) : Attempt.Progress → System × Turn
  | .waiting attempt => (s.assign user (.opening dial attempt), .pending)
  | .failed error => (s.dismiss user s.pool.giveBack, .refused error)
  | .opened connection =>
      if s.pool.closed then (s.dismiss user s.pool.giveBack, .refused .poolClosed)
      else (s.assign user (.holding ⟨dial, connection⟩), .acquired dial)

/-- Goes on with a call. -/
def advance (s : System) (user dial : Nat) : Progress → System × Turn
  | .waiting exchange => (s.assign user (.calling dial exchange), .pending)
  | .finished connection result =>
      (s.assign user (.holding ⟨dial, connection⟩), .ended result)

/-- Something happens on the transport that a user waits for. -/
def react (s : System) (user : Nat) (event : Event) : System × Turn :=
  match s.role? user with
  | some (.opening dial attempt) => s.proceed user dial (attempt.step s.credentials event)
  | some (.calling dial exchange) => s.advance user dial (exchange.step event)
  | _ => (s, .pending)

/-- What an event makes known about the bytes on the transport that a user waits for. -/
def traffic (s : System) (user : Nat) (event : Event) : List Notice :=
  match s.role? user with
  | some role => role.traffic event
  | none => []

/-- A user begins a call. -/
def call (s : System) (user : Nat) (call : Call) : System × Turn :=
  match s.role? user with
  | some (.holding session) => s.advance user session.dial (session.connection.start call)
  | _ => (s, .pending)

/-- A user gives up.  A slot goes back to the pool; a call leaves its connection with the user. -/
def giveUp (s : System) (user : Nat) : System :=
  match s.role? user with
  | some (.opening _ _) => s.dismiss user s.pool.giveBack
  | some (.calling dial exchange) => s.assign user (.holding ⟨dial, exchange.connection⟩)
  | _ => s

/-- A user gives back its connection. -/
def release (s : System) (user : Nat) : System :=
  match s.role? user with
  | some (.holding session) => s.dismiss user (s.pool.release session)
  | _ => s

/-- Somebody closes the pool. -/
def close (s : System) : System :=
  { s with pool := s.pool.close }

/-- What an action does. -/
def step (s : System) : Action → System × List Notice
  | .acquire user =>
      if (s.role? user).isSome then (s, [])
      else
        let (s', turn) := s.acquire user
        (s', turn.notices user)
  | .event user event =>
      let (s', turn) := s.react user event
      (s', s.traffic user event ++ turn.notices user)
  | .call user call =>
      let (s', turn) := s.call user call
      (s', turn.notices user)
  | .giveUp user => (s.giveUp user, [])
  | .release user => (s.release user, [])
  | .close => (s.close, [])

/-- A run of actions, with everything it makes known in order. -/
def run (s : System) : List Action → System × List Notice
  | [] => (s, [])
  | action :: actions =>
      let (s, notices) := s.step action
      let (s, later) := s.run actions
      (s, notices ++ later)

end System

end RateLimit.Pool
