import RateLimit.Bucket.Answer
import RateLimit.Pool.Opening

/-!
# Stores

A store answers calls for tokens of keyed buckets.  For each call it borrows a connection from its
pool, runs the script of its limits on the server, and gives the connection back.  A call never
fails: when the server cannot be asked, the failure mode answers and the failure is reported to the
log.  A store that is closed denies.

A call in progress is a user of the pool under the same name.  Everything that can happen to a
store is an action, as for the pool below it.

## Main definitions

* `Decision` : the answer to a call.
* `Moment` : the time of a call.
* `Store` : a store with its calls in progress.
* `Store.step` : what an action does to a store.
-/

namespace RateLimit

/-- The answer to a call for a token.  All numbers are zero if the server was not asked. -/
structure Decision where
  /-- The size of the bucket. -/
  limit : Nat := 0
  /-- The tokens left. -/
  remaining : Nat := 0
  /-- The time at which the bucket is full again, in nanoseconds since the epoch. -/
  reset : Nat := 0
  /-- Whether a token was granted. -/
  allowed : Bool
  deriving DecidableEq, Repr

/-- The answer of a failure mode. -/
def FailureMode.outcome : FailureMode → Decision
  | .failClosed => { allowed := false }
  | .failOpen => { allowed := true }

/-- A point in time. -/
inductive Moment
  /-- So long after the epoch. -/
  | after (span : Duration)
  /-- So long before the epoch. -/
  | before (span : Duration)
  deriving DecidableEq, Repr

/-- The nanoseconds since the epoch, as far as a 64-bit word can count them. -/
def Moment.nanos? : Moment → Except ConfigFault Nat
  | .after span =>
      if span.toNanos < UInt64.size then .ok span.toNanos else .error (.timeTooLate span)
  | .before span => if span.toNanos = 0 then .ok 0 else .error .timeTooEarly

/-- A call in progress. -/
structure Take where
  /-- The key of the bucket. -/
  key : String
  /-- The time of the call, in nanoseconds since the epoch. -/
  now : Nat
  deriving DecidableEq, Repr

/-- A store with its calls in progress. -/
structure Store where
  /-- The parameters of its buckets. -/
  limits : Limits
  /-- The script of the limits. -/
  script : Script
  /-- How calls are answered while the server cannot be asked. -/
  failureMode : FailureMode
  /-- Whether the store is closed for good. -/
  closed : Bool := false
  /-- The pool and its users. -/
  system : Pool.System
  /-- The calls in progress, by name. -/
  takes : List (Nat × Take) := []
  deriving DecidableEq

namespace Store

/-- What an action on a store makes known. -/
inductive Notice
  /-- What it makes known about the pool. -/
  | pool (notice : Pool.Notice)
  /-- A report to the log. -/
  | warned (warning : Warning)
  /-- A call is answered. -/
  | answered (take : Nat) (decision : Decision)

/-- The attempts to open a connection that notices tell of. -/
def dials (notices : List Notice) : List Nat :=
  notices.filterMap fun
    | .pool (.dialed dial) => some dial
    | _ => none

/-- What can happen to a store. -/
inductive Action
  /-- Somebody asks for a token. -/
  | take (name : Nat) (key : String) (moment : Moment)
  /-- Something happens on the transport that a call waits for. -/
  | event (name : Nat) (event : Event)
  /-- The caller of a call gives up. -/
  | giveUp (name : Nat)
  /-- Somebody closes the store. -/
  | close
  deriving DecidableEq, Repr

/-- The decision for the end of a call of the script. -/
def decide? (s : Store) (result : Result) : Except Error Decision :=
  (Answer.ofResult? result).map fun a => ⟨s.limits.tokens, a.remaining, a.reset, a.allowed⟩

/-- Answers a call by the failure mode, and reports the failure. -/
def failed (s : Store) (name : Nat) (key : String) (error : Error) : List Notice :=
  [.warned (.unavailable key error s.failureMode), .answered name s.failureMode.outcome]

/-- Forgets a call. -/
def forget (s : Store) (name : Nat) : Store :=
  { s with takes := s.takes.filter fun entry => entry.1 ≠ name }

/-- Goes on with a call after its turn at the pool: answers it if the pool has refused it a
connection, or if the request has ended, after which the connection is given back. -/
def conclude (s : Store) (name : Nat) (take : Take) : Pool.Turn → Store × List Notice
  | .refused error =>
      (s.forget name, .pool (.refused name error) :: s.failed name take.key error)
  | .ended result =>
      ({ s with system := s.system.release name }.forget name,
        .pool (.ended name result) ::
          match s.decide? result with
          | .ok decision => [.answered name decision]
          | .error error => s.failed name take.key error)
  | turn => (s, (turn.notices name).map .pool)

/-- Goes on with a call after its turn at the pool: runs the script once there is a connection. -/
def follow (s : Store) (name : Nat) (take : Take) :
    Pool.System × Pool.Turn → Store × List Notice
  | (system, .acquired dial) =>
      let (system, turn) := system.call name (.request (s.script.call take.key take.now))
      let (s', notices) := { s with system }.conclude name take turn
      (s', .pool (.acquired name dial) :: notices)
  | (system, turn) => { s with system }.conclude name take turn

/-- The call of a name, if it is in progress. -/
def take? (s : Store) (name : Nat) : Option Take :=
  s.takes.lookup name

/-- Somebody asks for a token. -/
def begin (s : Store) (name : Nat) (key : String) (moment : Moment) : Store × List Notice :=
  if s.closed then (s, [.answered name { allowed := false }])
  else
    match moment.nanos? with
    | .error fault => (s, s.failed name key (.config fault))
    | .ok now =>
        let take : Take := ⟨key, now⟩
        { s with takes := (name, take) :: s.takes }.follow name take (s.system.acquire name)

/-- What an action does to a store.  A name in use cannot be taken again, and an action on a call
that is not in progress changes nothing. -/
def step (s : Store) : Action → Store × List Notice
  | .take name key moment =>
      if (s.take? name).isSome then (s, []) else s.begin name key moment
  | .event name event =>
      match s.take? name with
      | none => (s, [])
      | some take =>
          let (s', notices) := s.follow name take (s.system.react name event)
          (s', (s.system.traffic name event).map .pool ++ notices)
  | .giveUp name =>
      match s.take? name with
      | none => (s, [])
      | some _ => ({ s with system := (s.system.giveUp name).release name }.forget name, [])
  | .close =>
      if s.closed then (s, [])
      else ({ s with closed := true, system := s.system.close }, [])

/-- A run of actions, with everything it makes known in order. -/
def run (s : Store) : List Action → Store × List Notice
  | [] => (s, [])
  | action :: actions =>
      let (s, notices) := s.step action
      let (s, later) := s.run actions
      (s, notices ++ later)

end Store

end RateLimit
