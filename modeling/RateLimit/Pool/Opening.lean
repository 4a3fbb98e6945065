import RateLimit.Pool.System

/-!
# Opening a pool

A pool opens its first connections one after the other before anybody may use it.  The first
failure, or giving up, destroys what has been opened; a failure tells which transports it drops.

## Main definitions

* `Pool.Opening` : a pool that is being opened.
* `Pool.Opening.start`, `Pool.Opening.step` : how it begins, and what an event does to it.
-/

namespace RateLimit.Pool

/-- A pool that is being opened. -/
structure Opening where
  /-- The settings of the pool. -/
  settings : PoolSettings
  /-- The connections opened so far, the last one first. -/
  opened : List Session
  /-- The attempt in progress, which is numbered by the connections before it. -/
  attempt : Attempt
  deriving DecidableEq, Repr

/-- How far the opening of a pool has come. -/
inductive Opening.Progress
  /-- A connection is being opened. -/
  | waiting (opening : Opening)
  /-- The pool is open. -/
  | opened (system : System)
  /-- A connection could not be opened.  The given transports were open until then, and are
  dropped. -/
  | failed (error : Error) (dropped : List Nat)
  deriving DecidableEq

namespace Opening

/-- The number of the attempt in progress. -/
def dial (o : Opening) : Nat := o.opened.length

/-- The numbers of the transports that are open. -/
def transports (o : Opening) : List Nat :=
  (if o.attempt.hasTransport then [o.dial] else []) ++ o.opened.map Session.dial

/-- Goes on to the next connection, if one is missing. -/
def next (settings : PoolSettings) (opened : List Session) : Opening.Progress × List Notice :=
  if opened.length < settings.initialSize then
    (.waiting ⟨settings, opened, .connecting⟩, [.dialed opened.length])
  else
    (.opened {
      credentials := settings.credentials
      pool := { maxSize := settings.maxSize, idle := opened, live := opened.length }
      dialed := opened.length }, [])

/-- Begins to open a pool. -/
def start (settings : PoolSettings) : Opening.Progress × List Notice :=
  next settings []

/-- What an event on the transport of the attempt in progress does. -/
def step (o : Opening) (event : Event) : Opening.Progress × List Notice :=
  let traffic := (Role.opening o.dial o.attempt).traffic event
  match o.attempt.step o.settings.credentials event with
  | .waiting attempt => (.waiting { o with attempt }, traffic)
  | .failed error => (.failed error o.transports, traffic)
  | .opened connection =>
      let (progress, notices) := next o.settings (⟨o.dial, connection⟩ :: o.opened)
      (progress, traffic ++ notices)

end Opening

end RateLimit.Pool
