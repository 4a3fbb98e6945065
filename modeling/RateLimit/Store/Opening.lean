import RateLimit.Store.Basic

/-!
# Opening a store

A store is opened from a configuration: its limits and the settings of its pool are resolved, the
pool is opened, and the script is registered once on one of its connections.  Whatever goes wrong
after the configuration was accepted is reported with the step at which it did, and every transport
that was open until then is dropped.

## Main definitions

* `Store.Plan` : what a configuration resolves to.
* `Store.Opening` : a store that is being opened.
* `Store.Opening.start`, `Store.Opening.step` : how it begins, and what an event does to it.
-/

namespace RateLimit.Store

/-- What a configuration resolves to, apart from the pool. -/
structure Plan where
  limits : Limits
  script : Script
  failureMode : FailureMode
  deriving DecidableEq

/-- A store that is being opened. -/
inductive Opening
  /-- The pool is being opened. -/
  | pool (plan : Plan) (opening : Pool.Opening)
  /-- The script is being registered. -/
  | script (plan : Plan) (system : Pool.System)
  deriving DecidableEq

/-- How far the opening of a store has come. -/
inductive Opening.Progress
  /-- Something is waited for. -/
  | waiting (opening : Opening)
  /-- The store is open. -/
  | opened (store : Store)
  /-- The store could not be opened.  The given transports were open until then, and are
  dropped. -/
  | failed (error : Error) (dropped : List Nat)
  deriving DecidableEq

namespace Opening

/-- The name under which the opening of a store uses the pool. -/
def user : Nat := 0

/-- The numbers of the transports that are open. -/
def transports : Opening → List Nat
  | .pool _ opening => opening.transports
  | .script _ system => system.transports

/-- What an opening waits for, and on which transport. -/
def awaiting? : Opening → Option (Nat × Awaiting)
  | .pool _ opening => some (opening.dial, opening.attempt.awaiting)
  | .script _ system => do
      let role ← system.role? user
      let awaiting ← role.awaiting?
      return (role.dial, awaiting)

/-- Goes on after a turn at the pool: the opening fails if the pool has refused a connection, and
ends with the registration. -/
def conclude (plan : Plan) (system : Pool.System) : Pool.Turn → Progress × List Notice
  | .refused error =>
      (.failed (.setup .borrow error) system.transports, [.pool (.refused user error)])
  | .ended result =>
      let notice : Notice := .pool (.ended user result)
      match plan.script.registered result with
      | .error error => (.failed (.setup .prime error) system.transports, [notice])
      | .ok warning =>
          (.opened {
            limits := plan.limits
            script := plan.script
            failureMode := plan.failureMode
            system := system.release user },
            notice :: (warning.map Notice.warned).toList)
  | turn => (.waiting (.script plan system), (turn.notices user).map .pool)

/-- Goes on after a turn at the pool: registers the script once there is a connection. -/
def follow (plan : Plan) : Pool.System × Pool.Turn → Progress × List Notice
  | (system, .acquired dial) =>
      let (system, turn) := system.call user (.request plan.script.register)
      let (progress, notices) := conclude plan system turn
      (progress, .pool (.acquired user dial) :: notices)
  | (system, turn) => conclude plan system turn

/-- Goes on with the opening of the pool: registers the script once it is open. -/
def proceed (plan : Plan) (after : Pool.Opening.Progress × List Pool.Notice) :
    Progress × List Notice :=
  let made : List Notice := after.2.map .pool
  match after.1 with
  | .waiting opening => (.waiting (.pool plan opening), made)
  | .failed error dropped => (.failed (.setup .openPool error) dropped, made)
  | .opened system =>
      let (progress, more) := follow plan (system.acquire user)
      (progress, made ++ more)

/-- Begins to open a store. -/
def start (config : Config) : Progress × List Notice :=
  match config.limits with
  | .error fault => (.failed (.config fault) [], [])
  | .ok limits =>
      match config.pool with
      | .error fault => (.failed (.config fault) [], [])
      | .ok settings =>
          proceed ⟨limits, .ofLimits limits, config.failureMode⟩ (Pool.Opening.start settings)

/-- What an event on the transport that is waited for does. -/
def step : Opening → Event → Progress × List Notice
  | .pool plan opening, event => proceed plan (opening.step event)
  | .script plan system, event =>
      let (progress, notices) := follow plan (system.react user event)
      (progress, (system.traffic user event).map .pool ++ notices)

end Opening

end RateLimit.Store
