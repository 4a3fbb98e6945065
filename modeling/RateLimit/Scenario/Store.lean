import RateLimit.Network.Client
import RateLimit.Network.Playback

/-!
# Scenarios on a store

Callers ask a store for tokens, one after the other, until the store is closed and beyond.

## Main definitions

* `Scenario.Store.step` : one step.
* `Scenario.Store.run` : a whole scenario.
-/

namespace RateLimit.Scenario.Store

open RateLimit.Store

/-- The reports to the log among notices. -/
def warnings (notices : List Notice) : List Warning :=
  notices.filterMap fun
    | .warned warning => some warning
    | _ => none

/-- What a caller does with a store. -/
inductive Step
  /-- Asks for a token. -/
  | take (key : String) (moment : Moment)
  /-- Closes the store. -/
  | close

/-- What a step comes to. -/
inductive Outcome
  /-- The answer to a call; none if the call was given up. -/
  | taken (decision : Option Decision)
  /-- The store is closed. -/
  | closed

/-- What is told of a step. -/
structure Report (α : Type) where
  /-- What the step comes to. -/
  outcome : α
  /-- What the pool tells about itself. -/
  stats : Option Pool.Stats
  /-- Whether the store is closed. -/
  closed : Bool
  /-- The commands that were passed on, with their transports. -/
  sent : List (Nat × Command)
  /-- How many attempts to open a connection were begun. -/
  dialed : Nat
  /-- The numbers of the transports that are open, in ascending order. -/
  transports : List Nat
  /-- The reports to the log. -/
  warnings : List Warning

/-- The report of a step that leaves a store. -/
def report {α : Type} (store : RateLimit.Store) (net : Playback) (outcome : α)
    (notices : List Notice) : Report α :=
  ⟨outcome, some store.system.pool.stats, store.closed, net.sent, store.system.dialed,
    store.system.transports.mergeSort, warnings notices⟩

/-- Takes a step. -/
def step (store : RateLimit.Store) (net : Playback) :
    Step → Report Outcome × RateLimit.Store × Playback
  | .take key moment =>
      let taken := store.takeOn Playback.network net.cleared key moment
      (report taken.store taken.network (.taken taken.decision) taken.notices,
        taken.store, taken.network)
  | .close =>
      let (store, notices) := store.step .close
      (report store net.cleared .closed notices, store, net.cleared)

/-- Takes steps in order. -/
def steps (store : RateLimit.Store) (net : Playback) : List Step → List (Report Outcome)
  | [] => []
  | next :: rest =>
      let (report, store, net) := step store net next
      report :: steps store net rest

/-- Opens a store and takes steps in order, if it is open. -/
def run (config : Config) (net : Playback) (todo : List Step) :
    Report (Ending RateLimit.Store) × List (Report Outcome) :=
  let opened := RateLimit.Store.openOn Playback.network net config
  match opened.ending with
  | .returned (.ok store) =>
      (report store opened.network opened.ending opened.notices,
        steps store opened.network todo)
  | _ =>
      (⟨opened.ending, none, false, opened.network.sent, (dials opened.notices).length, [],
        warnings opened.notices⟩, [])

end RateLimit.Scenario.Store
