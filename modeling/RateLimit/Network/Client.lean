import RateLimit.Network.Basic
import RateLimit.Store.Opening

/-!
# Stores on a network

A store is opened on a network, and calls are made on it one after the other, each of which is
given up if the network lets it wait for ever.

## Main definitions

* `Store.openOn` : opens a store on a network.
* `Store.takeOn` : one call on a network.
-/

namespace RateLimit

/-- How something that can wait has ended. -/
inductive Ending (α : Type)
  /-- With a value or an error. -/
  | returned (result : Except Error α)
  /-- It was given up. -/
  | cancelled

namespace Store

/-- How the opening of a store takes the answers of a network. -/
def openingWaiter (attempts : Nat) : Waiter Opening.Progress Notice where
  attempts _ := attempts
  awaiting?
    | .waiting opening => opening.awaiting?
    | _ => none
  resume
    | .waiting opening, event => opening.step event
    | progress, _ => (progress, [])
  close progress := (progress, [])

/-- How a call on a store takes the answers of a network. -/
def takeWaiter (name : Nat) : Waiter Store Notice where
  attempts _ := 1
  awaiting? store := do
    let role ← store.system.role? name
    let awaiting ← role.awaiting?
    return (role.dial, awaiting)
  resume store event := store.step (.event name event)
  close store := store.step .close

/-- How the opening of a store has ended on a network. -/
structure Opened (σ : Type) where
  /-- The store, if it is open. -/
  ending : Ending Store
  /-- The network. -/
  network : σ
  /-- What was made known. -/
  notices : List Notice

/-- Opens a store on a network. -/
def openOn {σ : Type} (network : Network σ) (net : σ) (config : Config) : Opened σ :=
  let (progress, notices) := Opening.start config
  let attempts := match config.pool with
    | .ok settings => settings.initialSize + 1
    | .error _ => 0
  let settled := settle (openingWaiter attempts) network progress net
  let ending := match settled.state with
    | .opened store => .returned (.ok store)
    | .failed error _ => .returned (.error error)
    | .waiting _ => .cancelled
  ⟨ending, settled.network, notices ++ settled.notices⟩

/-- How a call on a store has ended on a network. -/
structure Taken (σ : Type) where
  /-- The answer; none if the call was given up. -/
  decision : Option Decision
  /-- The store. -/
  store : Store
  /-- The network. -/
  network : σ
  /-- What was made known. -/
  notices : List Notice

/-- One call on a store on a network. -/
def takeOn {σ : Type} (store : Store) (network : Network σ) (net : σ) (key : String)
    (moment : Moment) : Taken σ :=
  let name := 0
  let (store, notices) := store.step (.take name key moment)
  let settled := settle (takeWaiter name) network store net
  let notices := notices ++ settled.notices
  let decision := notices.findSome? fun
    | .answered _ decision => some decision
    | _ => none
  ⟨decision, (settled.state.step (.giveUp name)).1, settled.network, notices⟩

end Store

end RateLimit
