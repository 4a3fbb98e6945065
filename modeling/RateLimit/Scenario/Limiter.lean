import RateLimit.Network.BucketServer
import RateLimit.Scenario.Store

/-!
# Scenarios on a server of token buckets

Several stores are opened on one server, one after the other.  Then callers ask them for tokens,
close them, and the server changes its ways.
-/

namespace RateLimit.Scenario.Limiter

/-- The server of a scenario, which computes with some kind of number. -/
abbrev Server (α : Type) := Host (BucketServer α)

/-- What happens in a scenario. -/
inductive Change
  /-- Somebody asks for a token. -/
  | take (key : String) (moment : Moment)
  /-- Somebody closes the store. -/
  | close
  /-- The server treats calls of the script in another way. -/
  | mode (mode : BucketServer.Mode)
  /-- The server refuses connections, or accepts them again. -/
  | refuse (refusing : Bool)
  /-- The server loses a bucket. -/
  | erase (key : String)

/-- What a change comes to. -/
inductive Outcome
  /-- The answer to a call; none if the call was given up. -/
  | taken (decision : Option Decision)
  /-- Nothing to tell. -/
  | done

/-- What is told of a change. -/
structure Report where
  /-- What the change comes to. -/
  outcome : Outcome
  /-- What the pool of the store tells about itself. -/
  stats : Pool.Stats
  /-- Whether the store is closed. -/
  closed : Bool
  /-- How many attempts to open a connection the server has seen. -/
  dialed : Nat
  /-- How many times the server has run the script. -/
  runs : Nat
  /-- The reports to the log. -/
  warnings : List Warning

/-- The stores of a scenario, in order, and their server. -/
structure State (α : Type) where
  stores : List (Option RateLimit.Store)
  server : Server α

variable {α : Type} [Quantity α] [Add α] [Sub α] [Mul α] [Div α] [LT α] [LE α] [DecidableLT α]
  [DecidableLE α]

/-- The network that the store in a place sees. -/
def network (place : Nat) : Network (Server α) :=
  Host.network BucketServer.service place

/-- Opens stores in order. -/
def openAll : List Config → State α → List (Ending Pool.Stats) × State α
  | [], s => ([], s)
  | config :: configs, s =>
      let opened := RateLimit.Store.openOn (network s.stores.length) s.server config
      let (ending, store) : Ending Pool.Stats × Option RateLimit.Store := match opened.ending with
        | .returned (.ok store) => (.returned (.ok store.system.pool.stats), some store)
        | .returned (.error error) => (.returned (.error error), none)
        | .cancelled => (.cancelled, none)
      let (endings, s) := openAll configs ⟨s.stores ++ [store], opened.network⟩
      (ending :: endings, s)

/-- What a change does to a store in a place and to the server. -/
def apply (place : Nat) (store : RateLimit.Store) (server : Server α) :
    Change → Outcome × RateLimit.Store × Server α × List Warning
  | .take key moment =>
      let taken := store.takeOn (network place) server key moment
      (.taken taken.decision, taken.store, taken.network, Store.warnings taken.notices)
  | .close => (.done, (store.step .close).1, server, [])
  | .mode mode => (.done, store, { server with state := { server.state with mode } }, [])
  | .refuse refusing =>
      (.done, store, { server with state := { server.state with refusing } }, [])
  | .erase key =>
      let buckets := server.state.buckets.erase (Bytes.ofString key)
      (.done, store, { server with state := { server.state with buckets } }, [])

/-- What happens at the store in a place.  Nothing is told if there is none. -/
def step (s : State α) (place : Nat) (change : Change) : Option Report × State α :=
  match (s.stores[place]?).join with
  | none => (none, s)
  | some store =>
      let (outcome, store, server, warnings) := apply place store s.server change
      (some ⟨outcome, store.system.pool.stats, store.closed, server.attempts,
        server.state.runs, warnings⟩, ⟨s.stores.set place (some store), server⟩)

/-- Changes in order. -/
def steps (s : State α) : List (Nat × Change) → List (Option Report) × State α
  | [] => ([], s)
  | (place, change) :: rest =>
      let (report, s) := step s place change
      let (reports, s) := steps s rest
      (report :: reports, s)

/-- Opens stores on a server that computes with doubles, and that asks for credentials if it is
given any, and lets changes happen. -/
def run (credentials : Option Credentials) (configs : List Config)
    (todo : List (Nat × Change)) : List (Ending Pool.Stats) × List (Option Report) :=
  let server : BucketServer Float :=
    { accounts := credentials.toList, guests := credentials.isNone }
  let start : State Float := ⟨[], ⟨server, [], 0⟩⟩
  let (endings, s) := openAll configs start
  (endings, (steps s todo).1)

end RateLimit.Scenario.Limiter
