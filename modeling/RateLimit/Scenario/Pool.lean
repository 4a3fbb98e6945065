import RateLimit.Network.Client
import RateLimit.Network.Playback

/-!
# Scenarios on a pool

Callers take connections from a pool under names, make requests on them and give them back, one
after the other.  A name holds one connection at most: the connection that it held before comes
back to the pool after the new one was taken.
-/

namespace RateLimit.Scenario.Pool

open RateLimit.Pool

/-- What a caller does with a pool. -/
inductive Step
  /-- Takes a connection and holds it under a name. -/
  | acquire (name : String)
  /-- Gives back the connection of a name. -/
  | release (name : String)
  /-- Makes a request on the connection of a name. -/
  | request (name : String) (command : Command)
  /-- Looks at the connection of a name. -/
  | show (name : String)
  /-- Closes the pool. -/
  | close

/-- What a step comes to. -/
inductive Outcome
  /-- A connection, numbered in the order in which connections were taken first. -/
  | acquired (ending : Ending Nat)
  /-- Whether there was a connection to give back. -/
  | released (held : Bool)
  /-- The end of a request, and whether the connection counts as broken after it. -/
  | replied (ending : Ending Reply) (broken : Bool)
  /-- The text of a connection. -/
  | shown (text : String)
  /-- The name holds no connection. -/
  | noHandle
  /-- The pool is closed. -/
  | closed

/-- What is told of a step. -/
structure Report (α : Type) where
  /-- What the step comes to. -/
  outcome : α
  /-- What the pool tells about itself, if it is open. -/
  stats : Option Stats
  /-- Whether the pool is closed. -/
  closed : Bool
  /-- The commands that were passed on, with their transports. -/
  sent : List (Nat × Command)
  /-- How many attempts to open a connection were begun. -/
  dialed : Nat
  /-- The numbers of the transports that are open, in ascending order. -/
  transports : List Nat

/-- A pool, the network it is on, and who holds what. -/
structure State where
  system : System
  network : Playback
  /-- The users of the pool by the names of their connections. -/
  handles : List (String × Nat) := []
  /-- The number of the next user. -/
  fresh : Nat := 0
  /-- The connections that were taken, in the order in which they were taken first. -/
  known : List Nat := []

/-- How the opening of a pool takes the answers of a network. -/
def openingWaiter : Waiter Opening.Progress Notice where
  attempts
    | .waiting opening => opening.settings.initialSize
    | _ => 0
  awaiting?
    | .waiting opening => some (opening.dial, opening.attempt.awaiting)
    | _ => none
  resume
    | .waiting opening, event => opening.step event
    | progress, _ => (progress, [])
  close progress := (progress, [])

/-- How a user of a pool takes the answers of a network. -/
def userWaiter (user : Nat) : Waiter System Notice where
  attempts _ := 1
  awaiting? system := do
    let role ← system.role? user
    let awaiting ← role.awaiting?
    return (role.dial, awaiting)
  resume system event := system.step (.event user event)
  close system := system.step .close

/-- Opens a pool on a network. -/
def start (settings : PoolSettings) (network : Playback) :
    Report (Ending Unit) × Option State :=
  let (progress, notices) := Opening.start settings
  let settled := settle openingWaiter Playback.network progress network
  let sent := settled.network.sent
  let dialed := (dials (notices ++ settled.notices)).length
  match settled.state with
  | .opened system =>
      (⟨.returned (.ok ()), some system.pool.stats, false, sent, dialed,
        system.transports.mergeSort⟩, some { system, network := settled.network })
  | .failed error _ => (⟨.returned (.error error), none, false, sent, dialed, []⟩, none)
  | .waiting _ => (⟨.cancelled, none, false, sent, dialed, []⟩, none)

namespace State

/-- The report of a step that leaves a state. -/
def report (s : State) (outcome : Outcome) : Report Outcome × State :=
  (⟨outcome, some s.system.pool.stats, s.system.pool.closed, s.network.sent, s.system.dialed,
    s.system.transports.mergeSort⟩, s)

/-- Gives back the connection of a name, if it holds one. -/
def dropHandle (s : State) (name : String) : State :=
  match s.handles.lookup name with
  | none => s
  | some user =>
      { s with
        system := (s.system.step (.release user)).1
        handles := s.handles.filter fun entry => entry.1 ≠ name }

/-- The number of a connection by the order in which connections were taken first. -/
def number (s : State) (dial : Nat) : Nat × State :=
  match s.known.idxOf? dial with
  | some n => (n, s)
  | none => (s.known.length, { s with known := s.known ++ [dial] })

/-- Takes a connection under a name. -/
def acquire (s : State) (name : String) : Report Outcome × State :=
  let user := s.fresh
  let (system, notices) := s.system.step (.acquire user)
  let settled := settle (userWaiter user) Playback.network system s.network
  let s := { s with system := settled.state, network := settled.network, fresh := user + 1 }
  match settled.state.role? user with
  | some (.holding session) =>
      let (n, s) := s.number session.dial
      let s := s.dropHandle name
      { s with handles := (name, user) :: s.handles }.report (.acquired (.returned (.ok n)))
  | some _ =>
      { s with system := (s.system.step (.giveUp user)).1 }.report (.acquired .cancelled)
  | none =>
      let refusal := (notices ++ settled.notices).findSome? fun
        | .refused _ error => some error
        | _ => none
      s.report (.acquired (.returned (.error (refusal.getD .poolClosed))))

/-- Makes a request on the connection of a name. -/
def request (s : State) (name : String) (command : Command) : Report Outcome × State :=
  match s.handles.lookup name with
  | none => s.report .noHandle
  | some user =>
      let (system, notices) := s.system.step (.call user (.request command))
      let settled := settle (userWaiter user) Playback.network system s.network
      let s := { s with
        system := (settled.state.step (.giveUp user)).1, network := settled.network }
      let broken := match s.system.role? user with
        | some (.holding session) => session.connection.broken
        | _ => true
      let result := (notices ++ settled.notices).findSome? fun
        | .ended _ result => some result.reply
        | _ => none
      s.report <| .replied ((result.map Ending.returned).getD .cancelled) broken

/-- Looks at the connection of a name. -/
def look (s : State) (name : String) : Report Outcome × State :=
  match (s.handles.lookup name).bind s.system.role? with
  | some (.holding session) =>
      s.report (.shown (session.connection.lentText "N"))
  | _ => s.report .noHandle

/-- Takes a step. -/
def step (s : State) (step : Step) : Report Outcome × State :=
  let s := { s with network := s.network.cleared }
  match step with
  | .acquire name => s.acquire name
  | .release name => (s.dropHandle name).report (.released (s.handles.lookup name).isSome)
  | .request name command => s.request name command
  | .show name => s.look name
  | .close => { s with system := (s.system.step .close).1 }.report .closed

/-- Takes steps in order. -/
def run (s : State) : List Step → List (Report Outcome)
  | [] => []
  | step :: steps =>
      let (report, s) := s.step step
      report :: s.run steps

end State

end RateLimit.Scenario.Pool
