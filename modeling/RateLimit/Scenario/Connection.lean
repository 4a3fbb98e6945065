import RateLimit.Bucket.Answer
import RateLimit.Network.Client
import RateLimit.Network.Playback

/-!
# Scenarios on one connection

Calls on a single connection, one after the other, with the requests of authentication and of the
script among them.
-/

namespace RateLimit.Scenario.Connection

/-- What a caller does on a connection. -/
inductive Step
  /-- One of the basic calls. -/
  | call (call : Call)
  /-- Presents credentials. -/
  | authenticate (credentials : Credentials)
  /-- Registers the script of limits. -/
  | register (limits : Limits)
  /-- Calls the script of limits. -/
  | evaluate (limits : Limits) (key : String) (now : Nat)

/-- What a step is for. -/
inductive Value
  /-- Nothing. -/
  | done
  /-- A reply. -/
  | reply (reply : Reply)
  /-- The answer of the script. -/
  | answer (answer : Answer)

/-- What is told of a step. -/
structure Report where
  /-- How the step has ended. -/
  ending : Ending Value
  /-- Whether the connection counts as broken afterwards. -/
  broken : Bool
  /-- The commands that were passed on. -/
  sent : List Command
  /-- The warning that was reported. -/
  warning : Option Warning := none

/-- A connection and the network it is on. -/
structure State where
  connection : Connection := {}
  network : Playback

/-- How a call takes the answers of a network. -/
def waiter : Waiter Progress Unit where
  attempts _ := 0
  awaiting?
    | .waiting x => some (0, x.awaiting)
    | .finished _ _ => none
  resume
    | .waiting x, event => (x.step event, [])
    | progress, _ => (progress, [])
  close progress := (progress, [])

/-- The call that a step makes. -/
def Step.toCall : Step → Call
  | .call c => c
  | .authenticate credentials => .request credentials.command
  | .register limits => .request (Script.ofLimits limits).register
  | .evaluate limits key now => .request ((Script.ofLimits limits).call key now)

/-- What a step makes of the end of its call: the connection, the value and the warning. -/
def Step.conclude (step : Step) (c : RateLimit.Connection) (result : Result) :
    RateLimit.Connection × Except Error Value × Option Warning :=
  match step with
  | .call _ =>
      (c, result.map fun
        | some reply => .reply reply
        | none => .done, none)
  | .authenticate _ =>
      let (c, result) := c.admit result
      (c, result.map fun _ => .done, none)
  | .register limits =>
      match (Script.ofLimits limits).registered result with
      | .ok warning => (c, .ok .done, warning)
      | .error error => (c, .error error, none)
  | .evaluate _ _ _ => (c, (Answer.ofResult? result).map .answer, none)

/-- Takes a step. -/
def State.step (s : State) (step : Step) : Report × State :=
  let settled := settle waiter Playback.network (s.connection.start step.toCall) s.network.cleared
  let sent := settled.network.sent.map Prod.snd
  match settled.state with
  | .waiting x =>
      (⟨.cancelled, x.connection.broken, sent, none⟩, ⟨x.connection, settled.network⟩)
  | .finished c result =>
      let (c, result, warning) := step.conclude c result
      (⟨.returned result, c.broken, sent, warning⟩, ⟨c, settled.network⟩)

/-- Takes steps in order. -/
def State.run (s : State) : List Step → List Report × State
  | [] => ([], s)
  | step :: steps =>
      let (report, s) := s.step step
      let (reports, s) := s.run steps
      (report :: reports, s)

end RateLimit.Scenario.Connection
