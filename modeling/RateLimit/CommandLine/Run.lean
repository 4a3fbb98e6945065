import RateLimit.CommandLine.LogLevel
import RateLimit.CommandLine.Scan
import RateLimit.CommandLine.Settings
import RateLimit.CommandLine.Variables
import RateLimit.Network.Client

/-!
# Runs of the command line

A run takes tokens for one key as often as it is told and prints a line for each call.  What keeps
it from doing so is reported with its causes.

## Main definitions

* `CommandLine.Report` : what is reported of a failure.
* `CommandLine.Prepared` : what arguments and environment ask for.
* `CommandLine.Outcome` : how a run ends.
* `CommandLine.run` : a run on a network.
-/

namespace RateLimit.CommandLine

/-- What is reported of a failure: what could not be done, and why, the nearest cause first. -/
structure Report where
  message : String
  causes : List String := []
  deriving DecidableEq, Repr

namespace Report

/-- A text with its second and later lines moved to the right. -/
def indented (margin : String) (text : String) : String :=
  String.join (text.toList.map fun c => if c = '\n' then "\n" ++ margin else c.toString)

/-- A numbered cause. -/
def numbered (cause : String × Nat) : String :=
  let number := toString cause.2
  String.ofList (List.replicate (5 - number.length) ' ') ++ number ++ ": " ++
    indented "       " cause.1

/-- The text of a report. -/
def text (r : Report) : String :=
  "Error: " ++ r.message ++ "\n" ++
    match r.causes with
    | [] => ""
    | [cause] => "\nCaused by:\n    " ++ indented "    " cause ++ "\n"
    | causes => "\nCaused by:\n" ++ String.join (causes.zipIdx.map fun c => numbered c ++ "\n")

end Report

/-- An error with its causes, the error itself first. -/
def chain : Error → List String
  | .setup step cause => (Error.setup step cause).message :: chain cause
  | .transport fault => [(Error.transport fault).message, fault.detail]
  | error => [error.message]

/-- How a run ends. -/
inductive Outcome
  /-- The command line is refused, or asks for help. -/
  | usage (error : UsageError)
  /-- The environment variables are listed. -/
  | variables
  /-- Something has kept the run from calling. -/
  | failed (report : Report)
  /-- All calls are made; the answer to a call is missing if it was given up. -/
  | finished (key : String) (decisions : List (Option Decision))
  /-- The network has let the run wait for ever. -/
  | stuck

/-- The line that is printed for a call. -/
def line (key : String) (d : Decision) : String :=
  s!"{key} allowed={d.allowed} limit={d.limit} remaining={d.remaining} reset={d.reset}"

/-- What a run prints. -/
def Outcome.output : Outcome → List String
  | .variables => variableLines
  | .finished key decisions => decisions.filterMap fun decision => decision.map (line key)
  | .usage _ | .failed _ | .stuck => []

/-- The exit code of a run. -/
def Outcome.exitCode : Outcome → Nat
  | .usage .help | .variables | .finished _ _ => 0
  | .usage _ => 2
  | .failed _ | .stuck => 1

/-- What arguments and environment ask for. -/
inductive Prepared
  /-- Nothing more. -/
  | settled (outcome : Outcome)
  /-- Calls. -/
  | calls (settings : Settings)

/-- Looks at arguments and environment. -/
def prepare (args : List String) (environment : List (String × String)) : Prepared :=
  match parse args environment with
  | .error error => .settled (.usage error)
  | .ok arguments =>
      if arguments.listVariables then .settled .variables
      else
        match Settings.ofArguments? arguments with
        | .error fault => .settled (.failed { message := fault.message })
        | .ok settings =>
            match checkLogLevel settings.logLevel with
            | .error fault =>
                .settled (.failed { message := fault.message, causes := fault.causes })
            | .ok () => .calls settings

/-- What is reported if the store cannot be opened. -/
def openFailure (error : Error) : Report :=
  { message := "failed to open rate limit store", causes := chain error }

variable {σ : Type}

/-- Calls for a key, one after the other. -/
def takeAll (network : Network σ) (key : String) (moment : Moment) :
    Nat → Store → σ → List (Option Decision) × σ
  | 0, _, net => ([], net)
  | count + 1, store, net =>
      let taken := store.takeOn network net key moment
      let (decisions, net) := takeAll network key moment count taken.store taken.network
      (taken.decision :: decisions, net)

/-- A run on a network, which depends on where the server is, at one moment. -/
def run (network : Endpoint → Network σ) (net : σ) (moment : Moment) (args : List String)
    (environment : List (String × String)) : Outcome × σ :=
  match prepare args environment with
  | .settled outcome => (outcome, net)
  | .calls settings =>
      let network := network settings.endpoint
      let opened := Store.openOn network net settings.config
      match opened.ending with
      | .returned (.error error) => (.failed (openFailure error), opened.network)
      | .cancelled => (.stuck, opened.network)
      | .returned (.ok store) =>
          let (decisions, net) :=
            takeAll network settings.key moment settings.count store opened.network
          (.finished settings.key decisions, net)

end RateLimit.CommandLine
