import RateLimit.CommandLine.Arguments

/-!
# Scanning a command line

Arguments are taken from left to right.  An option stands before its value, or holds it behind an
equals sign; a value of its own must not begin with a hyphen, unless it is nothing but one.  What
is no option is the key.  Two hyphens end the options.  A value is looked at when the next setting
comes, so that an argument that names no setting is reported before a bad value in front of it.
After the command line the environment is consulted for the settings that were not given.

## Main definitions

* `CommandLine.Scan` : how far a command line has been scanned.
* `CommandLine.Scan.step` : takes the next argument.
* `CommandLine.parse` : the arguments of a command line and an environment.
-/

namespace RateLimit.CommandLine

/-- A setting whose value is still to come or to be looked at. -/
structure Pending where
  /-- The setting. -/
  setting : Setting
  /-- Its value, if it has come. -/
  value : Option String := none
  deriving DecidableEq, Repr

/-- How far a command line has been scanned. -/
structure Scan where
  /-- The values so far. -/
  arguments : Arguments := {}
  /-- The settings that have been given. -/
  given : List Setting := []
  /-- The setting that comes next. -/
  pending : Option Pending := none
  /-- Whether the key has come. -/
  keyed : Bool := false
  /-- Whether the options have ended. -/
  trailing : Bool := false
  deriving DecidableEq, Repr

namespace Scan

/-- Gives a setting a value, for the first time. -/
def accept (s : Scan) (setting : Setting) (value : String) : Except UsageError Scan :=
  if setting ∈ s.given then .error .repeated
  else do
    let arguments ← setting.assign value s.arguments
    return { s with arguments, given := setting :: s.given }

/-- Looks at the value of the pending setting. -/
def resolve (s : Scan) : Except UsageError Scan :=
  match s.pending with
  | none => .ok s
  | some ⟨_, none⟩ => .error .noValue
  | some ⟨setting, some value⟩ => { s with pending := none }.accept setting value

/-- Takes the key, or an argument too many. -/
def takeKey (s : Scan) (arg : String) : Except UsageError Scan :=
  if s.keyed then .error .unknownArgument
  else do
    let s ← s.resolve
    return { s with pending := some ⟨.key, some arg⟩, keyed := true }

/-- Takes the switch that lists the environment variables. -/
def takeSwitch (s : Scan) : Except UsageError Scan := do
  let s ← s.resolve
  if s.arguments.listVariables then throw .repeated
  return { s with arguments := { s.arguments with listVariables := true } }

/-- Takes an option, with its value if it holds one. -/
def takeOption (s : Scan) (name : String) (value : Option String) : Except UsageError Scan :=
  if name = "help" then
    match value with
    | some _ => .error .surplusValue
    | none => s.resolve.bind fun _ => .error .help
  else if name = "list-env-vars" then
    match value with
    | some _ => .error .surplusValue
    | none => s.takeSwitch
  else
    match Setting.ofOption? name, value with
    | none, _ => .error .unknownArgument
    | some setting, some value => do (← s.resolve).accept setting value
    | some setting, none => do
        let s ← s.resolve
        return { s with pending := some ⟨setting, none⟩ }

/-- Takes a value that stands by itself: it belongs to the option before it, or is the key. -/
def takeValue (s : Scan) (arg : String) : Except UsageError Scan :=
  match s.pending with
  | some ⟨setting, none⟩ => .ok { s with pending := some ⟨setting, some arg⟩ }
  | _ => s.takeKey arg

/-- An option divided at its first equals sign. -/
def divide (name : List Char) : String × Option String :=
  (String.ofList (name.takeWhile (· ≠ '=')),
    match name.dropWhile (· ≠ '=') with
    | _ :: value => some (String.ofList value)
    | [] => none)

/-- Takes the next argument. -/
def step (s : Scan) (arg : String) : Except UsageError Scan :=
  if s.trailing then s.takeKey arg
  else
    match arg.toList with
    | ['-', '-'] => .ok { s with trailing := true }
    | '-' :: '-' :: name =>
        let (name, value) := divide name
        s.takeOption name value
    | '-' :: 'h' :: _ => s.resolve.bind fun _ => .error .help
    | '-' :: _ :: _ => .error .unknownArgument
    | _ => s.takeValue arg

/-- Consults the environment for a setting that was not given. -/
def consult (environment : List (String × String)) (s : Scan) (setting : Setting) :
    Except UsageError Scan :=
  if setting ∈ s.given then .ok s
  else
    match environment.lookup setting.environmentName with
    | none => .ok s
    | some value => s.accept setting value

end Scan

/-- The arguments of a command line and an environment. -/
def parse (args : List String) (environment : List (String × String)) :
    Except UsageError Arguments := do
  let s ← args.foldlM Scan.step {}
  let s ← s.resolve
  let s ← Setting.all.foldlM (Scan.consult environment) s
  return s.arguments

end RateLimit.CommandLine
