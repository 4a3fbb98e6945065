import RateLimit.Decimal.Integer
import RateLimit.Text.Invisible

/-!
# Log levels

The log level of a run is the name of a level, in upper or lower case, or its number; none stands
for the most talkative one.  A comma may follow it, but nothing behind that except white space.
-/

namespace RateLimit.CommandLine

/-- What is wrong with a log level. -/
inductive LogLevelFault
  /-- It is not the name or number of a level. -/
  | unknown
  /-- Something follows it behind a comma. -/
  | surplus
  deriving DecidableEq, Repr

/-- The names of the levels, by number. -/
def levelNames : List String :=
  ["off", "error", "warn", "info", "debug", "trace"]

/-- The wording of a fault of a log level. -/
def LogLevelFault.message : LogLevelFault → String
  | .unknown =>
      "error parsing level filter: expected one of \"off\", \"error\", \"warn\", \"info\", " ++
        "\"debug\", \"trace\", or a number 0-5"
  | .surplus => "invalid filter directive"

/-- The errors that are the cause of a fault of a log level. -/
def LogLevelFault.causes : LogLevelFault → List String
  | .unknown => [LogLevelFault.unknown.message]
  | .surplus => []

/-- Whether a text is the name or the number of a level, or nothing. -/
def isLevel (text : List Char) : Bool :=
  text.isEmpty || (Decimal.unsigned? levelNames.length text).isSome ||
    levelNames.any fun name => name.toList = text.map Char.toLower

/-- Refuses what is no log level. -/
def checkLogLevel (text : String) : Except LogLevelFault Unit :=
  let level := text.toList.takeWhile (· ≠ ',')
  let rest := (text.toList.dropWhile (· ≠ ',')).drop 1
  if !isLevel level then .error .unknown
  else if !rest.all Text.isBlank then .error .surplus
  else .ok ()

end RateLimit.CommandLine
