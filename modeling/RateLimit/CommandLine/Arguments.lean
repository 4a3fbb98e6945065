import RateLimit.Config.Basic

/-!
# Arguments

What can be set on the command line, how each setting is named there and in the environment, and
which values it takes.  A setting is given once at most; what is not given has a default.

## Main definitions

* `CommandLine.Setting` : the settings that have a value.
* `CommandLine.Arguments` : the values of all settings.
* `CommandLine.Setting.assign` : gives a setting a value.
-/

namespace RateLimit.CommandLine

/-- What is wrong with a command line, or that it asks for help. -/
inductive UsageError
  /-- A value does not suit its setting. -/
  | badValue
  /-- A setting is without its value, or has an empty one where that cannot be. -/
  | noValue
  /-- There is an argument too many, or one that names no setting. -/
  | unknownArgument
  /-- A setting is given twice. -/
  | repeated
  /-- A switch is given a value. -/
  | surplusValue
  /-- Help is asked for. -/
  | help
  deriving DecidableEq, Repr

/-- The settings that have a value. -/
inductive Setting
  | key
  | host
  | port
  | socket
  | connectTimeout
  | username
  | password
  | tokens
  | interval
  | ttl
  | initialSize
  | maxSize
  | failureMode
  | count
  | pause
  | logLevel
  deriving DecidableEq, Repr

namespace Setting

/-- All settings, in the order in which the environment is consulted for them. -/
def all : List Setting :=
  [key, host, port, socket, connectTimeout, username, password, tokens, interval, ttl, initialSize,
    maxSize, failureMode, count, pause, logLevel]

/-- The words of the name of a setting. -/
def words : Setting → List String
  | key => ["key"]
  | host => ["host"]
  | port => ["port"]
  | socket => ["socket"]
  | connectTimeout => ["connect", "timeout", "ms"]
  | username => ["username"]
  | password => ["password"]
  | tokens => ["tokens"]
  | interval => ["interval", "ms"]
  | ttl => ["ttl"]
  | initialSize => ["initial", "pool", "size"]
  | maxSize => ["max", "pool", "size"]
  | failureMode => ["failure", "mode"]
  | count => ["count"]
  | pause => ["pause", "ms"]
  | logLevel => ["log", "level"]

/-- The option of a setting, without the hyphens in front. -/
def option (s : Setting) : String :=
  "-".intercalate s.words

/-- The environment variable of a setting. -/
def environmentName (s : Setting) : String :=
  "LIMITCRAB_" ++ ("_".intercalate s.words).toUpper

/-- The setting that an option belongs to.  The key has no option. -/
def ofOption? (name : String) : Option Setting :=
  (all.filter (· ≠ key)).find? fun s => s.option = name

end Setting

/-- The values of all settings. -/
structure Arguments where
  key : Option String := none
  host : String := "127.0.0.1"
  port : Nat := 6379
  socket : Option String := none
  /-- In milliseconds. -/
  connectTimeout : Nat := 1000
  username : Option String := none
  password : Option String := none
  tokens : Nat := 1
  /-- In milliseconds. -/
  interval : Nat := 1000
  /-- In seconds. -/
  ttl : Nat := 0
  initialSize : Nat := 5
  maxSize : Nat := 100
  failureMode : FailureMode := .failClosed
  count : Nat := 1
  /-- In milliseconds. -/
  pause : Nat := 0
  logLevel : String := "warn"
  /-- Whether the environment variables are to be listed. -/
  listVariables : Bool := false
  deriving DecidableEq, Repr

/-- A natural number below a bound. -/
def natural? (bound : Nat) (text : String) : Except UsageError Nat :=
  match Decimal.unsigned? bound text.toList with
  | some n => .ok n
  | none => .error .badValue

/-- A natural number below a bound that may be written with either sign, so that zero may have a
minus sign. -/
def small? (bound : Nat) (text : String) : Except UsageError Nat :=
  match Decimal.integer? text.toList with
  | some n => if 0 ≤ n ∧ n < bound then .ok n.toNat else .error .badValue
  | none => .error .badValue

/-- Gives a setting a value. -/
def Setting.assign (setting : Setting) (value : String) (a : Arguments) :
    Except UsageError Arguments :=
  match setting with
  | .key => .ok { a with key := some value }
  | .host => .ok { a with host := value }
  | .port => do return { a with port := ← small? UInt16.size value }
  | .socket => if value = "" then .error .noValue else .ok { a with socket := some value }
  | .connectTimeout => do return { a with connectTimeout := ← natural? UInt64.size value }
  | .username => .ok { a with username := some value }
  | .password => .ok { a with password := some value }
  | .tokens => do return { a with tokens := ← natural? UInt64.size value }
  | .interval => do return { a with interval := ← natural? UInt64.size value }
  | .ttl => do return { a with ttl := ← natural? UInt64.size value }
  | .initialSize => do return { a with initialSize := ← natural? UInt64.size value }
  | .maxSize => do return { a with maxSize := ← natural? UInt64.size value }
  | .failureMode =>
      match FailureMode.ofText? value with
      | .ok mode => .ok { a with failureMode := mode }
      | .error _ => .error .badValue
  | .count => do return { a with count := ← small? UInt32.size value }
  | .pause => do return { a with pause := ← natural? UInt64.size value }
  | .logLevel => .ok { a with logLevel := value }

end RateLimit.CommandLine
