import RateLimit.CommandLine.Arguments

/-!
# The settings of a run

The arguments of a run are checked against one another before anything else is done: a user name
needs a password, there must be a key and something to do, and the sizes of the pool must agree.

## Main definitions

* `CommandLine.Settings` : what a run works with.
* `CommandLine.Settings.unchecked?` : the settings that arguments amount to, not checked yet.
* `CommandLine.Settings.ofArguments?` : the settings that arguments amount to.
* `CommandLine.Settings.config` : the configuration of the store of a run.
-/

namespace RateLimit.CommandLine

/-- Why arguments cannot be used together. -/
inductive SettingsFault
  /-- There is a user name but no password. -/
  | usernameAlone
  /-- There is no key. -/
  | noKey
  /-- Nothing is to be done. -/
  | zeroCount
  /-- More connections are to be opened at the start than may ever be open. -/
  | poolSizes (initial max : Nat)
  deriving DecidableEq, Repr

/-- The wording of a fault of arguments. -/
def SettingsFault.message : SettingsFault → String
  | .usernameAlone => "--username requires --password"
  | .noKey =>
      "A key is required.\n\nExample:\n  limitcrab --tokens 5 api_key_12345\n" ++
        "  LIMITCRAB_KEY=api_key_12345 limitcrab\n\nFor more information, try '--help'"
  | .zeroCount => "--count must be at least 1"
  | .poolSizes initial max =>
      s!"--initial-pool-size ({initial}) cannot exceed --max-pool-size ({max})"

/-- What a run works with. -/
structure Settings where
  endpoint : Endpoint
  /-- How long an attempt to open a connection may take, in milliseconds. -/
  connectTimeout : Nat
  credentials : Option Credentials
  tokens : Nat
  interval : Duration
  ttl : Nat
  initialSize : Nat
  maxSize : Nat
  failureMode : FailureMode
  key : String
  count : Nat
  /-- The pause between two calls, in milliseconds. -/
  pause : Nat
  logLevel : String
  deriving DecidableEq, Repr

namespace Settings

/-- The settings of a run are sound: there is a key, something to do, and no contradiction between
the sizes of the pool.  A greatest size of zero stands for the default, which is not looked at. -/
def check (s : Settings) : Except SettingsFault Settings :=
  if s.key = "" then .error .noKey
  else if s.count = 0 then .error .zeroCount
  else if s.maxSize ≠ 0 ∧ s.maxSize < s.initialSize then
    .error (.poolSizes s.initialSize s.maxSize)
  else .ok s

/-- The credentials that a user name and a password amount to. -/
def credentials? (username password : Option String) :
    Except SettingsFault (Option Credentials) :=
  match username, password with
  | username, some password => .ok (some ⟨username, password⟩)
  | some _, none => .error .usernameAlone
  | none, none => .ok none

/-- The settings that arguments amount to, before they are checked against one another. -/
def unchecked? (a : Arguments) : Except SettingsFault Settings := do
  let credentials ← credentials? a.username a.password
  return {
    endpoint := match a.socket with
      | some path => .socket path
      | none => .tcp a.host a.port
    connectTimeout := a.connectTimeout
    credentials
    tokens := a.tokens
    interval := .ofMillis a.interval
    ttl := a.ttl
    initialSize := a.initialSize
    maxSize := a.maxSize
    failureMode := a.failureMode
    key := a.key.getD ""
    count := a.count
    pause := a.pause
    logLevel := a.logLevel }

/-- The settings that arguments amount to. -/
def ofArguments? (a : Arguments) : Except SettingsFault Settings := do
  check (← unchecked? a)

/-- The configuration of the store of a run. -/
def config (s : Settings) : Config where
  tokens := s.tokens
  interval := s.interval
  ttl := s.ttl
  initialSize := s.initialSize
  maxSize := s.maxSize
  credentials := s.credentials
  endpoint := some s.endpoint
  failureMode := s.failureMode

end Settings

end RateLimit.CommandLine
