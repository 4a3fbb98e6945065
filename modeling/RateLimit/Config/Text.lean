import RateLimit.Config.Basic
import RateLimit.Text.Quoted

/-!
# The text of a configuration

Configurations are shown in logs field by field.  The password of a configuration is never shown.
-/

namespace RateLimit

/-- A record with named fields. -/
def Text.record (name : String) (fields : List (String × String)) : String :=
  name ++ " \x7b " ++ ", ".intercalate (fields.map fun f => f.1 ++ ": " ++ f.2) ++ " \x7d"

/-- A value that may be absent. -/
def Text.optional {α : Type} (text : α → String) : Option α → String
  | none => "None"
  | some a => "Some(" ++ text a ++ ")"

/-- The text of credentials.  It does not depend on the password. -/
def Credentials.text (c : Credentials) : String :=
  Text.record "Credentials"
    [("username", Text.optional Text.quote c.username), ("password", Text.quote "<redacted>")]

/-- The name of a failure mode. -/
def FailureMode.name : FailureMode → String
  | .failClosed => "FailClosed"
  | .failOpen => "FailOpen"

/-- The text of a configuration.  Of the endpoint it tells only whether there is one. -/
def Config.text (c : Config) : String :=
  Text.record "Config" [
    ("tokens", toString c.tokens),
    ("interval", c.interval.text),
    ("ttl", toString c.ttl),
    ("initial_pool_size", toString c.initialSize),
    ("max_pool_size", toString c.maxSize),
    ("credentials", Text.optional Credentials.text c.credentials),
    ("connector", Text.optional (fun _ => Text.quote "..") c.endpoint),
    ("failure_mode", c.failureMode.name)]

/-- The text of the settings of a pool, which ends in an ellipsis for the way to the server. -/
def PoolSettings.text (s : PoolSettings) : String :=
  "PoolConfig \x7b initial_size: " ++ toString s.initialSize ++
    ", max_size: " ++ toString s.maxSize ++
    ", credentials: " ++ Text.optional Credentials.text s.credentials ++ ", .. \x7d"

end RateLimit
