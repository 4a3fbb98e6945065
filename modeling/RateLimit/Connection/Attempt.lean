import RateLimit.Config.Basic
import RateLimit.Connection.Basic

/-!
# Opening connections

An attempt to open a connection waits for its transport to open and then, if there are
credentials, presents them in a request.  Only a status line accepts them; after any other answer
the connection counts as broken.  An attempt that fails or is given up leaves no transport behind.

## Main definitions

* `Credentials.command` : the command that presents credentials.
* `Connection.admit` : what the answer to that command means.
* `Attempt` : an attempt to open a connection, with `Attempt.step`.
-/

namespace RateLimit

/-- The command that presents credentials. -/
def Credentials.command (c : Credentials) : Command :=
  .ofTexts (["AUTH"] ++ c.username.toList ++ [c.password])

/-- The reply in a result.  A call that asked for no reply counts as one that got none. -/
def Result.reply (result : Result) : Except Error Reply :=
  result.map fun reply => reply.getD .null

/-- What the end of the request that presented credentials means. -/
def Connection.admit (c : Connection) (result : Result) : Connection × Except Error Unit :=
  match result.reply with
  | .ok (.status _) => (c, .ok ())
  | .ok reply => ({ c with broken := true }, .error (.auth (.unexpected reply)))
  | .error (.server text) => ({ c with broken := true }, .error (.auth (.rejected text)))
  | .error error => (c, .error error)

/-- An attempt to open a connection. -/
inductive Attempt
  /-- The transport is not open yet. -/
  | connecting
  /-- The transport is open and the credentials are being presented. -/
  | authenticating (exchange : Exchange)
  deriving DecidableEq, Repr

/-- How far an attempt has come. -/
inductive Attempt.Progress
  /-- The attempt waits for its transport. -/
  | waiting (attempt : Attempt)
  /-- The connection is open. -/
  | opened (connection : Connection)
  /-- The attempt has failed. -/
  | failed (error : Error)
  deriving DecidableEq

namespace Attempt

/-- What an attempt waits for. -/
def awaiting : Attempt → Awaiting
  | .connecting => .connect
  | .authenticating x => x.awaiting

/-- Whether an attempt has an open transport. -/
def hasTransport : Attempt → Bool
  | .connecting => false
  | .authenticating _ => true

/-- How far an attempt has come by a request that presents credentials. -/
def ofRequest : RateLimit.Progress → Attempt.Progress
  | .waiting x => .waiting (.authenticating x)
  | .finished c result =>
      match c.admit result with
      | (c, .ok ()) => .opened c
      | (_, .error error) => .failed error

/-- What an event does to an attempt.  An event that it does not wait for changes nothing. -/
def step (credentials : Option Credentials) : Attempt → Event → Attempt.Progress
  | .connecting, .connected =>
      match credentials with
      | none => .opened {}
      | some credentials => ofRequest (Connection.start {} (.request credentials.command))
  | .connecting, .connectFailed fault => .failed (.transport fault)
  | .connecting, _ => .waiting .connecting
  | .authenticating x, event => ofRequest (x.step event)

/-- The bytes that the transport takes in an event. -/
def accepted : Attempt → Event → Bytes
  | .connecting, _ => []
  | .authenticating x, event => x.accepted event

/-- Whether the transport passes on the bytes of a command in an event. -/
def flushes : Attempt → Event → Bool
  | .connecting, _ => false
  | .authenticating x, event => x.flushes event

end Attempt

end RateLimit
