import RateLimit.Duration
import RateLimit.Reply.Fault

/-!
# Errors

What can go wrong between a caller and the server, by cause.  An error is fatal to a connection
(`Error.isFatal`) if the connection may no longer stand between two replies after it.

## Main definitions

* `Error` : the errors, sorted by the part that fails.
* `Error.message` : the wording of an error.
* `Error.isFatal` : whether the connection on which an error arose is lost.
-/

namespace RateLimit

/-- A configuration, or a time, that cannot be used. -/
inductive ConfigFault
  /-- Keys would expire at once. -/
  | zeroTtl
  /-- No way to the server is given. -/
  | noConnector
  /-- More connections are to be opened at the start than may ever be open. -/
  | poolSizes (initial max : Nat)
  /-- A text names no failure mode. -/
  | failureMode (text : String)
  /-- A time too long after the epoch to be counted in nanoseconds. -/
  | timeTooLate (sinceEpoch : Duration)
  /-- A time before the epoch. -/
  | timeTooEarly
  deriving DecidableEq, Repr

/-- The wording of a configuration fault. -/
def ConfigFault.message : ConfigFault → String
  | .zeroTtl => "ttl cannot be 0"
  | .noConnector => "missing connector"
  | .poolSizes initial max => s!"initial pool size {initial} exceeds max pool size {max}"
  | .failureMode text =>
      s!"Invalid failure mode: {text}. Valid options are: fail-closed, fail-open"
  | .timeTooLate d => s!"time {d.text} past the epoch overflows a nanosecond timestamp"
  | .timeTooEarly =>
      "time is before the unix epoch: second time provided was later than self"

/-- A failure of a transport. -/
structure TransportFault where
  /-- The name of the kind of failure. -/
  kind : String
  /-- What the transport says about it. -/
  detail : String
  deriving DecidableEq, Repr

namespace TransportFault

/-- The server ended the stream between two replies. -/
def closedByServer : TransportFault := ⟨"UnexpectedEof", "connection closed by server"⟩

/-- The transport takes no more bytes. -/
def writeZero : TransportFault := ⟨"WriteZero", "write zero"⟩

end TransportFault

/-- A refusal of credentials. -/
inductive AuthFault
  /-- The server says no. -/
  | rejected (text : String)
  /-- The server answers with something other than a status line. -/
  | unexpected (reply : Reply)
  deriving DecidableEq

/-- The wording of a refusal of credentials. -/
def AuthFault.message : AuthFault → String
  | .rejected text => text
  | .unexpected reply => "unexpected AUTH reply: " ++ reply.text

/-- The steps of setting up a store at which the network is used. -/
inductive SetupStep
  /-- The first connections are opened. -/
  | openPool
  /-- A connection is taken to register the script on. -/
  | borrow
  /-- The script is registered. -/
  | prime
  deriving DecidableEq, Repr

/-- What the message about a failed step of the setup says first. -/
def SetupStep.context : SetupStep → String
  | .openPool => "failed to setup connection pool"
  | .borrow => "failed to get connection to register script"
  | .prime => "failed to prime script"

/-- What can go wrong between a caller and the server. -/
inductive Error
  /-- A configuration cannot be used. -/
  | config (fault : ConfigFault)
  /-- A transport fails. -/
  | transport (fault : TransportFault)
  /-- The other side departs from the protocol. -/
  | protocol (fault : ProtocolFault)
  /-- Every connection that may be open is in use. -/
  | poolExhausted (max : Nat)
  /-- The pool is closed. -/
  | poolClosed
  /-- The credentials are refused. -/
  | auth (fault : AuthFault)
  /-- The server answers with an error line. -/
  | server (text : String)
  /-- A step of setting up a store fails. -/
  | setup (step : SetupStep) (cause : Error)
  deriving DecidableEq

namespace Error

/-- The wording of an error. -/
def message : Error → String
  | .config fault => "Configuration error: " ++ fault.message
  | .transport fault => "Transport error: " ++ fault.detail
  | .protocol fault => "Protocol error: " ++ fault.message
  | .poolExhausted max => s!"Connection pool exhausted ({max} connections in use)"
  | .poolClosed => "Connection pool closed"
  | .auth fault => "Authentication failed: " ++ fault.message
  | .server text => "Server returned error: " ++ text
  | .setup step cause => step.context ++ ": " ++ cause.message

/-- Whether the connection on which an error arose may no longer stand between two replies. -/
def isFatal : Error → Bool
  | .transport _ | .protocol _ | .auth _ => true
  | .setup _ cause => cause.isFatal
  | .config _ | .poolExhausted _ | .poolClosed | .server _ => false

end Error

end RateLimit
