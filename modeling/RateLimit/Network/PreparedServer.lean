import RateLimit.Config.Basic
import RateLimit.Network.Host
import RateLimit.Network.SocketPath

/-!
# A server with prepared answers

A service whose answers are laid down beforehand: one to every presentation of credentials, one to
every registration of a script, and one after the other to the calls of a script.  It hangs up
where an answer is missing.  It can be reached at one socket, while nothing else can be reached.

## Main definitions

* `PreparedServer` : the answers that are left, and a log of the commands.
* `PreparedServer.service` : the service.
* `PreparedServer.network` : what a client sees that looks for the server at an endpoint.
-/

namespace RateLimit

/-- The answers of a server that are left, and a log of the commands. -/
structure PreparedServer where
  /-- Whether there is a server. -/
  running : Bool := true
  /-- The answer to credentials. -/
  auth : Bytes := Bytes.ofString "+OK" ++ crlf
  /-- The answer to the registration of a script. -/
  load : Bytes := Bytes.ofString "+OK" ++ crlf
  /-- The answers to the calls of a script; none stands for hanging up. -/
  calls : List (Option Bytes) := []
  /-- The commands, in order. -/
  log : List Command := []
  deriving DecidableEq, Repr

namespace PreparedServer

/-- What the log shows of a command: of a registration and of a call, not the script. -/
def shown : Command → Command
  | name :: rest =>
      if name = Bytes.ofString "EVAL" then name :: (rest.drop 2).take 1
      else if name = Bytes.ofString "SCRIPT" then name :: rest.take 1
      else name :: rest
  | [] => []

/-- The answer to a command. -/
def respond (s : PreparedServer) (_ : Bool) (command : Command) : Response × PreparedServer :=
  let s := { s with log := s.log ++ [shown command] }
  if command.head? = some (Bytes.ofString "AUTH") then (.send s.auth, s)
  else if command.head? = some (Bytes.ofString "SCRIPT") then (.send s.load, s)
  else
    match s.calls with
    | some bytes :: calls => (.send bytes, { s with calls })
    | none :: calls => (.hangUp, { s with calls })
    | [] => (.hangUp, s)

/-- Why a client cannot reach a server at an endpoint: there is no network, and no socket but that
of the server. -/
def refusal (socket : SocketPlace) (endpoint : Endpoint) (s : PreparedServer) :
    Option TransportFault :=
  match endpoint with
  | .tcp _ _ => some ⟨"NetworkUnreachable", "Network is unreachable (os error 101)"⟩
  | .socket path => socket.fault? s.running path
  | .supplied => none

/-- The service, at a socket in a given place. -/
def service (socket : SocketPlace) (endpoint : Endpoint) : Service PreparedServer where
  refusal := refusal socket endpoint
  respond := respond

/-- What a client sees that looks for the server at an endpoint. -/
def network (socket : SocketPlace) (endpoint : Endpoint) : Network (Host PreparedServer) :=
  Host.network (service socket endpoint) 0

end PreparedServer

end RateLimit
