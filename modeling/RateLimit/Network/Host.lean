import RateLimit.Network.Basic
import RateLimit.Network.Commands

/-!
# Hosts

A host accepts connections and answers the commands that arrive on them, each as soon as it has
been passed on.  What it answers is up to the service that runs on it.  Several clients may share
a host; each numbers its own connections.

## Main definitions

* `Service` : how commands are answered.
* `Host` : a host with its connections.
* `Host.network` : the network that a client of the host sees.
-/

namespace RateLimit

/-- What a service does with a command. -/
inductive Response
  /-- Sends bytes. -/
  | send (bytes : Bytes)
  /-- Accepts the client and sends bytes. -/
  | welcome (bytes : Bytes)
  /-- Ends the stream. -/
  | hangUp
  deriving DecidableEq, Repr

/-- How a service with states of type `τ` treats its clients. -/
structure Service (τ : Type) where
  /-- Why an attempt to open a connection fails, if it does. -/
  refusal : τ → Option TransportFault
  /-- The response to a command of a client that has been accepted, or not. -/
  respond : τ → Bool → Command → Response × τ

namespace Host

/-- A host's end of a connection. -/
structure Peer where
  /-- Whether the client has been accepted. -/
  welcomed : Bool := false
  /-- The bytes that were taken and not passed on yet. -/
  incoming : Bytes := []
  /-- The bytes that are on the way to the client. -/
  outgoing : Bytes := []
  /-- Whether the stream ends behind these. -/
  ended : Bool := false
  deriving DecidableEq, Repr

end Host

/-- A host with its connections, by client and number. -/
structure Host (τ : Type) where
  /-- The state of the service. -/
  state : τ
  /-- The connections. -/
  peers : List ((Nat × Nat) × Host.Peer) := []
  /-- How many attempts to open a connection there were. -/
  attempts : Nat := 0

namespace Host

variable {τ : Type}

/-- One end of a connection. -/
def peer (h : Host τ) (client dial : Nat) : Peer :=
  (h.peers.lookup (client, dial)).getD {}

/-- Replaces one end of a connection. -/
def setPeer (h : Host τ) (client dial : Nat) (peer : Peer) : Host τ :=
  { h with
    peers := ((client, dial), peer) :: h.peers.filter fun entry => entry.1 ≠ (client, dial) }

/-- Answers a command. -/
def answer (service : Service τ) (served : Peer × τ) (command : Command) : Peer × τ :=
  let (peer, state) := served
  match service.respond state peer.welcomed command with
  | (.send bytes, state) => ({ peer with outgoing := peer.outgoing ++ bytes }, state)
  | (.welcome bytes, state) =>
      ({ peer with welcomed := true, outgoing := peer.outgoing ++ bytes }, state)
  | (.hangUp, state) => ({ peer with ended := true }, state)

/-- Answers the commands that were passed on. -/
def serve (service : Service τ) (peer : Peer) (state : τ) : Peer × τ :=
  let (commands, left) := Command.readAll peer.incoming
  commands.foldl (answer service) ({ peer with incoming := left }, state)

/-- What happens on a connection of a client. -/
def cue (service : Service τ) (client : Nat) (h : Host τ) (dial : Nat) :
    Awaiting → Cue × Host τ
  | .connect =>
      let h := { h with attempts := h.attempts + 1 }
      match service.refusal h.state with
      | some fault => (.event (.connectFailed fault), h)
      | none => (.event .connected, h.setPeer client dial {})
  | .write rest =>
      let peer := h.peer client dial
      (.event (.wrote rest.length),
        h.setPeer client dial { peer with incoming := peer.incoming ++ rest })
  | .flush =>
      let (peer, state) := serve service (h.peer client dial) h.state
      (.event .flushed, { h with state }.setPeer client dial peer)
  | .read =>
      let peer := h.peer client dial
      if !peer.outgoing.isEmpty then
        (.event (.received peer.outgoing), h.setPeer client dial { peer with outgoing := [] })
      else if peer.ended then (.event .ended, h)
      else (.wait, h)

/-- The network that a client of a host sees. -/
def network (service : Service τ) (client : Nat) : Network (Host τ) where
  cue := cue service client
  patience _ attempts := 10 * (attempts + 1)

end Host

end RateLimit
