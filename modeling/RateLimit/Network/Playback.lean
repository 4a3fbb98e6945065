import RateLimit.Command
import RateLimit.Network.Basic
import RateLimit.Reply.Reader

/-!
# A network that plays back a script

What every attempt to open a connection comes to, what is delivered on its transport and how the
transport takes each command is laid down beforehand, and does not depend on what is sent.  The
network keeps a log of the commands that were passed on.

## Main definitions

* `Playback.Dial`, `Playback.Read`, `Playback.Write` : the parts of a script.
* `Playback` : what is left of a script, and the log.
* `Playback.network` : the network.
* `Playback.sent` : the commands in the log.
-/

namespace RateLimit

/-- The words of a command on the wire. -/
def Command.ofWire (bytes : Bytes) : Command :=
  match Reply.decode bytes with
  | .ok reply => .ofReply reply
  | .error _ => []

namespace Playback

/-- What a transport delivers. -/
inductive Read
  /-- Bytes. -/
  | data (bytes : Bytes)
  /-- The end of the stream, for good. -/
  | ended
  /-- A failure. -/
  | failed (fault : TransportFault)
  /-- Nothing, until it is waited for anew. -/
  | wait
  /-- Somebody closes the pool or the store, and the delivery goes on. -/
  | close
  deriving DecidableEq, Repr

/-- How a transport takes a command. -/
inductive Write
  /-- As a whole. -/
  | works
  /-- With a failure to take bytes. -/
  | failed (fault : TransportFault)
  /-- By taking no bytes. -/
  | full
  /-- Not at all. -/
  | wait
  /-- With a failure to pass on the bytes that it took. -/
  | flushFailed (fault : TransportFault)
  deriving DecidableEq, Repr

/-- One end of a transport. -/
structure Peer where
  /-- What is still delivered; the end of the stream comes after it. -/
  reads : List Read := []
  /-- How the next commands are taken; all others are taken as a whole. -/
  writes : List Write := []
  /-- The bytes of the command that was taken last. -/
  taken : Bytes := []
  deriving DecidableEq, Repr

/-- What an attempt to open a connection comes to. -/
inductive Dialed
  /-- Nothing, for ever. -/
  | wait
  /-- A failure. -/
  | failed (fault : TransportFault)
  /-- An open transport. -/
  | connected (peer : Peer)
  deriving DecidableEq, Repr

/-- An attempt to open a connection. -/
structure Dial where
  /-- Whether somebody closes the pool or the store first. -/
  closes : Bool := false
  /-- What the attempt comes to. -/
  outcome : Dialed
  deriving DecidableEq, Repr

end Playback

open Playback in
/-- What is left of a script, and the log. -/
structure Playback where
  /-- The next attempts to open a connection. -/
  dials : List Dial := []
  /-- Every attempt after these. -/
  further : Dial := ⟨false, .failed ⟨"ConnectionRefused", "no more dials"⟩⟩
  /-- The attempt in progress. -/
  current : Option Dial := none
  /-- The transports by number. -/
  peers : List (Nat × Peer) := []
  /-- The bytes of the commands that were passed on, with their transports. -/
  log : List (Nat × Bytes) := []
  deriving DecidableEq, Repr

namespace Playback

/-- One end of a transport. -/
def peer (p : Playback) (dial : Nat) : Peer :=
  (p.peers.lookup dial).getD {}

/-- Replaces one end of a transport. -/
def setPeer (p : Playback) (dial : Nat) (peer : Peer) : Playback :=
  { p with peers := (dial, peer) :: p.peers.filter fun entry => entry.1 ≠ dial }

/-- The attempt in progress, or else the next one. -/
def upcoming (p : Playback) : Dial × Playback :=
  match p.current, p.dials with
  | some dial, _ => (dial, { p with current := none })
  | none, dial :: dials => (dial, { p with dials })
  | none, [] => (p.further, p)

/-- What happens to an attempt to open a connection. -/
def connect (p : Playback) (dial : Nat) : Cue × Playback :=
  let (next, p) := p.upcoming
  if next.closes then (.close, { p with current := some { next with closes := false } })
  else
    match next.outcome with
    | .wait => (.wait, p)
    | .failed fault => (.event (.connectFailed fault), p)
    | .connected peer => (.event .connected, p.setPeer dial peer)

/-- How a transport takes the rest of a command.  The rule for a command is used up when the
command fails or is passed on. -/
def write (p : Playback) (dial : Nat) (rest : Bytes) : Cue × Playback :=
  let peer := p.peer dial
  let used := p.setPeer dial { peer with writes := peer.writes.tail }
  match peer.writes.headD .works with
  | .failed fault => (.event (.writeFailed fault), used)
  | .full => (.event (.wrote 0), used)
  | .wait => (.wait, used)
  | .works | .flushFailed _ =>
      (.event (.wrote rest.length), p.setPeer dial { peer with taken := rest })

/-- Whether a transport passes on the command that it took. -/
def flush (p : Playback) (dial : Nat) : Cue × Playback :=
  let peer := p.peer dial
  let used := p.setPeer dial { peer with writes := peer.writes.tail, taken := [] }
  match peer.writes.headD .works with
  | .flushFailed fault => (.event (.flushFailed fault), used)
  | _ => (.event .flushed, { used with log := used.log ++ [(dial, peer.taken)] })

/-- What is delivered next.  Deliveries of no bytes are passed over. -/
def delivery : List Read → Cue × List Read
  | [] => (.event .ended, [])
  | .data [] :: reads => delivery reads
  | .data bytes :: reads => (.event (.received bytes), reads)
  | .ended :: reads => (.event .ended, .ended :: reads)
  | .failed fault :: reads => (.event (.readFailed fault), reads)
  | .wait :: reads => (.wait, reads)
  | .close :: reads => (.close, reads)

/-- What a transport delivers next. -/
def read (p : Playback) (dial : Nat) : Cue × Playback :=
  let peer := p.peer dial
  let (cue, reads) := delivery peer.reads
  (cue, p.setPeer dial { peer with reads })

/-- How many deliveries an attempt to open a connection can lead to. -/
def Dial.size (d : Dial) : Nat :=
  match d.outcome with
  | .connected peer => peer.reads.length
  | .wait | .failed _ => 0

/-- A bound on the answers that a wait with so many attempts to open a connection can take: every
delivery that is left, and for each attempt the end of the stream and what it takes to open a
connection and to send two commands. -/
def patience (p : Playback) (attempts : Nat) : Nat :=
  let dialed := (p.current.toList ++ p.dials).foldl (fun n dial => n + dial.size) 0
  let opened := p.peers.foldl (fun n entry => n + entry.2.reads.length) 0
  dialed + attempts * p.further.size + opened + 10 * (attempts + 1)

/-- The network that plays back a script. -/
def network : Network Playback where
  cue p dial
    | .connect => p.connect dial
    | .write rest => p.write dial rest
    | .flush => p.flush dial
    | .read => p.read dial
  patience := patience

/-- The commands in the log, with their transports. -/
def sent (p : Playback) : List (Nat × Command) :=
  p.log.map fun entry => (entry.1, Command.ofWire entry.2)

/-- The script with an empty log. -/
def cleared (p : Playback) : Playback :=
  { p with log := [] }

end Playback

end RateLimit
