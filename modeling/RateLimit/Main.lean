import RateLimit.CommandLine.Run
import RateLimit.Network.SocketPath
import Std.Async.DNS
import Std.Async.TCP

/-!
# The command line

Takes tokens for a key from a server that is reached over TCP, and prints a line for each call.
This module only carries bytes: what is sent, and what an answer means, is decided by
`RateLimit.Store`.
-/

namespace RateLimit.CommandLine

open Std.Async Std.Net

/-- The transports that are open, by number. -/
abbrev Transports := IO.Ref (List (Nat × TCP.Socket.Client))

/-- The address of a server, or why no transport to it can be opened. -/
abbrev Place := Except TransportFault SocketAddress

/-- What a failure of the operating system tells. -/
def faultOf (error : IO.Error) : TransportFault :=
  ⟨"Other", toString error⟩

/-- An address and a port. -/
def socketAddress (address : IPAddr) (port : Nat) : SocketAddress :=
  match address with
  | .v4 addr => .v4 ⟨addr, port.toUInt16⟩
  | .v6 addr => .v6 ⟨addr, port.toUInt16⟩

/-- The text of an address and a port. -/
def addressText : SocketAddress → String
  | .v4 addr => s!"{addr.addr}:{addr.port}"
  | .v6 addr => s!"[{addr.addr}]:{addr.port}"

/-- Opens a transport within a number of milliseconds. -/
def connect (transports : Transports) (dial : Nat) (address : SocketAddress) (limit : Nat) :
    IO Event := do
  let client ← TCP.Socket.Client.mk
  let task ← (client.connect address).toIO
  let start ← IO.monoMsNow
  while !(← IO.hasFinished task) && (← IO.monoMsNow) - start < limit do
    IO.sleep 1
  if ← IO.hasFinished task then
    task.block
    client.noDelay
    transports.modify ((dial, client) :: ·)
    return .connected
  else
    return .connectFailed ⟨"TimedOut", s!"connect to {addressText address} timed out"⟩

/-- Sends bytes on a transport. -/
def send (transports : Transports) (dial : Nat) (bytes : Bytes) : IO Event := do
  match (← transports.get).lookup dial with
  | some client =>
      (client.send ⟨bytes.toArray⟩).block
      return .wrote bytes.length
  | none => return .wrote 0

/-- Receives bytes on a transport. -/
def receive (transports : Transports) (dial : Nat) : IO Event := do
  match (← transports.get).lookup dial with
  | some client =>
      match ← (client.recv? 4096).block with
      | some data => return .received data.toList
      | none => return .ended
  | none => return .ended

/-- Does what is waited for on a transport. -/
def perform (transports : Transports) (place : Place) (limit : Nat) (dial : Nat) :
    Awaiting → IO Event
  | .connect =>
      match place with
      | .error fault => return .connectFailed fault
      | .ok address =>
          try connect transports dial address limit
          catch error => return .connectFailed (faultOf error)
  | .write rest =>
      try send transports dial rest
      catch error => return .writeFailed (faultOf error)
  | .flush => return .flushed
  | .read =>
      try receive transports dial
      catch error => return .readFailed (faultOf error)

/-- Drops the transports that are not in use any more. -/
def dropUnused (transports : Transports) (used : List Nat) : IO Unit :=
  transports.modify fun clients => clients.filter fun entry => used.contains entry.1

/-- Reports warnings. -/
def warn (notices : List Store.Notice) : IO Unit :=
  notices.forM fun
    | .warned (.unavailable key error _) =>
        IO.eprintln s!"WARN rate limit store unavailable key={key} error={error.message}"
    | .warned warning => IO.eprintln s!"WARN {warning.message}"
    | _ => pure ()

/-- Opens a store. -/
def openStore (transports : Transports) (place : Place) (settings : Settings) :
    IO (Except Error Store) := do
  let mut progress := (Store.Opening.start settings.config).1
  while true do
    match progress with
    | .opened store => return .ok store
    | .failed error _ => return .error error
    | .waiting opening =>
        match opening.awaiting? with
        | none => break
        | some (dial, awaiting) =>
            let event ← perform transports place settings.connectTimeout dial awaiting
            let (next, notices) := opening.step event
            warn notices
            progress := next
  return .error .poolClosed

/-- Makes one call. -/
def callOnce (transports : Transports) (place : Place) (settings : Settings)
    (store : Store) : IO (Option Decision × Store) := do
  let moment ← currentMoment
  let (store, notices) := store.step (.take 0 settings.key moment)
  let mut store := store
  let mut made := notices
  while true do
    let role := store.system.role? 0
    match role.bind fun r => r.awaiting?.map fun a => (r.dial, a) with
    | none => break
    | some (dial, awaiting) =>
        let event ← perform transports place settings.connectTimeout dial awaiting
        let (next, notices) := store.step (.event 0 event)
        store := next
        made := made ++ notices
        dropUnused transports store.system.transports
  warn made
  let decision := made.findSome? fun
    | .answered _ decision => some decision
    | _ => none
  return (decision, store)
where
  /-- The present time. -/
  currentMoment : IO Moment := do
    let now ← Std.Time.Timestamp.now
    let span := now.toNanosecondsSinceUnixEpoch.val
    if 0 ≤ span then
      return .after (.ofNanos span.toNat)
    else
      return .before (.ofNanos (-span).toNat)

/-- The place of the server, or what is reported if it has none.  Only a network can be reached. -/
def resolve (settings : Settings) : IO (Except Report Place) := do
  match settings.endpoint with
  | .socket path => return .ok (.error ((SocketPath.tooLong? path).getD unsupported))
  | .supplied => return .ok (.error unsupported)
  | .tcp host port =>
      try
        let addresses ← (DNS.getAddrInfo host "").block
        match addresses[0]? with
        | some address => return .ok (.ok (socketAddress address port))
        | none => return .error { message := s!"{host}:{port} did not resolve to any address" }
      catch error =>
        return .error { message := s!"failed to resolve {host}:{port}", causes := [toString error] }
where
  /-- The refusal of a place in the file system. -/
  unsupported : TransportFault :=
    ⟨"Unsupported", "sockets in the file system are not supported"⟩

/-- Makes the calls of a run. -/
def makeCalls (settings : Settings) : IO (Except Report Unit) := do
  match ← resolve settings with
  | .error report => return .error report
  | .ok place =>
      let transports : Transports ← IO.mkRef []
      match ← openStore transports place settings with
      | .error error => return .error (openFailure error)
      | .ok opened =>
          let mut store := opened
          for i in [0:settings.count] do
            if i > 0 && settings.pause ≠ 0 then
              IO.sleep (min settings.pause (UInt32.size - 1)).toUInt32
            let (decision, next) ← callOnce transports place settings store
            store := next
            for d in decision do
              IO.println (line settings.key d)
          return .ok ()

/-- The environment variables that settings are taken from. -/
def environment : IO (List (String × String)) :=
  Setting.all.filterMapM fun setting => do
    let value ← IO.getEnv setting.environmentName
    return value.map fun v => (setting.environmentName, v)

/-- Shows the end of a run and gives its exit code. -/
def conclude (outcome : Outcome) : IO UInt32 := do
  outcome.output.forM IO.println
  match outcome with
  | .failed report => IO.eprint report.text
  | .usage error => IO.eprintln (repr error)
  | _ => pure ()
  return outcome.exitCode.toUInt32

/-- Runs the command line. -/
def runMain (args : List String) : IO UInt32 := do
  match prepare args (← environment) with
  | .settled outcome => conclude outcome
  | .calls settings =>
      match ← makeCalls settings with
      | .error report => conclude (.failed report)
      | .ok () => return 0

end RateLimit.CommandLine

/-- The command line. -/
def main (args : List String) : IO UInt32 :=
  RateLimit.CommandLine.runMain args
