import RateLimit.Error

/-!
# Transports

A transport carries bytes to and from the server.  Whoever uses one waits, at any moment, for one
thing (`Awaiting`): that the transport opens, takes bytes, passes on what it has taken, or
delivers bytes.  What happens on the transport is an `Event`.  Between two events a caller may give
up, and other callers may act.
-/

namespace RateLimit

/-- What somebody waits for on a transport. -/
inductive Awaiting
  /-- The transport opens. -/
  | connect
  /-- The transport takes the rest of a command. -/
  | write (rest : Bytes)
  /-- The transport passes on the bytes it has taken. -/
  | flush
  /-- The transport delivers bytes. -/
  | read
  deriving DecidableEq, Repr

/-- What happens on a transport. -/
inductive Event
  /-- The transport is open. -/
  | connected
  /-- The transport cannot be opened. -/
  | connectFailed (fault : TransportFault)
  /-- The transport has taken so many bytes. -/
  | wrote (count : Nat)
  /-- The transport fails to take bytes. -/
  | writeFailed (fault : TransportFault)
  /-- The transport has passed on the bytes it has taken. -/
  | flushed
  /-- The transport fails to pass on bytes. -/
  | flushFailed (fault : TransportFault)
  /-- The transport delivers bytes. -/
  | received (data : Bytes)
  /-- The transport fails to deliver bytes. -/
  | readFailed (fault : TransportFault)
  /-- The server has ended the stream. -/
  | ended
  deriving DecidableEq, Repr

end RateLimit
