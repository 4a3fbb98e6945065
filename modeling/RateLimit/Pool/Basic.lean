import RateLimit.Connection.Attempt

/-!
# Pools

A pool keeps open connections that nobody uses and counts the connections that exist or are being
opened.  It never waits: if no connection is idle and no further one may be opened, a caller is
refused.  Taking a connection from the pool gives an idle one, or the right to open one (a slot);
a connection comes back to the idle ones unless it is broken or the pool is closed.

## Main definitions

* `Pool` : the books of a pool.
* `Pool.checkout`, `Pool.release`, `Pool.giveBack`, `Pool.close` : the entries in them.
* `Pool.Stats` : what a pool tells about itself.
-/

namespace RateLimit

/-- An open connection and the number of the attempt that opened it. -/
structure Session where
  /-- The number of the attempt to open a connection, which also names its transport. -/
  dial : Nat
  /-- The connection. -/
  connection : Connection
  deriving DecidableEq, Repr

/-- The books of a pool. -/
structure Pool where
  /-- How many connections may be open at once. -/
  maxSize : Nat
  /-- The connections that nobody uses; the one that came back last is taken first. -/
  idle : List Session := []
  /-- How many connections exist or are being opened. -/
  live : Nat := 0
  /-- Whether the pool is closed for good. -/
  closed : Bool := false
  deriving DecidableEq, Repr

namespace Pool

/-- What a pool tells about itself. -/
structure Stats where
  /-- How many connections exist or are being opened. -/
  live : Nat
  /-- How many connections nobody uses. -/
  idle : Nat
  /-- How many connections may be open at once. -/
  max : Nat
  deriving DecidableEq, Repr

/-- What a pool tells about itself. -/
def stats (p : Pool) : Stats :=
  ⟨p.live, p.idle.length, p.maxSize⟩

/-- What a caller gets from a pool. -/
inductive Checkout
  /-- Nothing. -/
  | refused (error : Error)
  /-- An idle connection. -/
  | session (session : Session)
  /-- The right to open a connection. -/
  | slot
  deriving DecidableEq

/-- Takes an idle connection, or the right to open one. -/
def checkout (p : Pool) : Checkout × Pool :=
  if p.closed then (.refused .poolClosed, p)
  else
    match p.idle with
    | session :: idle => (.session session, { p with idle })
    | [] =>
        if p.maxSize ≤ p.live then (.refused (.poolExhausted p.maxSize), p)
        else (.slot, { p with live := p.live + 1 })

/-- Gives back the right to open a connection. -/
def giveBack (p : Pool) : Pool :=
  { p with live := p.live - 1 }

/-- Takes back a connection.  A broken one, and every one after the pool was closed, is
destroyed. -/
def release (p : Pool) (session : Session) : Pool :=
  if p.closed || session.connection.broken then p.giveBack
  else { p with idle := session :: p.idle }

/-- Destroys the idle connections and refuses every further caller. -/
def close (p : Pool) : Pool :=
  if p.closed then p
  else { p with closed := true, live := p.live - p.idle.length, idle := [] }

end Pool

end RateLimit
