import RateLimit.Error

/-!
# Configuration

A configuration is what a caller fills in; a zero stands for the default.  It is resolved once,
into the limits of a bucket (`Config.limits`) and the settings of a pool (`Config.pool`).

## Main definitions

* `Credentials`, `FailureMode`, `Endpoint` : the parts of a configuration.
* `Limits` : the parameters of a token bucket.
* `PoolSettings` : the sizes of a pool, and how its connections are opened.
* `Config` : a configuration.
-/

namespace RateLimit

/-- What a client identifies itself with. -/
structure Credentials where
  /-- The user, if the server knows more than one. -/
  username : Option String := none
  /-- The password. -/
  password : String
  deriving DecidableEq, Repr

/-- The answer to give while the server cannot be asked. -/
inductive FailureMode
  /-- Deny. -/
  | failClosed
  /-- Allow. -/
  | failOpen
  deriving DecidableEq, Repr

/-- The failure mode that a text names, in any case and with or without hyphens and
underscores. -/
def FailureMode.ofText? (text : String) : Except ConfigFault FailureMode :=
  let letters := (text.toList.map Char.toLower).filter fun c => c ≠ '-' && c ≠ '_'
  if letters = "failclosed".toList ∨ letters = "closed".toList then .ok .failClosed
  else if letters = "failopen".toList ∨ letters = "open".toList then .ok .failOpen
  else .error (.failureMode text)

/-- Where the server is. -/
inductive Endpoint
  /-- Behind a host name or address and a port. -/
  | tcp (host : String) (port : Nat)
  /-- Behind a socket in the file system. -/
  | socket (path : String)
  /-- Behind transports that the caller opens. -/
  | supplied
  deriving DecidableEq, Repr

/-- The parameters of a token bucket. -/
structure Limits where
  /-- The size of the bucket. -/
  tokens : Nat
  /-- The time in which an empty bucket fills up. -/
  interval : Duration
  /-- How many seconds an idle bucket is kept. -/
  ttl : Nat
  tokens_pos : 0 < tokens
  interval_pos : 0 < interval.toNanos
  ttl_pos : 0 < ttl
  deriving DecidableEq

/-- The sizes of a pool, and how its connections are opened. -/
structure PoolSettings where
  /-- How many connections are opened at the start. -/
  initialSize : Nat
  /-- How many connections may be open at once. -/
  maxSize : Nat
  /-- What every new connection identifies itself with. -/
  credentials : Option Credentials := none
  deriving DecidableEq, Repr

/-- What a caller fills in to get a store.  A zero stands for the default. -/
structure Config where
  /-- Tokens per interval; one by default. -/
  tokens : Nat := 0
  /-- The interval in which the tokens come back; one second by default. -/
  interval : Duration := .ofSecs 0
  /-- How many seconds an idle bucket is kept; ten times the whole seconds of the interval by
  default. -/
  ttl : Nat := 0
  /-- How many connections are opened at the start; five by default. -/
  initialSize : Nat := 0
  /-- How many connections may be open at once; a hundred by default. -/
  maxSize : Nat := 0
  credentials : Option Credentials := none
  endpoint : Option Endpoint := none
  failureMode : FailureMode := .failClosed
  deriving DecidableEq, Repr

/-- A number, or a default in the place of zero. -/
def orDefault (default n : Nat) : Nat :=
  if 0 < n then n else default

theorem orDefault_pos {default n : Nat} (h : 0 < default) : 0 < orDefault default n := by
  unfold orDefault
  split <;> omega

namespace Config

/-- The interval of a bucket when none is given. -/
def defaultInterval : Duration := .ofSecs 1

/-- The interval of a configuration, or its default. -/
def resolvedInterval (c : Config) : Duration :=
  if 0 < c.interval.toNanos then c.interval else defaultInterval

theorem resolvedInterval_pos (c : Config) : 0 < c.resolvedInterval.toNanos := by
  unfold resolvedInterval
  split
  · assumption
  · decide

/-- The lifetime of an idle bucket in seconds, or its default: ten times the whole seconds of the
interval, multiplied as 64-bit words, so that a product that is too great for one wraps around. -/
def resolvedTtl (c : Config) : Nat :=
  orDefault (10 * c.resolvedInterval.secs % UInt64.size) c.ttl

/-- The limits of a configuration.  Refused if the lifetime of an idle bucket comes out as zero,
as it does by default for an interval below a second, or if the product wraps around to zero. -/
def limits (c : Config) : Except ConfigFault Limits :=
  if h : 0 < c.resolvedTtl then
    .ok {
      tokens := orDefault 1 c.tokens
      interval := c.resolvedInterval
      ttl := c.resolvedTtl
      tokens_pos := orDefault_pos Nat.one_pos
      interval_pos := c.resolvedInterval_pos
      ttl_pos := h }
  else .error .zeroTtl

/-- The settings of the pool of a configuration.  Refused without an endpoint, or if more
connections are to be opened at the start than may ever be open. -/
def pool (c : Config) : Except ConfigFault PoolSettings :=
  match c.endpoint with
  | none => .error .noConnector
  | some _ =>
      let initial := orDefault 5 c.initialSize
      let max := orDefault 100 c.maxSize
      if max < initial then .error (.poolSizes initial max)
      else .ok ⟨initial, max, c.credentials⟩

end Config

end RateLimit
