import RateLimit.Bucket.Basic
import RateLimit.Command
import RateLimit.Decimal.Shortest
import RateLimit.Digest.Sha1

/-!
# The script

The server runs the token bucket as a script, so that a call is one step for everybody who shares
the bucket.  The script is a text with four places for the parameters of the bucket
(`Script.template`); the limits of a bucket are written into them as decimals.  The server knows a
script by the SHA-1 digest of its text.

## Main definitions

* `Script.ofLimits` : the script for limits.
* `Script.register` : the command that hands the script to the server.
* `Script.call` : the command that runs the script for a key.
-/

namespace RateLimit

/-- A script, with the digest by which the server knows it. -/
structure Script where
  /-- The text. -/
  body : String
  /-- The digest of the text. -/
  digest : String
  deriving DecidableEq, Repr

namespace Script

/-- The lines of the script, with a place for each parameter in double braces. -/
def templateLines : List String := [
  "-- Token bucket, one hash per key.",
  "-- KEYS[1]: bucket key",
  "-- ARGV[1]: current time, nanoseconds since the unix epoch",
  "-- Returns \x7btokens left, time the bucket is full again, 1 if allowed\x7d",
  "",
  "local tokens = \x7b\x7bTOKENS\x7d\x7d",
  "local interval = \x7b\x7bINTERVAL\x7d\x7d",
  "local rate = \x7b\x7bRATE\x7d\x7d",
  "local ttl = \x7b\x7bTTL\x7d\x7d",
  "",
  "local key = KEYS[1]",
  "local now = tonumber(ARGV[1])",
  "local stamp = ARGV[1]",
  "",
  "local state = redis.call('HMGET', key, 'ts', 'tk')",
  "local last = tonumber(state[1])",
  "local available = tonumber(state[2])",
  "if last == nil or available == nil then",
  "  last = now",
  "  available = tokens",
  "end",
  "",
  "local elapsed = now - last",
  "if elapsed > 0 then",
  "  available = math.min(tokens, available + elapsed / rate)",
  "else",
  "  -- never move the refill clock backwards",
  "  stamp = state[1] or stamp",
  "end",
  "",
  "local allowed = 0",
  "if available >= 1 then",
  "  available = available - 1",
  "  allowed = 1",
  "end",
  "",
  "redis.call('HSET', key, 'ts', stamp, 'tk', available)",
  "redis.call('EXPIRE', key, ttl)",
  "",
  "return \x7bmath.floor(available), math.floor(now + (tokens - available) * rate), allowed\x7d"]

/-- The text of the script before the parameters are written into it. -/
def template : List Char :=
  templateLines.flatMap fun line => line.toList ++ ['\n']

/-- A text with every occurrence of a pattern replaced, from the front, after the first `skip`
characters have been passed over. -/
def substituteAfter (pattern value : List Char) : Nat → List Char → List Char
  | _, [] => []
  | skip + 1, _ :: cs => substituteAfter pattern value skip cs
  | 0, c :: cs =>
      if pattern.isPrefixOf (c :: cs) then
        value ++ substituteAfter pattern value (pattern.length - 1) cs
      else c :: substituteAfter pattern value 0 cs

/-- A text with every occurrence of a pattern replaced. -/
def substitute (pattern value : String) (text : List Char) : List Char :=
  substituteAfter pattern.toList value.toList 0 text

/-- The text of the script, given the decimals of its parameters. -/
def bodyWith (tokens interval rate ttl : String) : List Char :=
  substitute "\x7b\x7bTTL\x7d\x7d" ttl <|
    substitute "\x7b\x7bRATE\x7d\x7d" rate <|
      substitute "\x7b\x7bINTERVAL\x7d\x7d" interval <|
        substitute "\x7b\x7bTOKENS\x7d\x7d" tokens template

/-- The text of the script for limits. -/
def textOf (limits : Limits) : String :=
  String.ofList <|
    bodyWith (toString limits.tokens) (toString limits.interval.toNanos)
      (Decimal.ofFloat limits.rate) (toString limits.ttl)

/-- The script for limits. -/
def ofLimits (limits : Limits) : Script :=
  let body := textOf limits
  ⟨body, Sha1.hexDigest (Bytes.ofString body)⟩

/-- The command that hands the script to the server. -/
def register (script : Script) : Command :=
  .ofTexts ["SCRIPT", "LOAD", script.body]

/-- The command that runs the script for a key at a time in nanoseconds since the epoch. -/
def call (script : Script) (key : String) (now : Nat) : Command :=
  .ofTexts ["EVAL", script.body, "1", key, toString now]

/-- Whether two digests are the same, in upper or lower case. -/
def sameDigest (a b : String) : Bool :=
  a.toList.map Char.toLower = b.toList.map Char.toLower

end Script

end RateLimit
