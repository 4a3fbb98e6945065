import RateLimit.Bucket.Quantity
import RateLimit.Config.Basic

/-!
# The token bucket

A bucket is kept on the server as a record of two fields: the time up to which it has been
refilled, and the tokens in it.  A call at some time refills the bucket for the time that has
passed since, takes one token if there is one, and reports what is left and when the bucket will
be full again.  A call that is earlier than the last refill refills nothing and leaves the time of
the refill alone.  A record that cannot be read counts as a full bucket refilled just now.

## Main definitions

* `Bucket` : the record of a bucket, as it is kept.
* `Bucket.take` : one call on a bucket.
* `Buckets` : the buckets of a server, by key.
-/

namespace RateLimit

/-- What a field of a record holds: a text that was put there, or a number, which reads back as
itself. -/
inductive Field (α : Type)
  | text (text : String)
  | number (value : α)
  deriving DecidableEq

/-- The record of a bucket.  The record of a key that was never used has no fields. -/
structure Bucket (α : Type) where
  /-- The time up to which the bucket has been refilled, in nanoseconds since the epoch. -/
  stamp : Option String := none
  /-- The tokens in the bucket. -/
  tokens : Option (Field α) := none
  /-- How many seconds after the last call the record may be dropped. -/
  expiry : Option Nat := none
  deriving DecidableEq

/-- The answer to a call on a bucket. -/
structure Verdict (α : Type) where
  /-- The whole tokens left. -/
  remaining : α
  /-- The time at which the bucket is full again, in nanoseconds since the epoch. -/
  reset : α
  /-- Whether a token was taken. -/
  allowed : Bool
  deriving DecidableEq

namespace Limits

variable {α : Type} [Quantity α] [Div α]

/-- The nanoseconds in which one token comes back. -/
def rate (limits : Limits) : α :=
  Quantity.ofNat limits.interval.toNanos / Quantity.ofNat limits.tokens

end Limits

namespace Bucket

variable {α : Type} [Quantity α]

/-- The number that a text spells. -/
def number? (text : String) : Option α :=
  (Decimal.Spelled.read? text).bind Quantity.ofSpelled?

/-- The number that a field holds. -/
def fieldValue? : Field α → Option α
  | .text text => number? text
  | .number value => some value

/-- The time of the last refill and the tokens in the bucket, if both can be read. -/
def level? (bucket : Bucket α) : Option (α × α) := do
  let last ← bucket.stamp.bind number?
  let available ← bucket.tokens.bind fieldValue?
  return (last, available)

variable [Add α] [Sub α] [Mul α] [Div α] [LT α] [LE α] [DecidableLT α] [DecidableLE α]

/-- One call on a bucket at a time in nanoseconds since the epoch: the answer, and the record
afterwards. -/
def take (limits : Limits) (now : Nat) (bucket : Bucket α) : Verdict α × Bucket α :=
  let tokens : α := Quantity.ofNat limits.tokens
  let rate : α := limits.rate
  let time : α := Quantity.ofNat now
  let (last, available) := bucket.level?.getD (time, tokens)
  let elapsed := time - last
  let (available, stamp) :=
    if Quantity.ofNat 0 < elapsed then
      let refilled := available + elapsed / rate
      (if refilled < tokens then refilled else tokens, toString now)
    else (available, bucket.stamp.getD (toString now))
  let allowed : Bool := Quantity.ofNat 1 ≤ available
  let available := if allowed then available - Quantity.ofNat 1 else available
  (⟨Quantity.floor available, Quantity.floor (time + (tokens - available) * rate), allowed⟩,
    ⟨some stamp, some (.number available), some limits.ttl⟩)

end Bucket

/-- The buckets of a server, by key. -/
structure Buckets (α : Type) where
  /-- The records, at most one for a key. -/
  records : List (Bytes × Bucket α) := []
  deriving DecidableEq

namespace Buckets

variable {α : Type}

/-- The record of a key. -/
def get (buckets : Buckets α) (key : Bytes) : Bucket α :=
  (buckets.records.lookup key).getD {}

/-- The buckets without the record of a key. -/
def erase (buckets : Buckets α) (key : Bytes) : Buckets α :=
  ⟨buckets.records.filter fun record => record.1 ≠ key⟩

/-- The buckets with another record of a key. -/
def set (buckets : Buckets α) (key : Bytes) (bucket : Bucket α) : Buckets α :=
  ⟨(key, bucket) :: (buckets.erase key).records⟩

variable [Quantity α] [Add α] [Sub α] [Mul α] [Div α] [LT α] [LE α] [DecidableLT α]
  [DecidableLE α]

/-- One call on the bucket of a key. -/
def take (buckets : Buckets α) (limits : Limits) (key : Bytes) (now : Nat) :
    Verdict α × Buckets α :=
  let (verdict, bucket) := (buckets.get key).take limits now
  (verdict, buckets.set key bucket)

end Buckets

end RateLimit
