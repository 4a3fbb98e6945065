import Mathlib.Algebra.Order.Field.Basic
import Mathlib.Data.Rat.Cast.Order
import Mathlib.Tactic.Linarith
import RateLimit.Bucket.Basic
import RateLimit.Proofs.Decimal.Spelling

/-!
# The level of a bucket

With rational numbers a bucket is free of rounding.  A record that a call has left holds the time
of the last refill as a decimal and the tokens as a number; what a further call answers and leaves
is given by these two alone.  A call on a key that was never used is a call on a full bucket that
was refilled just now.

## Main definitions

* `Bucket.Holds` : a record holds a time and tokens.
* `Bucket.found`, `Bucket.left` : the tokens that a call finds and leaves.

## Main results

* `Bucket.Holds.take` : a call on a record that holds a time and tokens.
* `Bucket.take_empty` : a call on a key that was never used.
-/

namespace RateLimit

@[simp]
theorem Quantity.ofNat_rat (n : Nat) : (Quantity.ofNat n : Rat) = n := by
  change mkRat ((n : Int) * 1) 1 = n
  rw [mul_one, Rat.mkRat_one]
  rfl

/-- A natural number is the same number as a 64-bit word, if it has less than 64 bits. -/
theorem Quantity.toInt64_natCast {n : Nat} (h : n < 2 ^ 63) :
    Quantity.toInt64 (n : Rat) = Int64.ofNat n := by
  have hwhole : (if (n : Rat) < 0 then -(-(n : Rat)).floor else (n : Rat).floor) = (n : Int) := by
    rw [if_neg (Nat.cast_nonneg n).not_gt, ← Int.cast_natCast, Rat.floor_intCast]
  change clampInt64 _ = _
  rw [hwhole, clampInt64, if_neg, if_neg]
  · rfl
  · rw [show Int64.maxValue.toInt = 2 ^ 63 - 1 from rfl]
    omega
  · rw [show Int64.minValue.toInt = -2 ^ 63 from rfl]
    omega

namespace Limits

variable (limits : Limits)

theorem rate_rat : (limits.rate : Rat) = (limits.interval.toNanos : Rat) / limits.tokens := by
  rw [rate, Quantity.ofNat_rat, Quantity.ofNat_rat]

theorem tokens_rat_pos : (0 : Rat) < limits.tokens := Nat.cast_pos.mpr limits.tokens_pos

theorem rate_rat_pos : (0 : Rat) < limits.rate := by
  rw [rate_rat]
  exact div_pos (Nat.cast_pos.mpr limits.interval_pos) limits.tokens_rat_pos

end Limits

namespace Bucket

/-- A record holds a time up to which the bucket has been refilled, and the tokens in it. -/
structure Holds (b : Bucket Rat) (stamp : Nat) (tokens : Rat) : Prop where
  stamp_eq : b.stamp = some (toString stamp)
  tokens_eq : b.tokens = some (.number tokens)

/-- The tokens that a call finds in a bucket: the bucket is refilled for the time since its last
refill, and no fuller than full. -/
def found (limits : Limits) (stamp : Nat) (tokens : Rat) (now : Nat) : Rat :=
  if stamp < now then min (tokens + (now - stamp) / limits.rate) limits.tokens else tokens

/-- The tokens that a call leaves in a bucket: it takes one if there is one. -/
def left (limits : Limits) (stamp : Nat) (tokens : Rat) (now : Nat) : Rat :=
  if 1 ≤ found limits stamp tokens now then found limits stamp tokens now - 1
  else found limits stamp tokens now

variable {b : Bucket Rat} {stamp : Nat} {tokens : Rat}

theorem number?_toString (n : Nat) : (number? (toString n) : Option Rat) = some (n : Rat) := by
  rw [number?, Decimal.Spelled.read?_toString]
  exact congrArg some (Quantity.ofNat_rat n)

theorem Holds.level? (h : b.Holds stamp tokens) : b.level? = some ((stamp : Rat), tokens) := by
  simp only [Bucket.level?, h.stamp_eq, h.tokens_eq, Option.bind_some, number?_toString,
    fieldValue?]
  rfl

/-- A call on a record that holds a time and tokens: the answer, and the record afterwards. -/
theorem Holds.take (h : b.Holds stamp tokens) (limits : Limits) (now : Nat) :
    b.take limits now =
      (⟨((left limits stamp tokens now).floor : Int),
        ((now + (limits.tokens - left limits stamp tokens now) * limits.rate : Rat).floor : Int),
        1 ≤ found limits stamp tokens now⟩,
        ⟨some (toString (max stamp now)), some (.number (left limits stamp tokens now)),
          some limits.ttl⟩) := by
  have htake : b.take limits now =
      (⟨((left limits stamp tokens now).floor : Int),
        ((now + (limits.tokens - left limits stamp tokens now) * limits.rate : Rat).floor : Int),
        1 ≤ found limits stamp tokens now⟩,
        ⟨some (if stamp < now then toString now else toString stamp),
          some (.number (left limits stamp tokens now)), some limits.ttl⟩) := by
    simp only [Bucket.take, h.level?, Option.getD_some, Quantity.ofNat_rat, Nat.cast_zero,
      Nat.cast_one, sub_pos, Nat.cast_lt, left, found, min_def_lt, h.stamp_eq, decide_eq_true_eq]
    by_cases hlt : stamp < now
    · simp only [if_pos hlt]
      rfl
    · simp only [if_neg hlt]
      rfl
  rw [htake]
  by_cases hlt : stamp < now
  · rw [if_pos hlt, max_eq_right (Nat.le_of_lt hlt)]
  · rw [if_neg hlt, max_eq_left (Nat.le_of_not_lt hlt)]

theorem Holds.holds_take (h : b.Holds stamp tokens) (limits : Limits) (now : Nat) :
    (b.take limits now).2.Holds (max stamp now) (left limits stamp tokens now) := by
  rw [h.take]
  exact ⟨rfl, rfl⟩

theorem Holds.allowed_take (h : b.Holds stamp tokens) (limits : Limits) (now : Nat) :
    (b.take limits now).1.allowed = decide (1 ≤ found limits stamp tokens now) := by
  rw [h.take]

/-! ### Calls at the time of the last refill -/

theorem left_natCast (limits : Limits) (now tokens : Nat) :
    left limits now tokens now = ((tokens - 1 : Nat) : Rat) := by
  have hfound : found limits now tokens now = tokens := if_neg (lt_irrefl now)
  rw [left, hfound]
  cases tokens with
  | zero => rw [Nat.cast_zero, if_neg (not_le.mpr zero_lt_one)]
  | succ tokens =>
      rw [if_pos (Nat.one_le_cast.mpr (Nat.le_add_left 1 tokens)), Nat.cast_succ,
        add_sub_cancel_right]
      rfl

/-- The answer to a call at the time of the last refill. -/
theorem Holds.fst_take_natCast {now tokens : Nat} (h : b.Holds now tokens) (limits : Limits)
    (reset : Nat)
    (hreset : (now + (limits.tokens - (tokens - 1 : Nat)) * limits.rate : Rat) = reset) :
    (b.take limits now).1 = ⟨(tokens - 1 : Nat), reset, 1 ≤ tokens⟩ := by
  have hfound : found limits now tokens now = tokens := if_neg (lt_irrefl now)
  have hallowed : decide ((1 : Rat) ≤ tokens) = decide (1 ≤ tokens) :=
    decide_eq_decide.mpr Nat.one_le_cast
  rw [h.take, left_natCast, hreset, hfound, hallowed, ← Int.cast_natCast (tokens - 1),
    ← Int.cast_natCast reset, Rat.floor_intCast, Rat.floor_intCast]

/-- What a call at the time of the last refill leaves. -/
theorem Holds.holds_take_natCast {now tokens : Nat} (h : b.Holds now tokens) (limits : Limits) :
    (b.take limits now).2.Holds now (tokens - 1 : Nat) := by
  have hholds := h.holds_take limits now
  rwa [max_self, left_natCast] at hholds

/-! ### Keys that were never used -/

/-- A full bucket that was refilled just now. -/
def full (limits : Limits) (now : Nat) : Bucket Rat :=
  { stamp := some (toString now), tokens := some (.number limits.tokens) }

theorem holds_full (limits : Limits) (now : Nat) : (full limits now).Holds now limits.tokens :=
  ⟨rfl, rfl⟩

/-- A call on a key that was never used is a call on a full bucket that was refilled just now. -/
theorem take_empty (limits : Limits) (now : Nat) :
    ({} : Bucket Rat).take limits now = (full limits now).take limits now := by
  have hlevel : ({} : Bucket Rat).level? = none := rfl
  rw [Bucket.take, Bucket.take, hlevel, (holds_full limits now).level?]
  simp only [Option.getD_none, Option.getD_some, Quantity.ofNat_rat, Nat.cast_zero, sub_self,
    lt_self_iff_false, if_false]
  rfl

/-! ### What a call leaves -/

/-- A call does not find less than nothing where there was something. -/
theorem found_nonneg (limits : Limits) (stamp now : Nat) (h : 0 ≤ tokens) :
    0 ≤ found limits stamp tokens now := by
  rw [found]
  split
  · rename_i hlt
    have helapsed : (0 : Rat) ≤ (now - stamp) / limits.rate :=
      div_nonneg (sub_nonneg.mpr (Nat.cast_le.mpr (Nat.le_of_lt hlt))) limits.rate_rat_pos.le
    exact le_min (add_nonneg h helapsed) limits.tokens_rat_pos.le
  · exact h

/-- A call does not leave less than nothing where there was something. -/
theorem left_nonneg (limits : Limits) (now : Nat) (h : 0 ≤ tokens) :
    0 ≤ left limits stamp tokens now := by
  rw [left]
  split
  · rename_i hone
    exact sub_nonneg.mpr hone
  · exact found_nonneg limits stamp now h

/-- A call finds no more than was there and has come back since the last refill. -/
theorem found_le (limits : Limits) (stamp : Nat) (tokens : Rat) (now : Nat) :
    found limits stamp tokens now ≤ tokens + ((max stamp now : Nat) - stamp) / limits.rate := by
  rw [found]
  split
  · rename_i hlt
    rw [max_eq_right (Nat.le_of_lt hlt)]
    exact min_le_left _ _
  · rename_i hlt
    rw [max_eq_left (Nat.le_of_not_lt hlt), sub_self, zero_div, add_zero]

end Bucket

end RateLimit
