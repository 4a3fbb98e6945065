import Mathlib.Tactic.NormNum
import RateLimit.Proofs.Bucket.Level
import RateLimit.Proofs.Named
import RateLimit.Proofs.Text.Utf8

/-!
# Buckets that calls share

Calls of several limits run one after the other on the buckets of a server.  What they find in the
bucket of a key, and what they leave there, is a matter of the calls on that key alone.

## Main definitions

* `Bucket.Call` : a call on a bucket.
* `Bucket.serve`, `Buckets.serve` : calls on one bucket, and on the buckets of a server.

## Main results

* `Buckets.serve_key` : the calls on a key are as if there were no others.
-/

namespace RateLimit

theorem Bytes.ofString_injective {text other : String}
    (h : Bytes.ofString text = Bytes.ofString other) : text = other := by
  rw [← Utf8.lossy_ofString text, h, Utf8.lossy_ofString]

/-- A call on a bucket: the limits that it brings along, and its time. -/
structure Bucket.Call where
  limits : Limits
  /-- The time in nanoseconds since the epoch. -/
  now : Nat
  deriving DecidableEq

namespace Buckets

variable {α : Type} {buckets : Buckets α} {key other : Bytes} {bucket : Bucket α}

theorem get_set (buckets : Buckets α) (key other : Bytes) (bucket : Bucket α) :
    (buckets.set key bucket).get other = if other = key then bucket else buckets.get other := by
  rw [get, set, erase, lookup_cons_filter_ne]
  split
  · rfl
  · rfl

end Buckets

variable {α : Type} [Quantity α] [Add α] [Sub α] [Mul α] [Div α] [LT α] [LE α] [DecidableLT α]
  [DecidableLE α]

/-- Calls on one bucket, one after the other. -/
def Bucket.serve (bucket : Bucket α) : List Bucket.Call → List (Verdict α) × Bucket α
  | [] => ([], bucket)
  | call :: calls =>
      let (verdict, bucket) := bucket.take call.limits call.now
      let (verdicts, bucket) := bucket.serve calls
      (verdict :: verdicts, bucket)

/-- Calls on the buckets of a server, one after the other, each on the bucket of its key. -/
def Buckets.serve (buckets : Buckets α) :
    List (String × Bucket.Call) → List (Verdict α) × Buckets α
  | [] => ([], buckets)
  | (key, call) :: calls =>
      let (verdict, buckets) := buckets.take call.limits (Bytes.ofString key) call.now
      let (verdicts, buckets) := buckets.serve calls
      (verdict :: verdicts, buckets)

/-- The calls on a key, in order. -/
def callsOn (key : String) (calls : List (String × Bucket.Call)) : List Bucket.Call :=
  (calls.filter fun call => call.1 = key).map Prod.snd

/-- The answers to the calls on a key, in order. -/
def answersOn {β : Type} (key : String) (calls : List (String × Bucket.Call)) (answers : List β) :
    List β :=
  ((calls.zip answers).filter fun answered => answered.1.1 = key).map Prod.snd

section Key

variable {β : Type} {key other : String} {call : Bucket.Call} {calls : List (String × Bucket.Call)}
  {answer : β} {answers : List β}

theorem callsOn_cons_self : callsOn key ((key, call) :: calls) = call :: callsOn key calls := by
  rw [callsOn, List.filter_cons_of_pos (by simp), List.map_cons, callsOn]

theorem callsOn_cons_of_ne (h : other ≠ key) :
    callsOn key ((other, call) :: calls) = callsOn key calls := by
  rw [callsOn, List.filter_cons_of_neg (by simpa using h), callsOn]

theorem answersOn_cons_self : answersOn key ((key, call) :: calls) (answer :: answers) =
    answer :: answersOn key calls answers := by
  rw [answersOn, List.zip_cons_cons, List.filter_cons_of_pos (by simp), List.map_cons, answersOn]

theorem answersOn_cons_of_ne (h : other ≠ key) :
    answersOn key ((other, call) :: calls) (answer :: answers) = answersOn key calls answers := by
  rw [answersOn, List.zip_cons_cons, List.filter_cons_of_neg (by simpa using h), answersOn]

end Key

theorem Bucket.serve_cons (bucket : Bucket α) (call : Bucket.Call) (calls : List Bucket.Call) :
    bucket.serve (call :: calls) =
      ((bucket.take call.limits call.now).1 :: ((bucket.take call.limits call.now).2.serve calls).1,
        ((bucket.take call.limits call.now).2.serve calls).2) :=
  rfl

namespace Buckets

theorem serve_cons (buckets : Buckets α) (key : String) (call : Bucket.Call)
    (calls : List (String × Bucket.Call)) :
    let stepped := buckets.take call.limits (Bytes.ofString key) call.now
    buckets.serve ((key, call) :: calls) =
      (stepped.1 :: (stepped.2.serve calls).1, (stepped.2.serve calls).2) :=
  rfl

/-- **The calls on a key are as if there were no others.** Their verdicts, and the bucket that they
leave, come from the bucket that they found and from these calls alone. -/
theorem serve_key (buckets : Buckets α) (calls : List (String × Bucket.Call)) (key : String) :
    (buckets.get (Bytes.ofString key)).serve (callsOn key calls) =
      (answersOn key calls (buckets.serve calls).1,
        (buckets.serve calls).2.get (Bytes.ofString key)) := by
  induction calls generalizing buckets with
  | nil => rfl
  | cons call calls ih =>
      obtain ⟨other, call⟩ := call
      generalize hstepped : buckets.take call.limits (Bytes.ofString other) call.now = stepped
      have hverdict : stepped.1 =
          ((buckets.get (Bytes.ofString other)).take call.limits call.now).1 := hstepped ▸ rfl
      have hbuckets : stepped.2 = buckets.set (Bytes.ofString other)
          ((buckets.get (Bytes.ofString other)).take call.limits call.now).2 := hstepped ▸ rfl
      have hrest := ih stepped.2
      rw [serve_cons, hstepped]
      by_cases hother : other = key
      · subst hother
        have hget : stepped.2.get (Bytes.ofString other) =
            ((buckets.get (Bytes.ofString other)).take call.limits call.now).2 := by
          rw [hbuckets, get_set, if_pos rfl]
        rw [callsOn_cons_self, answersOn_cons_self, Bucket.serve_cons, ← hget, hrest, hverdict]
      · have hget : stepped.2.get (Bytes.ofString key) = buckets.get (Bytes.ofString key) := by
          rw [hbuckets, get_set, if_neg fun heq => hother (Bytes.ofString_injective heq).symm]
        rw [callsOn_cons_of_ne hother, answersOn_cons_of_ne hother, ← hget, hrest]

/-- Two tokens in a second on one key: the first is taken with these limits, the second with those
of one token in a second, and then there is none left.  A call on another key does not matter. -/
theorem serve_two_keys :
    let double : Limits := ⟨2, .ofSecs 1, 10, by decide, by decide, by decide⟩
    let single : Limits := ⟨1, .ofSecs 1, 10, by decide, by decide, by decide⟩
    (serve ({} : Buckets Rat)
        [("k", ⟨double, 50⟩), ("j", ⟨single, 50⟩), ("k", ⟨single, 50⟩), ("k", ⟨double, 50⟩)]).1 =
      [⟨(1 : Nat), (500000050 : Nat), true⟩, ⟨(0 : Nat), (1000000050 : Nat), true⟩,
        ⟨(0 : Nat), (1000000050 : Nat), true⟩, ⟨(0 : Nat), (1000000050 : Nat), false⟩] := by
  intro double single
  have hdouble : (double.rate : Rat) = 500000000 := by
    rw [Limits.rate_rat]
    norm_num [double, Duration.toNanos, Duration.ofSecs]
  have hsingle : (single.rate : Rat) = 1000000000 := by
    rw [Limits.rate_rat]
    norm_num [single, Duration.toNanos, Duration.ofSecs]
  have hkeys : Bytes.ofString "k" ≠ Bytes.ofString "j" := fun h =>
    absurd (Bytes.ofString_injective h) (by simp)
  have hempty (key : Bytes) : ({} : Buckets Rat).get key = {} := rfl
  have hj : (Bucket.full single 50).Holds 50 (1 : Nat) := Bucket.holds_full single 50
  have hk : (Bucket.full double 50).Holds 50 (2 : Nat) := Bucket.holds_full double 50
  have hk' := hk.holds_take_natCast double
  simp only [serve, take, get_set, hempty, Bucket.take_empty, if_neg hkeys, if_neg hkeys.symm,
    if_true]
  rw [hk.fst_take_natCast double 500000050, hj.fst_take_natCast single 1000000050,
    hk'.fst_take_natCast single 1000000050,
    (hk'.holds_take_natCast single).fst_take_natCast double 1000000050]
  · rfl
  all_goals norm_num [hdouble, hsingle, double, single]

end Buckets

end RateLimit
