import Mathlib.Data.List.Induction
import RateLimit.Proofs.Bucket.Refill
import RateLimit.Proofs.Bucket.Reset

/-!
# The record of a bucket

Calls with the same limits, at times in any order, keep the record of a bucket in one form: the
decimal of the latest time so far, tokens that are not negative and do not fill the bucket, and the
expiry of the limits.  A call that is refused leaves less than one token, and a call that is not
later than the stored time leaves the time alone and adds no tokens.

## Main definitions

* `Bucket.Keeps` : a record is as calls with the same limits leave it.

## Main results

* `Bucket.Holds.keeps_take` : one call leaves a record in this form.
* `Bucket.run_record` : what a run of calls leaves in the record.
-/

namespace RateLimit.Bucket

variable {limits : Limits} {b : Bucket Rat} {stamp now : Nat} {level : Rat} {times : List Nat}

/-- A record as calls with the same limits leave it: it holds a time, tokens that do not fill the
bucket, and the expiry of the limits. -/
structure Keeps (limits : Limits) (b : Bucket Rat) (stamp : Nat) (level : Rat) : Prop
    extends b.Holds stamp level where
  expiry_eq : b.expiry = some limits.ttl
  nonneg : 0 ≤ level
  lt_tokens : level < limits.tokens

theorem Keeps.eq (h : b.Keeps limits stamp level) :
    b = ⟨some (toString stamp), some (.number level), some limits.ttl⟩ := by
  obtain ⟨⟨hstamp, htokens⟩, hexpiry, -, -⟩ := h
  cases b
  simp_all

/-- The whole tokens of a bucket that is not full are all but one at most. -/
theorem Keeps.floor_le (h : b.Keeps limits stamp level) : level.floor ≤ limits.tokens - 1 :=
  Int.le_sub_one_iff.mpr (Rat.floor_lt_iff.mpr (by exact_mod_cast h.lt_tokens))

/-! ### One call -/

theorem left_le_found (limits : Limits) (stamp : Nat) (level : Rat) (now : Nat) :
    left limits stamp level now ≤ found limits stamp level now := by
  rw [left]
  split
  · exact sub_le_self _ zero_le_one
  · exact le_rfl

/-- A call that is not later than the stored time adds no tokens. -/
theorem left_le_of_le (h : now ≤ stamp) : left limits stamp level now ≤ level :=
  (left_le_found limits stamp level now).trans_eq (if_neg h.not_gt)

/-- A call on a bucket that is no more than full leaves its record in the form that all calls keep,
with the later of the two times. -/
theorem Holds.keeps_take (h : b.Holds stamp level) (hnonneg : 0 ≤ level)
    (htokens : level ≤ limits.tokens) (now : Nat) :
    (b.take limits now).2.Keeps limits (max stamp now) (left limits stamp level now) where
  toHolds := h.holds_take limits now
  expiry_eq := by rw [h.take]
  nonneg := left_nonneg limits now hnonneg
  lt_tokens := left_lt_tokens stamp now htokens

/-- A call that is refused leaves less than one token, and tells that none is left. -/
theorem Holds.take_of_refused (h : b.Holds stamp level) (hnonneg : 0 ≤ level)
    (hrefused : (b.take limits now).1.allowed = false) :
    left limits stamp level now < 1 ∧ (b.take limits now).1.remaining = 0 := by
  rw [h.allowed_take, decide_eq_false_iff_not] at hrefused
  have hless : left limits stamp level now < 1 :=
    (left_le_found limits stamp level now).trans_lt (not_le.mp hrefused)
  have hfloor : (left limits stamp level now).floor = 0 := by
    refine le_antisymm (Int.lt_add_one_iff.mp (Rat.floor_lt_iff.mpr ?_)) (Rat.le_floor_iff.mpr ?_)
    · exact_mod_cast hless
    · exact left_nonneg limits now hnonneg
  rw [h.take, hfloor]
  exact ⟨hless, Int.cast_zero⟩

/-! ### Runs of calls -/

theorem run_append_singleton (limits : Limits) (b : Bucket Rat) (times : List Nat) (now : Nat) :
    b.run limits (times ++ [now]) =
      ((b.run limits times).1 ++ [((b.run limits times).2.take limits now).1],
        ((b.run limits times).2.take limits now).2) := by
  induction times generalizing b with
  | nil => rfl
  | cons first times ih => rw [List.cons_append, run_cons, run_cons, ih, List.cons_append]

theorem isGreatest_append_singleton {last : Nat} (h : IsGreatest {time | time ∈ times} last) :
    IsGreatest {time | time ∈ times ++ [now]} (max last now) := by
  have hset : {time | time ∈ times ++ [now]} = {time | time ∈ times} ∪ {now} := by
    ext time
    exact List.mem_append.trans (or_congr_right List.mem_singleton)
  rw [hset]
  exact h.union isGreatest_singleton

/-- A run of calls on a key that was never used leaves the record in the form that all calls keep,
with the latest of their times. -/
theorem run_keeps (limits : Limits) (times : List Nat) (hne : times ≠ []) :
    ∃ last level, IsGreatest {time | time ∈ times} last ∧
      (({} : Bucket Rat).run limits times).2.Keeps limits last level := by
  induction times using List.reverseRecOn with
  | nil => exact absurd rfl hne
  | append_singleton times now ih =>
      rw [run_append_singleton]
      rcases eq_or_ne times [] with rfl | hbefore
      · have hkeeps := (holds_full limits now).keeps_take limits.tokens_rat_pos.le le_rfl now
        rw [max_self, ← take_empty] at hkeeps
        exact ⟨now, _, by simp [IsGreatest], hkeeps⟩
      · obtain ⟨last, level, hlast, hkeeps⟩ := ih hbefore
        exact ⟨_, _, isGreatest_append_singleton hlast,
          hkeeps.toHolds.keeps_take hkeeps.nonneg hkeeps.lt_tokens.le now⟩

/-- **The record of a bucket.** Calls are made on a key that was never used, at times in any order,
the last of them at `now`.  The record then has the decimal of the latest of all the times, tokens
that are not negative and whose whole part is less than the size of the bucket, and the expiry of
the limits, whether the call was granted or not.  If it was refused, less than one token is left and
it says that none remains.  If it was not later than the stored time, the stored time is as it was
before and there are no more tokens than before. -/
theorem run_record (limits : Limits) (times : List Nat) (now : Nat) :
    let before := (({} : Bucket Rat).run limits times).2
    let call := before.take limits now
    let verdicts := (({} : Bucket Rat).run limits times).1 ++ [call.1]
    ({} : Bucket Rat).run limits (times ++ [now]) = (verdicts, call.2) ∧
      ∃ last level, IsGreatest {time | time ∈ times ++ [now]} last ∧
        call.2 = ⟨some (toString last), some (.number level), some limits.ttl⟩ ∧
        0 ≤ level ∧ level.floor ≤ limits.tokens - 1 ∧
        (call.1.allowed = false → level < 1 ∧ call.1.remaining = 0) ∧
        ∀ start had, before.Holds start had → now ≤ start →
          call.2.stamp = before.stamp ∧ level ≤ had := by
  refine ⟨run_append_singleton limits {} times now, ?_⟩
  rcases eq_or_ne times [] with rfl | hbefore
  · -- The first call finds a full bucket and no stored time.
    have hfull := holds_full limits now
    have hkeeps := hfull.keeps_take limits.tokens_rat_pos.le le_rfl now
    rw [max_self, ← take_empty] at hkeeps
    refine ⟨now, _, by simp [IsGreatest], hkeeps.eq, hkeeps.nonneg, hkeeps.floor_le, ?_, ?_⟩
    · intro hrefused
      exact absurd ((allowed_take_empty limits now).symm.trans hrefused) (by simp)
    · rintro start had ⟨hstamp, -⟩
      cases hstamp
  · obtain ⟨last, level, hlast, hheld⟩ := run_keeps limits times hbefore
    have hkeeps := hheld.toHolds.keeps_take hheld.nonneg hheld.lt_tokens.le now
    refine ⟨_, _, isGreatest_append_singleton hlast, hkeeps.eq, hkeeps.nonneg, hkeeps.floor_le,
      hheld.toHolds.take_of_refused hheld.nonneg, ?_⟩
    intro start had hholds hearly
    have hsame := hholds.level?.symm.trans hheld.toHolds.level?
    simp only [Option.some.injEq, Prod.mk.injEq, Nat.cast_inj] at hsame
    obtain ⟨rfl, rfl⟩ := hsame
    rw [hkeeps.stamp_eq, hheld.stamp_eq, max_eq_left hearly]
    exact ⟨rfl, left_le_of_le hearly⟩

/-- Two tokens in 30 nanoseconds are taken at 100; a call at 100 and another, by a clock that is
behind, at 90 are refused and leave the record as it was. -/
theorem run_record_late :
    let limits : Limits := ⟨2, .ofNanos 30, 1, by decide, by decide, by decide⟩
    let before := (({} : Bucket Rat).run limits [100, 100, 100]).2
    before.Holds 100 0 ∧ (before.take limits 90).1.allowed = false ∧
      (before.take limits 90).1.remaining = 0 ∧
      (before.take limits 90).2 = ⟨some (toString 100), some (.number 0), some 1⟩ := by
  intro limits before
  have hfull : (full limits 100).Holds 100 (2 : Nat) := holds_full limits 100
  have hbefore : before.Holds 100 (0 : Nat) := by
    have hholds := ((hfull.holds_take_natCast limits).holds_take_natCast limits).holds_take_natCast
      limits
    rwa [← take_empty] at hholds
  have hrefused : (before.take limits 90).1.allowed = false := by
    rw [hbefore.allowed_take, found, if_neg (by decide)]
    norm_num
  obtain ⟨-, hrecord⟩ := run_record limits [100, 100, 100] 90
  have hdef : (({} : Bucket Rat).run limits [100, 100, 100]).2 = before := rfl
  -- From here on the record is any record of which this is known.
  rw [hdef] at hrecord
  clear_value before
  obtain ⟨last, level, -, heq, hnonneg, -, hdenied, hearly⟩ := hrecord
  obtain ⟨hstamp, hle⟩ := hearly 100 (0 : Nat) hbefore (by decide)
  obtain rfl : level = 0 := le_antisymm (by exact_mod_cast hle) hnonneg
  refine ⟨by exact_mod_cast hbefore, hrefused, (hdenied hrefused).2, ?_⟩
  rw [heq] at hstamp ⊢
  rw [hbefore.stamp_eq] at hstamp
  rw [← hstamp]

end RateLimit.Bucket
