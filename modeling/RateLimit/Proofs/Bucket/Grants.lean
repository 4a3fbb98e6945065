import Mathlib.Data.Set.Basic
import RateLimit.Proofs.Bucket.Level

/-!
# How many calls a bucket grants

Every call that is granted takes a token, and tokens come back only with the time of the last
refill, which never goes back.  So over any run of calls, at times in any order, the calls granted
and the tokens left are together no more than the tokens at the beginning and those that have come
back since.

## Main definitions

* `Bucket.Reachable` : the records that calls leave.
* `Bucket.run` : calls on a bucket one after the other.
* `Bucket.granted` : how many calls are granted.

## Main results

* `Bucket.Holds.granted_add_left_le` : one call keeps the balance.
* `Bucket.granted_run_le` : the bound over a whole run.
-/

namespace RateLimit.Bucket

/-- The records that calls with some limits leave, from a key that was never used. -/
inductive Reachable (among : Set Limits) : Bucket Rat → Prop
  | empty : Reachable among {}
  | take {b : Bucket Rat} (h : Reachable among b) {limits : Limits} (hlimits : limits ∈ among)
      (now : Nat) : Reachable among (b.take limits now).2

/-- A record that calls leave is that of a key that was never used, or holds a time and tokens. -/
theorem Reachable.eq_empty_or_holds {among : Set Limits} {b : Bucket Rat} (h : b.Reachable among) :
    b = {} ∨ ∃ stamp tokens, b.Holds stamp tokens ∧ 0 ≤ tokens := by
  induction h with
  | empty => exact .inl rfl
  | take h hlimits now ih =>
      rename_i b limits
      rcases ih with rfl | ⟨stamp, tokens, hb, htokens⟩
      · rw [take_empty]
        exact .inr ⟨_, _, (holds_full limits now).holds_take limits now,
          left_nonneg limits now limits.tokens_rat_pos.le⟩
      · exact .inr ⟨_, _, hb.holds_take limits now, left_nonneg limits now htokens⟩

/-! ### Runs -/

/-- Calls on a bucket one after the other, at given times: the answers, and the record
afterwards. -/
def run (limits : Limits) (b : Bucket Rat) : List Nat → List (Verdict Rat) × Bucket Rat
  | [] => ([], b)
  | now :: later =>
      let (verdict, b) := b.take limits now
      let (verdicts, b) := run limits b later
      (verdict :: verdicts, b)

/-- How many calls are granted. -/
def granted (verdicts : List (Verdict Rat)) : Nat :=
  verdicts.countP Verdict.allowed

variable {b : Bucket Rat} {stamp : Nat} {tokens : Rat}

/-- A call keeps the balance: whether it is granted and what it leaves are together no more than
what was there and has come back. -/
theorem Holds.granted_add_left_le (h : b.Holds stamp tokens) (limits : Limits) (now : Nat) :
    (granted [(b.take limits now).1] : Rat) + left limits stamp tokens now ≤
      tokens + ((max stamp now : Nat) - stamp) / limits.rate := by
  have hfound := found_le limits stamp tokens now
  rw [granted, List.countP_singleton, h.allowed_take, left]
  by_cases hone : 1 ≤ found limits stamp tokens now
  · simp only [hone, decide_true, if_true, Nat.cast_one]
    linarith
  · simp only [hone, decide_false, Bool.false_eq_true, if_false, Nat.cast_zero]
    linarith

/-- Over a run of calls the balance is kept, and the refill ends at the latest time. -/
theorem Holds.granted_run_add_le (h : b.Holds stamp tokens) (htokens : 0 ≤ tokens)
    (limits : Limits) (times : List Nat) :
    ∃ rest, (b.run limits times).2.Holds (times.foldl max stamp) rest ∧ 0 ≤ rest ∧
      (granted (b.run limits times).1 : Rat) + rest ≤
        tokens + ((times.foldl max stamp : Nat) - stamp) / limits.rate := by
  induction times generalizing b stamp tokens with
  | nil => exact ⟨tokens, h, htokens, by simp [run, granted]⟩
  | cons now later ih =>
      obtain ⟨rest, hrest, hnonneg, hle⟩ :=
        ih (h.holds_take limits now) (left_nonneg limits now htokens)
      refine ⟨rest, hrest, hnonneg, ?_⟩
      have hstep := h.granted_add_left_le limits now
      have hcount : granted (b.run limits (now :: later)).1 =
          granted [(b.take limits now).1] + granted ((b.take limits now).2.run limits later).1 := by
        simp only [run, granted, ← List.countP_append, List.singleton_append]
      -- The time between the first refill and the last is covered by the call and those after it.
      have hsplit : (((now :: later).foldl max stamp : Nat) - stamp : Rat) / limits.rate =
          ((max stamp now : Nat) - stamp) / limits.rate +
            ((later.foldl max (max stamp now) : Nat) - (max stamp now : Nat)) / limits.rate := by
        rw [List.foldl_cons, ← add_div, sub_add_sub_cancel']
      rw [hcount, Nat.cast_add, hsplit]
      linarith

theorem run_empty (limits : Limits) (first : Nat) (later : List Nat) :
    ({} : Bucket Rat).run limits (first :: later) =
      (full limits first).run limits (first :: later) := by
  rw [run, run, take_empty]

/-- **A bucket grants no more than it holds and regains.** From any record that calls have left,
with whatever limits, a run of calls at times in any order grants at most the tokens that are
there and those that come back between the stored times before and after it.  From a key that was
never used the bucket is full at the first call, and the stored time afterwards is the latest
one. -/
theorem granted_run_le (limits : Limits) (b : Bucket Rat) (hb : b.Reachable Set.univ) :
    (∀ start level, b.level? = some (start, level) → ∀ times : List Nat,
      ∃ stamp tokens, (b.run limits times).2.level? = some (stamp, tokens) ∧
        (granted (b.run limits times).1 : Rat) ≤ level + (stamp - start) / limits.rate) ∧
    (b.level? = none → ∀ (first : Nat) (later : List Nat),
      ∃ stamp tokens, (b.run limits (first :: later)).2.level? = some (stamp, tokens) ∧
        stamp = (later.foldl max first : Nat) ∧
        (granted (b.run limits (first :: later)).1 : Rat) ≤
          limits.tokens + (stamp - first) / limits.rate) := by
  constructor
  · intro start level hlevel times
    rcases hb.eq_empty_or_holds with rfl | ⟨stamp, tokens, hholds, htokens⟩
    · cases hlevel
    · rw [hholds.level?] at hlevel
      cases hlevel
      obtain ⟨rest, hrest, hnonneg, hle⟩ := hholds.granted_run_add_le htokens limits times
      exact ⟨_, _, hrest.level?, by linarith⟩
  · intro hlevel first later
    rcases hb.eq_empty_or_holds with rfl | ⟨stamp, tokens, hholds, htokens⟩
    · obtain ⟨rest, hrest, hnonneg, hle⟩ := (holds_full limits first).granted_run_add_le
        limits.tokens_rat_pos.le limits (first :: later)
      rw [List.foldl_cons, max_self] at hrest hle
      rw [run_empty]
      exact ⟨_, _, hrest.level?, rfl, by linarith⟩
    · rw [hholds.level?] at hlevel
      cases hlevel

/-- A bucket of five tokens of which one was taken at 100, called at 90, 130 and 95 with limits of
three tokens in 30 nanoseconds. -/
theorem granted_run_le_narrowed :
    let wide : Limits := ⟨5, .ofNanos 30, 1, by decide, by decide, by decide⟩
    let narrow : Limits := ⟨3, .ofNanos 30, 1, by decide, by decide, by decide⟩
    let b := (({} : Bucket Rat).take wide 100).2
    b.Reachable Set.univ ∧ b.level? = some (100, 4) ∧
      ∃ stamp tokens, (b.run narrow [90, 130, 95]).2.level? = some (stamp, tokens) ∧
        (granted (b.run narrow [90, 130, 95]).1 : Rat) ≤ 4 + (stamp - 100) / narrow.rate := by
  intro wide narrow b
  have hb : b.Reachable Set.univ := .take .empty (Set.mem_univ wide) 100
  have hlevel : b.level? = some (100, 4) := by
    have hholds := (holds_full wide 100).holds_take wide 100
    rw [← take_empty] at hholds
    rw [hholds.level?]
    norm_num [left, found, wide]
  exact ⟨hb, hlevel, (granted_run_le narrow b hb).1 100 4 hlevel [90, 130, 95]⟩

end RateLimit.Bucket
