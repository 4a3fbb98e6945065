import RateLimit.Proofs.Bucket.Grants

/-!
# When a bucket is full again

The answer to a call names the time at which the bucket is full again.  That time is counted from
the time of the call, while the bucket is refilled from the time that is stored with it.  The two
are the same unless the call is earlier than the stored time; a bucket is then full later than its
answer says, by as much as the call was early.

## Main definitions

* `Bucket.FindsFull` : a call finds a bucket full.

## Main results

* `Bucket.Holds.findsFull_iff` : when a call finds a bucket full.
* `Bucket.findsFull_after_reset` : how the reported time stands to the time at which the bucket is
  full again.
* `Bucket.not_findsFull_after_early_reset` : a call that is earlier than the stored time reports a
  time at which the bucket is not full again.
-/

namespace RateLimit.Bucket

/-- A call finds a bucket full: it is allowed and leaves all the tokens but one. -/
def FindsFull (limits : Limits) (b : Bucket Rat) (now : Nat) : Prop :=
  (b.take limits now).1.allowed = true ∧ (b.take limits now).1.remaining = limits.tokens - 1

variable {limits : Limits} {b : Bucket Rat} {stamp now : Nat} {tokens : Rat}

theorem one_le_tokens (limits : Limits) : (1 : Rat) ≤ limits.tokens :=
  Nat.one_le_cast.mpr limits.tokens_pos

/-! ### Never more than full -/

theorem found_le_tokens (stamp now : Nat) (h : tokens ≤ limits.tokens) :
    found limits stamp tokens now ≤ limits.tokens := by
  rw [found]
  split
  · exact min_le_right _ _
  · exact h

/-- Once a call has been made a bucket is not full. -/
theorem left_lt_tokens (stamp now : Nat) (h : tokens ≤ limits.tokens) :
    left limits stamp tokens now < limits.tokens := by
  have hfound := found_le_tokens stamp now h
  have hone := one_le_tokens limits
  rw [left]
  split <;> linarith

/-- A record that calls with the same limits leave is that of a key that was never used, or holds a
time and no more tokens than a full bucket has. -/
theorem Reachable.tokens_le (h : b.Reachable {limits}) :
    b = {} ∨ ∃ stamp tokens, b.Holds stamp tokens ∧ tokens ≤ limits.tokens := by
  induction h with
  | empty => exact .inl rfl
  | @take b h among hamong now ih =>
      obtain rfl := Set.mem_singleton_iff.mp hamong
      rcases ih with rfl | ⟨stamp, tokens, hb, htokens⟩
      · rw [take_empty]
        exact .inr ⟨_, _, (holds_full among now).holds_take among now,
          (left_lt_tokens now now le_rfl).le⟩
      · exact .inr ⟨_, _, hb.holds_take among now, (left_lt_tokens stamp now htokens).le⟩

/-! ### Full buckets -/

theorem Holds.findsFull_iff_found (h : b.Holds stamp tokens) (htokens : tokens ≤ limits.tokens) :
    b.FindsFull limits now ↔ found limits stamp tokens now = limits.tokens := by
  have hle := found_le_tokens stamp now htokens
  have hone := one_le_tokens limits
  rw [FindsFull, h.take]
  dsimp only
  rw [decide_eq_true_iff]
  constructor
  · rintro ⟨hallowed, hremaining⟩
    rw [left, if_pos hallowed] at hremaining
    -- What remains is rounded down, so at least as much was there.
    have hfloor := Rat.floor_le (found limits stamp tokens now - 1)
    rw [hremaining] at hfloor
    linarith
  · intro hfull
    rw [left, hfull, if_pos hone]
    refine ⟨hone, ?_⟩
    have hcast : (limits.tokens : Rat) - 1 = ((limits.tokens - 1 : Int) : Rat) := by
      push_cast
      rfl
    rw [hcast, Rat.floor_intCast]

/-- A bucket that is not full is found full as soon as the missing tokens have come back since the
stored time. -/
theorem Holds.findsFull_iff (h : b.Holds stamp tokens) (htokens : tokens < limits.tokens) :
    b.FindsFull limits now ↔ stamp + (limits.tokens - tokens) * limits.rate ≤ (now : Rat) := by
  have hrate := limits.rate_rat_pos
  have hmissing : 0 < (limits.tokens - tokens) * limits.rate :=
    mul_pos (sub_pos.mpr htokens) hrate
  rw [h.findsFull_iff_found htokens.le, found]
  split
  · rw [min_eq_right_iff, ← sub_le_iff_le_add', le_div_iff₀ hrate]
    constructor <;> intro hle <;> linarith
  · rename_i hlt
    have hnow : (now : Rat) ≤ stamp := Nat.cast_le.mpr (Nat.le_of_not_lt hlt)
    constructor
    · intro heq
      exact absurd heq htokens.ne
    · intro hle
      linarith

/-! ### The reported time -/

/-- The time that a call reports is the whole part of the time at which the missing tokens will have
come back since the call. -/
theorem Holds.reset_take (h : b.Holds stamp tokens) (limits : Limits) (now : Nat) :
    (b.take limits now).1.reset =
      ((now + (limits.tokens - left limits stamp tokens now) * limits.rate : Rat).floor : Int) := by
  rw [h.take]

theorem Holds.findsFull_later (h : b.Holds stamp tokens) (htokens : tokens ≤ limits.tokens)
    (now : Nat) :
    (∀ later : Nat, (b.take limits now).1.reset + ((max stamp now : Nat) - now) < later →
      (b.take limits now).2.FindsFull limits later) ∧
    ((∀ later : Nat, (b.take limits now).1.reset < later →
        (b.take limits now).2.FindsFull limits later) ↔
      (max stamp now : Nat) + (limits.tokens - left limits stamp tokens now) * limits.rate ≤
        (b.take limits now).1.reset + 1) := by
  have hlt : left limits stamp tokens now < limits.tokens := left_lt_tokens stamp now htokens
  have hafter := h.holds_take limits now
  have hmissing : 0 < (limits.tokens - left limits stamp tokens now) * limits.rate :=
    mul_pos (sub_pos.mpr hlt) limits.rate_rat_pos
  have hreset := h.reset_take limits now
  generalize (b.take limits now).1.reset = reset at hreset ⊢
  generalize (b.take limits now).2 = b' at hafter ⊢
  generalize left limits stamp tokens now = rest at hlt hafter hmissing hreset ⊢
  have hup := Rat.lt_floor_add_one (now + (limits.tokens - rest) * limits.rate : Rat)
  have hnonneg : 0 ≤ (now + (limits.tokens - rest) * limits.rate : Rat).floor :=
    Rat.le_floor_iff.mpr (add_nonneg (Nat.cast_nonneg now) hmissing.le)
  rw [Int.cast_add, Int.cast_one, ← hreset] at hup
  refine ⟨fun later hlater => ?_, ⟨fun hfull => ?_, fun hle later hlater => ?_⟩⟩
  · -- Both sides are whole numbers, so the later time is later by one at least.
    have hnext : reset + ((max stamp now : Nat) - now) + 1 ≤ (later : Rat) := by
      rw [hreset] at hlater ⊢
      exact_mod_cast hlater
    exact (hafter.findsFull_iff hlt).mpr (by linarith)
  · obtain ⟨n, hn⟩ := Int.eq_ofNat_of_zero_le hnonneg
    have hresetNat : reset = (n : Rat) := by
      rw [hreset, hn]
      rfl
    have hfirst := hfull (n + 1) (by rw [hresetNat]; exact_mod_cast Nat.lt_succ_self n)
    have hle := (hafter.findsFull_iff hlt).mp hfirst
    rw [hresetNat]
    exact_mod_cast hle
  · have hnext : reset + 1 ≤ (later : Rat) := by
      rw [hreset] at hlater ⊢
      exact_mod_cast hlater
    exact (hafter.findsFull_iff hlt).mpr (hle.trans hnext)

/-- **When a bucket is full again.** After a call on a bucket that calls with the same limits have
left, with nothing else happening to it, the bucket is found full at every time that is later than
the reported one, if the call was not earlier than the stored time; and in general if the time is
later by more than the call was early.  The reported time is right for all later calls exactly if
the missing tokens will have come back, counted from the stored time, by the next nanosecond. -/
theorem findsFull_after_reset (limits : Limits) (b : Bucket Rat) (hb : b.Reachable {limits})
    (now : Nat) :
    ∃ (stamp : Nat) (tokens : Rat), (b.take limits now).2.level? = some (↑stamp, tokens) ∧
      now ≤ stamp ∧
      ((∀ start level, b.level? = some (start, level) → start ≤ now) → stamp = now) ∧
      (∀ later : Nat, (b.take limits now).1.reset + (stamp - now) < later →
        (b.take limits now).2.FindsFull limits later) ∧
      ((∀ later : Nat, (b.take limits now).1.reset < later →
          (b.take limits now).2.FindsFull limits later) ↔
        stamp + (limits.tokens - tokens) * limits.rate ≤ (b.take limits now).1.reset + 1) := by
  rcases hb.tokens_le with rfl | ⟨stamp, tokens, hb, htokens⟩
  · have hfull := holds_full limits now
    rw [take_empty]
    refine ⟨_, _, (hfull.holds_take limits now).level?, le_max_right _ _, fun _ => max_self now,
      hfull.findsFull_later le_rfl now⟩
  · refine ⟨_, _, (hb.holds_take limits now).level?, le_max_right _ _, fun hlate => ?_,
      hb.findsFull_later htokens now⟩
    have hle := hlate _ _ hb.level?
    exact max_eq_right (by exact_mod_cast hle)

/-- Three tokens in 30 nanoseconds, of which one was taken at 100 and another at 90. -/
theorem findsFull_after_reset_early :
    let limits : Limits := ⟨3, .ofNanos 30, 1, by decide, by decide, by decide⟩
    let b := (({} : Bucket Rat).take limits 100).2
    b.Reachable {limits} ∧
      ∃ (stamp : Nat) (tokens : Rat), (b.take limits 90).2.level? = some (↑stamp, tokens) ∧
        90 ≤ stamp ∧
        ((∀ start level, b.level? = some (start, level) → start ≤ 90) → stamp = 90) ∧
        (∀ later : Nat, (b.take limits 90).1.reset + (stamp - 90) < later →
          (b.take limits 90).2.FindsFull limits later) ∧
        ((∀ later : Nat, (b.take limits 90).1.reset < later →
            (b.take limits 90).2.FindsFull limits later) ↔
          stamp + (limits.tokens - tokens) * limits.rate ≤ (b.take limits 90).1.reset + 1) := by
  intro limits b
  have hb : b.Reachable {limits} := .take .empty (Set.mem_singleton limits) 100
  exact ⟨hb, findsFull_after_reset limits b hb 90⟩

/-- Of ten tokens in ten seconds one is taken at 100 seconds and, by a clock that is behind, another
at 50 seconds.  The second answer says that the bucket is full again at 52 seconds, but a call after
53 seconds does not find it full. -/
theorem not_findsFull_after_early_reset :
    let limits : Limits := ⟨10, .ofSecs 10, 100, by decide, by decide, by decide⟩
    let b := (({} : Bucket Rat).take limits 100000000000).2
    b.Reachable {limits} ∧ (b.take limits 50000000000).1.reset < 53000000000 ∧
      ¬ (b.take limits 50000000000).2.FindsFull limits 53000000000 := by
  intro limits b
  have hb : b.Holds 100000000000 9 := by
    have hholds := (holds_full limits 100000000000).holds_take limits 100000000000
    rw [← take_empty] at hholds
    have hleft : left limits 100000000000 limits.tokens 100000000000 = 9 := by
      norm_num [left, found, limits]
    rwa [hleft] at hholds
  have hrate : (limits.rate : Rat) = 1000000000 := by
    rw [Limits.rate_rat]
    norm_num [limits, Duration.toNanos, Duration.ofSecs]
  have hleft : left limits 100000000000 9 50000000000 = 8 := by
    norm_num [left, found]
  refine ⟨.take .empty (Set.mem_singleton limits) _, ?_, ?_⟩
  · rw [hb.reset_take, hleft, hrate]
    have hsum : ((50000000000 : Nat) + ((limits.tokens : Rat) - 8) * 1000000000 : Rat) =
        (52000000000 : Int) := by
      norm_num [limits]
    rw [hsum, Rat.floor_intCast]
    norm_num
  · have hafter := hb.holds_take limits 50000000000
    rw [hleft] at hafter
    rw [hafter.findsFull_iff (by norm_num [limits]), hrate]
    norm_num [limits]

end RateLimit.Bucket
