import RateLimit.Proofs.Bucket.Grants

/-!
# Buckets whose limits change

Calls with different limits may share a bucket.  A call that comes later than the last refill fills
the bucket up to its own limits at most, so its answer is within them.  A call at the time of the
last refill, or before it, takes the tokens as they are: if they were counted under wider limits it
may tell more tokens than its own limits allow, and a time that has already passed.

## Main results

* `Bucket.Holds.within_iff` : when the answer to a call is within the limits of the call.
* `Bucket.Reachable.tokens_lt` : a bucket holds less than the widest limits so far allow.
* `Bucket.within_limits` : when the answers of calls whose limits change are within them.
* `Bucket.not_within_limits_of_narrowed` : an answer beyond the limits of its call.
-/

namespace RateLimit.Bucket

variable {limits : Limits} {b : Bucket Rat} {stamp now bound : Nat} {tokens : Rat}

/-! ### What a call finds and leaves -/

theorem found_lt_iff (hbound : limits.tokens ≤ bound) :
    found limits stamp tokens now < bound + 1 ↔ stamp < now ∨ tokens < bound + 1 := by
  rw [found]
  split
  · rename_i hlt
    have hle := min_le_right (tokens + (now - stamp) / limits.rate) (limits.tokens : Rat)
    have hcast : (limits.tokens : Rat) ≤ bound := Nat.cast_le.mpr hbound
    exact iff_of_true (by linarith) (.inl hlt)
  · rename_i hlt
    exact ⟨.inr, fun h => h.resolve_left hlt⟩

theorem left_lt_iff (hbound : 0 < bound) :
    left limits stamp tokens now < bound ↔ found limits stamp tokens now < bound + 1 := by
  have hone : (1 : Rat) ≤ bound := Nat.one_le_cast.mpr hbound
  rw [left]
  split
  · exact sub_lt_iff_lt_add
  · rename_i hless
    exact iff_of_true (by linarith) (by linarith)

/-! ### One call -/

/-- The whole tokens left are fewer than a bound exactly if the tokens left are. -/
theorem Holds.remaining_le_iff (h : b.Holds stamp tokens) (limits : Limits) (now bound : Nat) :
    (b.take limits now).1.remaining ≤ bound - 1 ↔ left limits stamp tokens now < bound := by
  have hcast : (bound : Rat) - 1 = ((bound - 1 : Int) : Rat) := by
    push_cast
    rfl
  rw [h.take, hcast, Int.cast_le, Int.le_sub_one_iff, Rat.floor_lt_iff, Int.cast_natCast]

/-- A call tells no time that has passed exactly if it leaves no more tokens than a full bucket
has. -/
theorem Holds.le_reset_iff (h : b.Holds stamp tokens) (limits : Limits) (now : Nat) :
    now ≤ (b.take limits now).1.reset ↔ left limits stamp tokens now ≤ limits.tokens := by
  have hmissing : 0 ≤ (limits.tokens - left limits stamp tokens now) * limits.rate ↔
      left limits stamp tokens now ≤ limits.tokens := by
    rw [mul_nonneg_iff_of_pos_right limits.rate_rat_pos, sub_nonneg]
  rw [h.take, ← hmissing, ← Int.cast_natCast now, Int.cast_le, Rat.le_floor_iff,
    le_add_iff_nonneg_right]

/-- The answer to a call is within the limits of the call exactly if it comes later than the last
refill, or the bucket holds less than one token beyond what these limits allow. -/
theorem Holds.within_iff (h : b.Holds stamp tokens) (limits : Limits) (now : Nat) :
    (b.take limits now).1.remaining ≤ limits.tokens - 1 ∧ now ≤ (b.take limits now).1.reset ↔
      stamp < now ∨ tokens < limits.tokens + 1 := by
  rw [h.remaining_le_iff, h.le_reset_iff, ← found_lt_iff le_rfl, ← left_lt_iff limits.tokens_pos]
  exact and_iff_left_of_imp le_of_lt

/-! ### Runs -/

/-- A bucket holds less than the widest of the limits allow under which calls were made. -/
theorem Reachable.tokens_lt {among : Set Limits} (h : b.Reachable among)
    (hbound : ∀ limits ∈ among, limits.tokens ≤ bound) :
    b = {} ∨ ∃ stamp tokens, b.Holds stamp tokens ∧ tokens < bound := by
  induction h with
  | empty => exact .inl rfl
  | @take b h limits hlimits now ih =>
      have hle := hbound limits hlimits
      have hpos : 0 < bound := limits.tokens_pos.trans_le hle
      have hcast : (limits.tokens : Rat) ≤ bound := Nat.cast_le.mpr hle
      rcases ih with rfl | ⟨stamp, tokens, hb, htokens⟩
      · rw [take_empty]
        refine .inr ⟨_, _, (holds_full limits now).holds_take limits now, ?_⟩
        rw [left_lt_iff hpos, found_lt_iff hle]
        exact .inr (by linarith)
      · refine .inr ⟨_, _, hb.holds_take limits now, ?_⟩
        rw [left_lt_iff hpos, found_lt_iff hle]
        exact .inr (by linarith)

/-- **Answers within changing limits.** On a bucket that calls have left whose limits may differ
from call to call, at times in any order: the answer to a call tells at most the tokens of a full
bucket but one, and a time that has not passed, exactly if the call comes later than the stored
time or the bucket holds less than one token beyond what the limits of the call allow.  So it does
if no earlier call had wider limits; and the tokens told are always fewer than the widest limits
so far allow. -/
theorem within_limits (among : Set Limits) (b : Bucket Rat) (hb : b.Reachable among)
    (limits : Limits) (now : Nat) :
    ((b.take limits now).1.remaining ≤ limits.tokens - 1 ∧ now ≤ (b.take limits now).1.reset ↔
      ∀ start level, b.level? = some (start, level) → start < now ∨ level < limits.tokens + 1) ∧
    ((∀ other ∈ among, other.tokens ≤ limits.tokens) →
      (b.take limits now).1.remaining ≤ limits.tokens - 1 ∧ now ≤ (b.take limits now).1.reset) ∧
    ∀ bound : Nat, limits.tokens ≤ bound → (∀ other ∈ among, other.tokens ≤ bound) →
      (b.take limits now).1.remaining ≤ bound - 1 := by
  have hempty : (({} : Bucket Rat).take limits now).1.remaining ≤ limits.tokens - 1 ∧
      now ≤ (({} : Bucket Rat).take limits now).1.reset := by
    rw [take_empty]
    exact ((holds_full limits now).within_iff limits now).mpr (.inr (lt_add_one _))
  refine ⟨?_, fun hamong => ?_, fun bound hbound hamong => ?_⟩
  · rcases hb.eq_empty_or_holds with rfl | ⟨stamp, tokens, hholds, -⟩
    · exact iff_of_true hempty fun start level hlevel => by cases hlevel
    · rw [hholds.within_iff, hholds.level?]
      constructor
      · rintro h start level hlevel
        cases hlevel
        exact h.imp_left Nat.cast_lt.mpr
      · intro h
        exact (h _ _ rfl).imp_left Nat.cast_lt.mp
  · rcases hb.tokens_lt hamong with rfl | ⟨stamp, tokens, hholds, htokens⟩
    · exact hempty
    · exact (hholds.within_iff limits now).mpr (.inr (htokens.trans (lt_add_one _)))
  · have hcast : (limits.tokens : Rat) ≤ bound := Nat.cast_le.mpr hbound
    rcases hb.tokens_lt hamong with rfl | ⟨stamp, tokens, hholds, htokens⟩
    · linarith [hempty.1]
    · rw [hholds.remaining_le_iff, left_lt_iff (limits.tokens_pos.trans_le hbound),
        found_lt_iff hbound]
      exact .inr (htokens.trans (lt_add_one _))

/-- A bucket of which one of two tokens was taken at 100, called at 90 with limits of three tokens:
the answer is within them, since they are wider. -/
theorem within_limits_of_widened :
    let narrow : Limits := ⟨2, .ofNanos 30, 1, by decide, by decide, by decide⟩
    let wide : Limits := ⟨3, .ofNanos 30, 1, by decide, by decide, by decide⟩
    let b := (({} : Bucket Rat).take narrow 100).2
    b.Reachable {narrow} ∧ (∀ other ∈ ({narrow} : Set Limits), other.tokens ≤ wide.tokens) ∧
      (b.take wide 90).1.remaining ≤ wide.tokens - 1 ∧
      ((90 : Nat) : Rat) ≤ (b.take wide 90).1.reset := by
  intro narrow wide b
  have hb : b.Reachable {narrow} := .take .empty (Set.mem_singleton narrow) 100
  have hamong : ∀ other ∈ ({narrow} : Set Limits), other.tokens ≤ wide.tokens := by
    intro other hother
    rw [Set.mem_singleton_iff.mp hother]
    decide
  exact ⟨hb, hamong, (within_limits {narrow} b hb wide 90).2.1 hamong⟩

/-- Of ten tokens in ten seconds one is taken at 100 seconds.  A call at the same time with limits
of two tokens in ten seconds is told that eight tokens are left, and that the bucket was full at 70
seconds. -/
theorem not_within_limits_of_narrowed :
    let wide : Limits := ⟨10, .ofSecs 10, 100, by decide, by decide, by decide⟩
    let narrow : Limits := ⟨2, .ofSecs 10, 100, by decide, by decide, by decide⟩
    let b := (({} : Bucket Rat).take wide 100000000000).2
    b.Reachable Set.univ ∧
      (b.take narrow 100000000000).1.remaining = 8 ∧
      ¬ (b.take narrow 100000000000).1.remaining ≤ narrow.tokens - 1 ∧
      (b.take narrow 100000000000).1.reset = 70000000000 ∧
      ¬ ((100000000000 : Nat) : Rat) ≤ (b.take narrow 100000000000).1.reset := by
  intro wide narrow b
  have hfull : (full wide 100000000000).Holds 100000000000 (10 : Nat) := holds_full wide _
  have hb : b.Holds 100000000000 (9 : Nat) := by
    have hholds := hfull.holds_take_natCast wide
    rwa [← take_empty] at hholds
  have hrate : (narrow.rate : Rat) = 5000000000 := by
    rw [Limits.rate_rat]
    norm_num [narrow, Duration.toNanos, Duration.ofSecs]
  have hremaining : (b.take narrow 100000000000).1.remaining = 8 := by
    rw [hb.take, left_natCast, ← Int.cast_natCast, Rat.floor_intCast]
    norm_num
  have hreset : (b.take narrow 100000000000).1.reset = 70000000000 := by
    have hsum : ((100000000000 : Nat) + ((narrow.tokens : Rat) - (9 - 1 : Nat)) * narrow.rate :
        Rat) = (70000000000 : Int) := by
      rw [hrate]
      norm_num [narrow]
    rw [hb.take, left_natCast]
    dsimp only
    rw [hsum, Rat.floor_intCast]
    norm_num
  refine ⟨.take .empty (Set.mem_univ wide) _, hremaining, ?_, hreset, ?_⟩
  · rw [hremaining]
    norm_num [narrow]
  · rw [hreset]
    norm_num

end RateLimit.Bucket
