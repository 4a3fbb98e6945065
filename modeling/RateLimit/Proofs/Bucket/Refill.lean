import RateLimit.Proofs.Bucket.Grants

/-!
# Refills add up

A call refills a bucket before it takes anything.  Tokens that come back up to some time and then up
to a later one are those that come back at once, and no bucket is filled beyond its size either way.
A call that is refused does nothing but refill, so it makes no difference to the calls after it.

## Main definitions

* `Bucket.holding` : a record that holds a time and tokens.

## Main results

* `Bucket.found_found` : refills add up.
* `Bucket.Holds.run_refilled` : calls on a bucket that was refilled before.
* `Bucket.run_eraseIdx_of_refused` : a call that is refused makes no difference to the others.
-/

namespace RateLimit.Bucket

variable {limits : Limits} {b b' : Bucket Rat} {stamp now later : Nat} {tokens : Rat}
  {times : List Nat}

/-- A record that holds a time and tokens. -/
def holding (stamp : Nat) (tokens : Rat) : Bucket Rat :=
  { stamp := some (toString stamp), tokens := some (.number tokens) }

theorem holds_holding (stamp : Nat) (tokens : Rat) : (holding stamp tokens).Holds stamp tokens :=
  ⟨rfl, rfl⟩

theorem run_cons (limits : Limits) (b : Bucket Rat) (now : Nat) (times : List Nat) :
    b.run limits (now :: times) =
      ((b.take limits now).1 :: ((b.take limits now).2.run limits times).1,
        ((b.take limits now).2.run limits times).2) :=
  rfl

/-! ### What calls find -/

@[simp]
theorem found_self (limits : Limits) (now : Nat) (tokens : Rat) :
    found limits now tokens now = tokens :=
  if_neg (lt_irrefl now)

theorem found_of_lt (h : stamp < now) :
    found limits stamp tokens now = min (tokens + (now - stamp) / limits.rate) limits.tokens :=
  if_pos h

theorem found_eq_min (hnow : stamp ≤ now) (htokens : tokens ≤ limits.tokens) :
    found limits stamp tokens now = min (tokens + (now - stamp) / limits.rate) limits.tokens := by
  rcases hnow.eq_or_lt with rfl | hnow
  · rw [found_self, sub_self, zero_div, add_zero, min_eq_left htokens]
  · exact found_of_lt hnow

/-- Whoever finds a bucket refilled up to some time finds at a later time what is found without the
refill in between. -/
theorem found_found (hnow : stamp ≤ now) (hlater : now ≤ later) :
    found limits now (found limits stamp tokens now) later = found limits stamp tokens later := by
  rcases hnow.eq_or_lt with rfl | hnow
  · rw [found_self]
  rcases hlater.eq_or_lt with rfl | hlater
  · rw [found_self]
  have hnonneg : (0 : Rat) ≤ (later - now) / limits.rate :=
    div_nonneg (sub_nonneg.mpr (Nat.cast_le.mpr hlater.le)) limits.rate_rat_pos.le
  have hsplit : (now - stamp) / limits.rate + (later - now) / limits.rate =
      ((later - stamp) / limits.rate : Rat) := by
    rw [← add_div, add_comm, sub_add_sub_cancel]
  -- The size of the bucket matters only at the end, since nothing is taken in between.
  have hcap : min ((limits.tokens : Rat) + (later - now) / limits.rate) limits.tokens =
      limits.tokens :=
    min_eq_right (le_add_of_nonneg_right hnonneg)
  rw [found_of_lt hlater, found_of_lt hnow, found_of_lt (hnow.trans hlater), ← min_add_add_right,
    min_assoc, hcap, add_assoc, hsplit]

/-- A call on a bucket that was refilled before is a call on the bucket as it was. -/
theorem Holds.take_refilled (h : b.Holds stamp tokens)
    (h' : b'.Holds now (found limits stamp tokens now)) (hnow : stamp ≤ now)
    (hlater : now ≤ later) : b'.take limits later = b.take limits later := by
  have hleft : left limits now (found limits stamp tokens now) later =
      left limits stamp tokens later := by
    rw [left, left, found_found hnow hlater]
  rw [h.take, h'.take, hleft, found_found hnow hlater, max_eq_right hlater,
    max_eq_right (hnow.trans hlater)]

/-- Calls on a bucket that was refilled before are calls on the bucket as it was; the record
afterwards is the same if there is a call at all. -/
theorem Holds.run_refilled (h : b.Holds stamp tokens)
    (h' : b'.Holds now (found limits stamp tokens now)) (hnow : stamp ≤ now)
    (htimes : ∀ later ∈ times.head?, now ≤ later) :
    (b'.run limits times).1 = (b.run limits times).1 ∧
      (times ≠ [] → (b'.run limits times).2 = (b.run limits times).2) := by
  cases times with
  | nil => exact ⟨rfl, fun hne => (hne rfl).elim⟩
  | cons later times =>
      rw [run_cons, run_cons, h.take_refilled h' hnow (htimes later rfl)]
      exact ⟨rfl, fun _ => rfl⟩

/-! ### Calls that are refused -/

/-- A call is refused if it finds less than one token, and then refills and does nothing else. -/
theorem Holds.holds_take_of_refused (h : b.Holds stamp tokens) (hnow : stamp ≤ now)
    (hrefused : (b.take limits now).1.allowed = false) :
    (b.take limits now).2.Holds now (found limits stamp tokens now) ∧
      found limits stamp tokens now < 1 := by
  rw [h.allowed_take, decide_eq_false_iff_not] at hrefused
  have hafter := h.holds_take limits now
  rw [left, if_neg hrefused, max_eq_right hnow] at hafter
  exact ⟨hafter, not_le.mp hrefused⟩

/-- A call on a key that was never used is granted. -/
theorem allowed_take_empty (limits : Limits) (now : Nat) :
    (({} : Bucket Rat).take limits now).1.allowed = true := by
  rw [take_empty, (holds_full limits now).allowed_take, found_self, decide_eq_true_iff]
  exact Nat.one_le_cast.mpr limits.tokens_pos

theorem Holds.run_eraseIdx (h : b.Holds stamp tokens)
    (hsorted : (stamp :: times).Pairwise (· ≤ ·)) {i : Nat} {verdict : Verdict Rat}
    (hi : (b.run limits times).1[i]? = some verdict) (hrefused : verdict.allowed = false) :
    (b.run limits (times.eraseIdx i)).1 = (b.run limits times).1.eraseIdx i ∧
      (i + 1 < times.length → (b.run limits (times.eraseIdx i)).2 = (b.run limits times).2) := by
  induction times generalizing b stamp tokens i with
  | nil => cases hi
  | cons now times ih =>
      obtain ⟨hstamp, hsorted⟩ := List.pairwise_cons.mp hsorted
      have hnow : stamp ≤ now := hstamp now List.mem_cons_self
      rw [run_cons] at hi ⊢
      cases i with
      | zero =>
          obtain rfl := Option.some.inj hi
          have hafter := (h.holds_take_of_refused hnow hrefused).1
          obtain ⟨hverdicts, hrecord⟩ := h.run_refilled hafter hnow fun later hlater =>
            (List.pairwise_cons.mp hsorted).1 later (List.mem_of_mem_head? hlater)
          refine ⟨hverdicts.symm, fun hlength => (hrecord ?_).symm⟩
          rintro rfl
          exact lt_irrefl _ hlength
      | succ i =>
          have hafter := h.holds_take limits now
          rw [max_eq_right hnow] at hafter
          obtain ⟨hverdicts, hrecord⟩ := ih hafter hsorted hi
          rw [List.eraseIdx_cons_succ, run_cons, hverdicts]
          exact ⟨rfl, fun hlength => hrecord (Nat.lt_of_succ_lt_succ hlength)⟩

/-- **A call that is refused makes no difference to the others.** Calls are made on a bucket that
calls have left, with whatever limits, in the order of their times and none before the stored time.
If one that is refused is left out, all the others are answered as they were, and once a call has
been made after it the record is the same as well. -/
theorem run_eraseIdx_of_refused (limits : Limits) (b : Bucket Rat) (hb : b.Reachable Set.univ)
    (times : List Nat) (hsorted : times.Pairwise (· ≤ ·))
    (hstart : ∀ start level, b.level? = some (start, level) → ∀ now ∈ times, start ≤ now)
    (i : Nat) (verdict : Verdict Rat) (hi : (b.run limits times).1[i]? = some verdict)
    (hrefused : verdict.allowed = false) :
    (b.run limits (times.eraseIdx i)).1 = (b.run limits times).1.eraseIdx i ∧
      (i + 1 < times.length → (b.run limits (times.eraseIdx i)).2 = (b.run limits times).2) := by
  rcases hb.eq_empty_or_holds with rfl | ⟨stamp, tokens, hholds, -⟩
  · cases times with
    | nil => cases hi
    | cons first later =>
        cases i with
        | zero =>
            obtain rfl := Option.some.inj hi
            cases (allowed_take_empty limits first).symm.trans hrefused
        | succ i =>
            -- The first call stays, and it finds the bucket full.
            rw [run_empty] at hi
            rw [List.eraseIdx_cons_succ, run_empty, run_empty]
            refine (holds_full limits first).run_eraseIdx ?_ hi hrefused
            refine List.pairwise_cons.mpr ⟨fun now hnow => ?_, hsorted⟩
            rcases List.mem_cons.mp hnow with rfl | hnow
            · exact le_rfl
            · exact (List.pairwise_cons.mp hsorted).1 now hnow
  · refine hholds.run_eraseIdx (List.pairwise_cons.mpr ⟨fun now hnow => ?_, hsorted⟩) hi hrefused
    exact_mod_cast hstart _ _ hholds.level? now hnow

/-- Two tokens in 30 nanoseconds are taken at 100; the calls at 104 and 110 are refused and the one
at 115 is granted, whether the one at 104 is made or not. -/
theorem run_eraseIdx_of_refused_early :
    let limits : Limits := ⟨2, .ofNanos 30, 1, by decide, by decide, by decide⟩
    let times : List Nat := [100, 100, 104, 110, 115]
    times.Pairwise (· ≤ ·) ∧
      (∀ start level, ({} : Bucket Rat).level? = some (start, level) →
        ∀ now ∈ times, start ≤ now) ∧
      ∃ verdict : Verdict Rat, (({} : Bucket Rat).run limits times).1[2]? = some verdict ∧
        verdict.allowed = false ∧
        (({} : Bucket Rat).run limits (times.eraseIdx 2)).1 =
          (({} : Bucket Rat).run limits times).1.eraseIdx 2 ∧
        (({} : Bucket Rat).run limits (times.eraseIdx 2)).2 =
          (({} : Bucket Rat).run limits times).2 := by
  intro limits times
  have hsorted : times.Pairwise (· ≤ ·) := by decide
  have hstart : ∀ start level, ({} : Bucket Rat).level? = some (start, level) →
      ∀ now ∈ times, start ≤ (now : Rat) := fun start level hlevel => by cases hlevel
  have hfull : (full limits 100).Holds 100 (2 : Nat) := holds_full limits 100
  have htaken := (hfull.holds_take_natCast limits).holds_take_natCast limits
  rw [← take_empty] at htaken
  have hrate : (limits.rate : Rat) = 15 := by
    rw [Limits.rate_rat]
    norm_num [limits, Duration.toNanos, Duration.ofNanos]
  have hrefused := htaken.allowed_take limits 104
  rw [found_of_lt (by decide), hrate, decide_eq_false (by norm_num)] at hrefused
  have hthird : (({} : Bucket Rat).run limits times).1[2]? =
      some (((({} : Bucket Rat).take limits 100).2.take limits 100).2.take limits 104).1 := by
    simp only [times, run, List.getElem?_cons_succ, List.getElem?_cons_zero]
  obtain ⟨hverdicts, hrecord⟩ :=
    run_eraseIdx_of_refused limits {} .empty times hsorted hstart 2 _ hthird hrefused
  exact ⟨hsorted, hstart, _, hthird, hrefused, hverdicts, hrecord (by decide)⟩

end RateLimit.Bucket
