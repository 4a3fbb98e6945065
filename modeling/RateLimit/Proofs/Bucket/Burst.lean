import Mathlib.Data.Rat.Floor
import RateLimit.Proofs.Bucket.Refill

/-!
# Bursts

Calls that come close together count a bucket down.  As long as less than one token comes back
between them, each takes one of the whole tokens that were there at the beginning, in whatever order
the clocks of the callers run, and the fraction of a token that comes back meanwhile grants nothing.

## Main results

* `Bucket.Holds.countdown` : calls within the time of one token count the whole tokens down.
* `Bucket.burst_of_unused` : a key that was never used grants as many calls as its bucket has
  tokens.
* `Bucket.burst_after_refused` : after a call that was refused, a burst is granted the whole tokens
  that have come back.
-/

namespace RateLimit.Bucket

variable {limits : Limits} {b : Bucket Rat} {stamp now count : Nat} {tokens origin : Rat}
  {times : List Nat}

/-! ### Counting down -/

/-- The fraction of a token that has come back since some time. -/
theorem fraction_mem (hle : origin ≤ stamp) (hlt : stamp < origin + limits.rate) :
    0 ≤ (stamp - origin) / limits.rate ∧ (stamp - origin) / limits.rate < 1 := by
  refine ⟨div_nonneg (sub_nonneg.mpr hle) limits.rate_rat_pos.le, ?_⟩
  rw [div_lt_one limits.rate_rat_pos, sub_lt_iff_lt_add']
  exact hlt

/-- A bucket with whole tokens and the fraction that has come back since some time is found with the
same whole tokens and the fraction that has come back by then, unless it was full before. -/
theorem found_eq_count_add (hle : origin ≤ stamp) (hnow : now < origin + limits.rate)
    (hroom : count < limits.tokens ∨ now ≤ stamp) :
    found limits stamp (count + (stamp - origin) / limits.rate) now =
      count + ((max stamp now : Nat) - origin) / limits.rate := by
  rcases Nat.lt_or_ge stamp now with hlt | hge
  · have hspace : (count : Rat) + 1 ≤ limits.tokens := by
      exact_mod_cast hroom.resolve_right (Nat.not_le.mpr hlt)
    have hfraction := (fraction_mem (hle.trans (Nat.cast_le.mpr hlt.le)) hnow).2
    have hsum : (count + (stamp - origin) / limits.rate + (now - stamp) / limits.rate : Rat) =
        count + (now - origin) / limits.rate := by
      rw [add_assoc, ← add_div, add_comm (stamp - origin : Rat), sub_add_sub_cancel]
    rw [found_of_lt hlt, hsum, max_eq_right hlt.le, min_eq_left (by linarith)]
  · rw [found, if_neg (Nat.not_lt.mpr hge), max_eq_left hge]

/-- A call that finds whole tokens and a fraction takes one of the whole tokens, if there is one. -/
theorem Holds.take_count (h : b.Holds stamp tokens) {fraction : Rat}
    (hfound : found limits stamp tokens now = count + fraction) (hnonneg : 0 ≤ fraction)
    (hlt : fraction < 1) :
    (b.take limits now).1.remaining = (count - 1 : Nat) ∧
      (b.take limits now).1.allowed = decide (0 < count) ∧
      (b.take limits now).2.Holds (max stamp now) ((count - 1 : Nat) + fraction) := by
  have hone : 1 ≤ (count + fraction : Rat) ↔ 0 < count := by
    constructor
    · intro hone
      by_contra hzero
      rw [Nat.eq_zero_of_not_pos hzero, Nat.cast_zero, zero_add] at hone
      exact absurd hlt hone.not_gt
    · intro hpos
      have hcount : (1 : Rat) ≤ count := Nat.one_le_cast.mpr hpos
      linarith
  have hleft : left limits stamp tokens now = (count - 1 : Nat) + fraction := by
    rw [left, hfound]
    cases count with
    | zero => rw [if_neg (mt hone.mp (lt_irrefl 0))]
    | succ count =>
        rw [if_pos (hone.mpr count.succ_pos), Nat.cast_succ, Nat.add_sub_cancel]
        ring
  have hfloor : ⌊((count - 1 : Nat) + fraction : Rat)⌋ = ((count - 1 : Nat) : Int) := by
    rw [Int.floor_eq_iff, Int.cast_natCast]
    exact ⟨by linarith, by linarith⟩
  refine ⟨?_, ?_, hleft ▸ h.holds_take limits now⟩
  · rw [h.take, hleft]
    change (⌊((count - 1 : Nat) + fraction : Rat)⌋ : Rat) = _
    rw [hfloor, Int.cast_natCast]
  · rw [h.allowed_take, hfound]
    exact decide_eq_decide.mpr hone

/-- **Calls within the time of one token count the whole tokens down.** The bucket holds whole
tokens and the fraction that has come back since some time; all calls come within the time of one
token from there, in any order.  If the bucket is full, the first call does not come after the
stored time. -/
theorem Holds.countdown (h : b.Holds stamp (count + (stamp - origin) / limits.rate))
    (hle : origin ≤ stamp) (hlt : stamp < origin + limits.rate)
    (htimes : ∀ now ∈ times, (now : Rat) < origin + limits.rate)
    (hcount : count ≤ limits.tokens)
    (hroom : count < limits.tokens ∨ ∀ now ∈ times.head?, now ≤ stamp) :
    ((b.run limits times).1.map fun v => (v.remaining, v.allowed)) =
      (List.range times.length).map fun i =>
        (((count - (i + 1) : Nat) : Rat), decide (i < count)) := by
  induction times generalizing b stamp count with
  | nil => rfl
  | cons now times ih =>
      have hnow := htimes now List.mem_cons_self
      have hfound := found_eq_count_add hle hnow (hroom.imp_right fun h => h now rfl)
      have hle' : origin ≤ (max stamp now : Nat) := hle.trans (Nat.cast_le.mpr (le_max_left ..))
      have hlt' : (max stamp now : Nat) < origin + limits.rate := by
        rcases max_choice stamp now with hmax | hmax <;> rw [hmax] <;> assumption
      obtain ⟨hnonneg, hfraction⟩ := fraction_mem hle' hlt'
      obtain ⟨hremaining, hallowed, hafter⟩ := h.take_count hfound hnonneg hfraction
      -- No bucket is full after a call.
      have hroom' : count - 1 < limits.tokens := by
        have hpos := limits.tokens_pos
        omega
      rw [run, List.map_cons, hremaining, hallowed,
        ih hafter hle' hlt' (fun later hlater => htimes later (List.mem_cons_of_mem now hlater))
          hroom'.le (.inl hroom'),
        List.length_cons, List.range_succ_eq_map, List.map_cons, List.map_map]
      refine congrArg _ (List.map_congr_left fun i _ => ?_)
      simp only [Function.comp_apply, Nat.succ_eq_add_one, Nat.lt_sub_iff_add_lt, Nat.sub_sub,
        Nat.add_comm 1]

/-! ### Keys that were never used -/

/-- **A key that was never used grants as many calls as its bucket has tokens.** If all calls come
before one token has come back since the first, in any order and by clocks that may run back, they
count the tokens down and are granted until there is none left; all further ones are refused. -/
theorem burst_of_unused (limits : Limits) (first : Nat) (later : List Nat)
    (hwindow : ∀ now ∈ first :: later, (now : Rat) < first + limits.rate) :
    ((({} : Bucket Rat).run limits (first :: later)).1.map fun v => (v.remaining, v.allowed)) =
      (List.range (first :: later).length).map fun i =>
        (((limits.tokens - (i + 1) : Nat) : Rat), decide (i < limits.tokens)) := by
  have hfull : (full limits first).Holds first
      (limits.tokens + ((first : Rat) - first) / limits.rate) := by
    rw [sub_self, zero_div, add_zero]
    exact holds_full limits first
  rw [run_empty]
  exact hfull.countdown le_rfl (hwindow first List.mem_cons_self) hwindow le_rfl
    (.inr fun now hnow => (Option.some.inj hnow).ge)

/-- Three tokens in 30 nanoseconds, called at 100 and then, by clocks that differ, at 95, 109, 104
and 108. -/
theorem burst_of_unused_backward :
    let limits : Limits := ⟨3, .ofNanos 30, 1, by decide, by decide, by decide⟩
    let times : List Nat := [100, 95, 109, 104, 108]
    (∀ now ∈ times, (now : Rat) < (100 : Nat) + limits.rate) ∧
      ((({} : Bucket Rat).run limits times).1.map fun v => (v.remaining, v.allowed)) =
        [(2, true), (1, true), (0, true), (0, false), (0, false)] := by
  intro limits times
  have hrate : (limits.rate : Rat) = 10 := by
    rw [Limits.rate_rat]
    norm_num [limits, Duration.toNanos, Duration.ofNanos]
  have hwindow : ∀ now ∈ times, (now : Rat) < (100 : Nat) + limits.rate := by
    rw [hrate]
    norm_num [times]
  exact ⟨hwindow, burst_of_unused limits 100 [95, 109, 104, 108] hwindow⟩

/-! ### After a call that was refused -/

/-- A burst of calls at one time, not before the stored one, is granted the whole tokens that the
first call finds. -/
theorem Holds.burst (h : b.Holds stamp tokens) (hnow : stamp ≤ now) {present : Rat}
    (hpresent : found limits stamp tokens now = present) (hnonneg : 0 ≤ present)
    (hfull : present ≤ limits.tokens) (n : Nat) :
    (b.run limits (List.replicate n now)).1.map Verdict.allowed =
      (List.range n).map fun i => decide (i < ⌊present⌋₊) := by
  have hrate := limits.rate_rat_pos
  -- The fraction of a token that is there has come back since this time.
  let origin : Rat := now - (present - ⌊present⌋₊) * limits.rate
  have hfraction : ((now - origin) / limits.rate : Rat) = present - ⌊present⌋₊ := by
    rw [sub_sub_cancel, mul_div_cancel_right₀ _ hrate.ne']
  have hle : origin ≤ now :=
    sub_le_self _ (mul_nonneg (sub_nonneg.mpr (Nat.floor_le hnonneg)) hrate.le)
  have hlt : now < origin + limits.rate := by
    have hless := mul_lt_of_lt_one_left hrate
      (sub_lt_iff_lt_add'.mpr (Nat.lt_floor_add_one present))
    linarith
  have hrefilled : (holding now present).Holds now
      (⌊present⌋₊ + (now - origin) / limits.rate) := by
    rw [hfraction, add_sub_cancel]
    exact holds_holding now present
  have heq {later : Nat} (hmem : later ∈ List.replicate n now) : later = now :=
    (List.mem_replicate.mp hmem).2
  have hcount := hrefilled.countdown hle hlt (fun later hlater => heq hlater ▸ hlt)
    (Nat.floor_le_of_le hfull) (.inr fun later hlater => (heq (List.mem_of_mem_head? hlater)).le)
  have hsame := h.run_refilled (hpresent.symm ▸ holds_holding now present) hnow
    fun later hlater => (heq (List.mem_of_mem_head? hlater)).ge
  rw [hpresent] at hsame
  have hallowed := congrArg (List.map Prod.snd) hcount
  rwa [List.map_map, List.map_map, List.length_replicate, hsame.1] at hallowed

/-- **What a burst is granted after a call that was refused.** On a bucket that calls have left,
with whatever limits, a call is refused that does not come before the stored time.  Then a burst of
calls at one time, not before that of the call, is granted the whole tokens that the refused call
has left and that have come back since, or a full bucket if that is less; all further calls of the
burst are refused.  So one at least is granted once the time of one token has passed, and exactly
one is when it has just passed. -/
theorem burst_after_refused (limits : Limits) (b : Bucket Rat) (hb : b.Reachable Set.univ)
    (now : Nat) (hstart : ∀ start level, b.level? = some (start, level) → start ≤ now)
    (hrefused : (b.take limits now).1.allowed = false) :
    ∃ rest, (b.take limits now).2.level? = some (↑now, rest) ∧ ∀ later : Nat, now ≤ later →
      let quota := min limits.tokens ⌊rest + (later - now) / limits.rate⌋₊
      (∀ n, ((b.take limits now).2.run limits (List.replicate n later)).1.map Verdict.allowed =
          (List.range n).map fun i => decide (i < quota)) ∧
        (limits.rate ≤ (later - now : Rat) → 1 ≤ quota) ∧
        ((later - now : Rat) = limits.rate → quota = 1) := by
  rcases hb.eq_empty_or_holds with rfl | ⟨stamp, tokens, hholds, htokens⟩
  · cases (allowed_take_empty limits now).symm.trans hrefused
  have hnow : stamp ≤ now := by exact_mod_cast hstart _ _ hholds.level?
  obtain ⟨hafter, hless⟩ := hholds.holds_take_of_refused hnow hrefused
  have hnonneg := found_nonneg limits stamp now htokens
  generalize (b.take limits now).2 = b' at hafter ⊢
  generalize found limits stamp tokens now = rest at hafter hless hnonneg
  have hrate := limits.rate_rat_pos
  refine ⟨rest, hafter.level?, fun later hlater => ?_⟩
  have hback : (0 : Rat) ≤ (later - now) / limits.rate :=
    div_nonneg (sub_nonneg.mpr (Nat.cast_le.mpr hlater)) hrate.le
  have hfound := found_eq_min hlater (hless.le.trans (Nat.one_le_cast.mpr limits.tokens_pos))
  have hquota : ⌊min (rest + (later - now) / limits.rate) (limits.tokens : Rat)⌋₊ =
      min limits.tokens ⌊rest + (later - now) / limits.rate⌋₊ := by
    rw [Nat.floor_mono.map_min, Nat.floor_natCast, min_comm]
  refine ⟨fun n => ?_, fun hpassed => ?_, fun hjust => ?_⟩
  · rw [← hquota]
    exact hafter.burst hlater hfound (le_min (add_nonneg hnonneg hback) limits.tokens_rat_pos.le)
      (min_le_right _ _) n
  · have hone : 1 ≤ ((later - now) / limits.rate : Rat) := (one_le_div hrate).mpr hpassed
    refine le_min limits.tokens_pos (Nat.le_floor ?_)
    rw [Nat.cast_one]
    linarith
  · rw [hjust, div_self hrate.ne', Nat.floor_add_one hnonneg, Nat.floor_eq_zero.mpr hless]
    exact min_eq_right limits.tokens_pos

/-- Two tokens in 30 nanoseconds are taken at 100, and a call at 110 is refused when two thirds of a
token have come back.  The time of one token later, a burst of three calls is granted one. -/
theorem burst_after_refused_early :
    let limits : Limits := ⟨2, .ofNanos 30, 1, by decide, by decide, by decide⟩
    let b := ((({} : Bucket Rat).take limits 100).2.take limits 100).2
    b.Reachable Set.univ ∧ (∀ start level, b.level? = some (start, level) → start ≤ (110 : Nat)) ∧
      (b.take limits 110).1.allowed = false ∧
      ((b.take limits 110).2.run limits [125, 125, 125]).1.map Verdict.allowed =
        [true, false, false] := by
  intro limits b
  have hb : b.Reachable Set.univ :=
    .take (.take .empty (Set.mem_univ limits) 100) (Set.mem_univ limits) 100
  have hholds : b.Holds 100 (0 : Nat) := by
    have hfull : (full limits 100).Holds 100 (2 : Nat) := holds_full limits 100
    have htaken := (hfull.holds_take_natCast limits).holds_take_natCast limits
    rwa [← take_empty] at htaken
  clear_value b
  have hrate : (limits.rate : Rat) = 15 := by
    rw [Limits.rate_rat]
    norm_num [limits, Duration.toNanos, Duration.ofNanos]
  have hstart : ∀ start level, b.level? = some (start, level) → start ≤ (110 : Nat) := by
    intro start level hlevel
    rw [hholds.level?] at hlevel
    cases hlevel
    norm_num
  have hrefused : (b.take limits 110).1.allowed = false := by
    rw [hholds.allowed_take, found_of_lt (by decide), hrate]
    norm_num
  obtain ⟨rest, hrest, hburst⟩ := burst_after_refused limits b hb 110 hstart hrefused
  obtain ⟨hcount, -, hjust⟩ := hburst 125 (by decide)
  refine ⟨hb, hstart, hrefused, ?_⟩
  have hquota := hcount 3
  rw [hjust (by rw [hrate]; norm_num)] at hquota
  exact hquota

end RateLimit.Bucket
