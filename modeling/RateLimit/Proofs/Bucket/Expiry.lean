import RateLimit.Proofs.Bucket.Refill
import RateLimit.Proofs.Bucket.Reset
import RateLimit.Proofs.Bucket.Sharing

/-!
# Buckets that expire

The server may drop the record of a bucket that has been idle for as long as its limits say.  An
empty bucket is full again after one interval, so a record that is kept for at least an interval is
dropped only when the bucket is full, and a call cannot tell whether it was.  A configuration keeps
it that long whenever its interval is shorter than a second, and by default as long as ten times the
whole seconds of the interval fit in a 64-bit word.  Beyond that the product wraps around, and a
record may be dropped while the bucket is empty.

## Main results

* `Bucket.Holds.take_of_idle` : a call on a bucket that was idle for an interval.
* `Config.interval_le_ttl` : configurations that keep a record for at least an interval.
* `Config.ttl_eq_iff` : when a record is kept for ten times the interval by default.
* `Buckets.take_erase_of_expired` : dropping a record that has expired makes no difference.
* `Buckets.not_take_erase_of_expired` : a default with which dropping a record hands out a token.
* `Bucket.exists_findsFull_of_expired` : so does every lifetime below the interval.
-/

namespace RateLimit

variable {limits : Limits}

/-! ### Buckets that are full again -/

/-- In one interval all the tokens of a bucket come back. -/
theorem Limits.tokens_le_elapsed {elapsed : Rat} (limits : Limits)
    (h : limits.interval.toNanos ≤ elapsed) : (limits.tokens : Rat) ≤ elapsed / limits.rate := by
  rw [le_div_iff₀ limits.rate_rat_pos, limits.rate_rat,
    mul_div_cancel₀ _ limits.tokens_rat_pos.ne']
  exact h

namespace Bucket

variable {b : Bucket Rat} {stamp now : Nat} {tokens : Rat}

/-- A bucket is found full after one interval. -/
theorem found_of_idle (htokens : 0 ≤ tokens) (hidle : stamp + limits.interval.toNanos ≤ now) :
    found limits stamp tokens now = limits.tokens := by
  have hlt : stamp < now := (Nat.lt_add_of_pos_right limits.interval_pos).trans_le hidle
  have helapsed : (limits.interval.toNanos : Rat) ≤ now - stamp := by
    rw [le_sub_iff_add_le']
    exact_mod_cast hidle
  rw [found_of_lt hlt]
  exact min_eq_right ((limits.tokens_le_elapsed helapsed).trans (le_add_of_nonneg_left htokens))

/-- A call on a bucket that was idle for one interval is a call on a key that was never used. -/
theorem Holds.take_of_idle (h : b.Holds stamp tokens) (htokens : 0 ≤ tokens)
    (hidle : stamp + limits.interval.toNanos ≤ now) :
    b.take limits now = ({} : Bucket Rat).take limits now := by
  have hle : stamp ≤ now := (Nat.le_add_right _ _).trans hidle
  have hleft : left limits stamp tokens now = left limits now limits.tokens now := by
    rw [left, left, found_of_idle htokens hidle, found_self]
  rw [take_empty, h.take, (holds_full limits now).take, hleft, found_of_idle htokens hidle,
    found_self, max_eq_right hle, max_self]

end Bucket

/-! ### How long a record is kept -/

namespace Config

variable {config : Config}

/-- What the interval and the lifetime of a configuration come to. -/
theorem interval_ttl_of_limits (hlimits : config.limits = .ok limits) :
    limits.interval = config.resolvedInterval ∧ limits.ttl = config.resolvedTtl := by
  unfold Config.limits at hlimits
  split at hlimits
  · obtain rfl := Except.ok.inj hlimits
    exact ⟨rfl, rfl⟩
  · cases hlimits

/-- The default for the lifetime of a record is a product of 64-bit words. -/
theorem ttl_of_default (hlimits : config.limits = .ok limits) (hdefault : config.ttl = 0) :
    limits.ttl = 10 * limits.interval.secs % UInt64.size := by
  obtain ⟨hinterval, httl⟩ := interval_ttl_of_limits hlimits
  rw [httl, hinterval, resolvedTtl, orDefault, hdefault, if_neg (Nat.lt_irrefl 0)]

/-- By default a record is kept for ten times the whole seconds of the interval exactly if these fit
in a 64-bit word. -/
theorem ttl_eq_iff (hlimits : config.limits = .ok limits) (hdefault : config.ttl = 0) :
    limits.ttl = 10 * limits.interval.secs ↔ 10 * limits.interval.secs < UInt64.size := by
  rw [ttl_of_default hlimits hdefault]
  exact Nat.mod_eq_iff_lt (by decide)

/-- A record is kept for at least an interval if its configuration does not say how long it is kept
and the default fits in a 64-bit word, or if its interval is less than a second. -/
theorem interval_le_ttl (hlimits : config.limits = .ok limits)
    (h : config.ttl = 0 ∧ 10 * limits.interval.secs < UInt64.size ∨
      config.interval.toNanos < 10 ^ 9) :
    limits.interval.toNanos ≤ limits.ttl * 10 ^ 9 := by
  have hpos := limits.ttl_pos
  rcases h with ⟨hdefault, hword⟩ | hshort
  · -- Ten times the whole seconds are enough, since there is at least one of them.
    have httl := (ttl_eq_iff hlimits hdefault).mpr hword
    have hnanos := limits.interval.nanos_lt
    rw [Duration.toNanos]
    omega
  · have hinterval : limits.interval.toNanos ≤ 10 ^ 9 := by
      rw [(interval_ttl_of_limits hlimits).1, resolvedInterval]
      split
      · exact hshort.le
      · exact le_rfl
    exact hinterval.trans (Nat.le_mul_of_pos_left _ hpos)

end Config

namespace Buckets

variable {buckets : Buckets Rat} {key : Bytes}

theorem get_erase (buckets : Buckets Rat) (key : Bytes) : (buckets.erase key).get key = {} := by
  rw [get, erase, lookup_filter_ne, if_pos rfl, Option.getD_none]

/-- A record that is put in the place of another is the same if the other was dropped before. -/
theorem set_erase (buckets : Buckets Rat) (key : Bytes) (bucket : Bucket Rat) :
    (buckets.erase key).set key bucket = buckets.set key bucket := by
  rw [set, set, erase, erase, List.filter_filter]
  simp only [Bool.and_self]

theorem get_take (buckets : Buckets Rat) (limits : Limits) (key : Bytes) (now : Nat) :
    (buckets.take limits key now).2.get key = ((buckets.get key).take limits now).2 := by
  rw [take, get_set, if_pos rfl]

/-- **Expiry grants nothing.** A configuration keeps a record for at least an interval if it does
not say how long and ten times the whole seconds of the interval fit in a 64-bit word, which is also
exactly when it keeps the record for that long by default; and it keeps it for at least an interval
if that is shorter than a second.  If it keeps a record that long, the record of a key is one that
calls have left, and a call comes when the record has been idle for as long as it is kept: then the
call is answered, and leaves the buckets of the server, as if the record had been dropped before. -/
theorem take_erase_of_expired (config : Config) (limits : Limits)
    (hlimits : config.limits = .ok limits) :
    (config.ttl = 0 ∧ 10 * limits.interval.secs < UInt64.size ∨
        config.interval.toNanos < 10 ^ 9 →
      limits.interval.toNanos ≤ limits.ttl * 10 ^ 9) ∧
    (config.ttl = 0 →
      (limits.ttl = 10 * limits.interval.secs ↔ 10 * limits.interval.secs < UInt64.size)) ∧
    (limits.interval.toNanos ≤ limits.ttl * 10 ^ 9 →
      ∀ (buckets : Buckets Rat) (key : Bytes), (buckets.get key).Reachable Set.univ →
        ∀ start level, (buckets.get key).level? = some (start, level) →
          ∀ now : Nat, start + limits.ttl * 10 ^ 9 ≤ now →
            (buckets.get key).take limits now = ({} : Bucket Rat).take limits now ∧
            (buckets.erase key).take limits key now = buckets.take limits key now) := by
  refine ⟨Config.interval_le_ttl hlimits, Config.ttl_eq_iff hlimits, ?_⟩
  intro hkept buckets key hreachable start level hlevel now hexpired
  have htake : (buckets.get key).take limits now = ({} : Bucket Rat).take limits now := by
    rcases hreachable.eq_empty_or_holds with hempty | ⟨stamp, tokens, hholds, htokens⟩
    · rw [hempty]
    · obtain ⟨rfl, rfl⟩ := Prod.mk.inj (Option.some.inj (hholds.level?.symm.trans hlevel))
      have hidle : stamp + limits.ttl * 10 ^ 9 ≤ now := by exact_mod_cast hexpired
      exact hholds.take_of_idle htokens ((Nat.add_le_add_left hkept stamp).trans hidle)
  refine ⟨htake, ?_⟩
  simp only [take, get_erase, htake, set_erase]

/-- Three tokens in a second and a half, whose records are kept for ten seconds by default: one is
taken at 100 seconds, and the next call comes ten seconds later. -/
theorem take_erase_of_expired_default :
    let limits : Limits := ⟨3, .ofMillis 1500, 10, by decide, by decide, by decide⟩
    let key := Bytes.ofString "k"
    let buckets := (take ({} : Buckets Rat) limits key 100000000000).2
    Config.limits { tokens := 3, interval := .ofMillis 1500 } = .ok limits ∧
      limits.interval.toNanos ≤ limits.ttl * 10 ^ 9 ∧
      (buckets.get key).level? = some (100000000000, 2) ∧
      (buckets.erase key).take limits key 110000000000 =
        buckets.take limits key 110000000000 := by
  intro limits key buckets
  have hlimits : Config.limits { tokens := 3, interval := .ofMillis 1500 } = .ok limits := by
    decide
  have hget : buckets.get key = (({} : Bucket Rat).take limits 100000000000).2 :=
    get_take {} limits key 100000000000
  have hreachable : (buckets.get key).Reachable Set.univ := by
    rw [hget]
    exact .take .empty (Set.mem_univ limits) _
  have hlevel : (buckets.get key).level? = some (100000000000, 2) := by
    have hfull : (Bucket.full limits 100000000000).Holds 100000000000 (3 : Nat) :=
      Bucket.holds_full limits _
    rw [hget, Bucket.take_empty, (hfull.holds_take_natCast limits).level?]
    norm_num
  obtain ⟨hkept, -, hexpired⟩ := take_erase_of_expired _ limits hlimits
  have hlong := hkept (.inl ⟨rfl, by decide⟩)
  exact ⟨hlimits, hlong, hlevel,
    (hexpired hlong buckets key hreachable _ _ hlevel 110000000000 (by norm_num [limits])).2⟩

/-- Ten times the seconds of this interval are four more than a 64-bit word can count, so that its
records are kept for four seconds by default.  The one token is taken at the beginning; four seconds
later a call is refused if the record is still there, and granted if it was dropped. -/
theorem not_take_erase_of_expired :
    let interval : Duration := .ofSecs 1844674407370955162
    let limits : Limits := ⟨1, interval, 4, by decide, by decide +kernel, by decide⟩
    let key := Bytes.ofString "k"
    let buckets := (take ({} : Buckets Rat) limits key 0).2
    Config.limits { interval } = .ok limits ∧
      limits.ttl * 10 ^ 9 < limits.interval.toNanos ∧
      (buckets.get key).Reachable {limits} ∧ (buckets.get key).level? = some (0, 0) ∧
      (buckets.take limits key 4000000000).1.allowed = false ∧
      ((buckets.erase key).take limits key 4000000000).1.allowed = true := by
  intro interval limits key buckets
  have hget : buckets.get key = (({} : Bucket Rat).take limits 0).2 := get_take {} limits key 0
  have hholds : (buckets.get key).Holds 0 (0 : Nat) := by
    have hfull : (Bucket.full limits 0).Holds 0 (1 : Nat) := Bucket.holds_full limits 0
    rw [hget, Bucket.take_empty]
    exact hfull.holds_take_natCast limits
  have hrate : (limits.rate : Rat) = 1844674407370955162000000000 := by
    rw [Limits.rate_rat]
    norm_num [limits, interval, Duration.toNanos, Duration.ofSecs]
  refine ⟨by decide +kernel, by decide +kernel, ?_, ?_, ?_, ?_⟩
  · rw [hget]
    exact .take .empty (Set.mem_singleton limits) 0
  · exact_mod_cast hholds.level?
  · rw [take, hholds.allowed_take, Bucket.found_of_lt (by decide), hrate]
    norm_num [limits]
  · rw [take, get_erase, Bucket.take_empty, (Bucket.holds_full limits _).allowed_take,
      Bucket.found_self]
    norm_num [limits]

end Buckets

/-! ### Records that are dropped too early -/

namespace Bucket

theorem Holds.holds_run_replicate {b : Bucket Rat} {now tokens : Nat} (h : b.Holds now tokens)
    (limits : Limits) (n : Nat) :
    (b.run limits (List.replicate n now)).2.Holds now (tokens - n : Nat) := by
  induction n generalizing b tokens with
  | zero => exact h
  | succ n ih =>
      rw [List.replicate_succ, run_cons, Nat.add_comm n 1, ← Nat.sub_sub]
      exact ih (h.holds_take_natCast limits)

theorem Reachable.run {among : Set Limits} {b : Bucket Rat} (h : b.Reachable among)
    (hlimits : limits ∈ among) (times : List Nat) : (b.run limits times).2.Reachable among := by
  induction times generalizing b with
  | nil => exact h
  | cons now times ih => exact ih (.take h hlimits now)

/-- If a record is kept for less than an interval, there is a bucket that is not full when its
record expires, so that dropping the record hands out tokens. -/
theorem exists_findsFull_of_expired (limits : Limits)
    (hshort : limits.ttl * 10 ^ 9 < limits.interval.toNanos) :
    ∃ b : Bucket Rat, b.Reachable {limits} ∧ b.level? = some (0, 0) ∧
      ¬ b.FindsFull limits (limits.ttl * 10 ^ 9) ∧
      ({} : Bucket Rat).FindsFull limits (limits.ttl * 10 ^ 9) := by
  -- All the tokens are taken at once, and an interval has to pass until they are back.
  obtain ⟨n, hn⟩ := Nat.exists_eq_add_one_of_ne_zero limits.tokens_pos.ne'
  have hholds : (({} : Bucket Rat).run limits (0 :: List.replicate n 0)).2.Holds 0 (0 : Nat) := by
    have htaken := (holds_full limits 0).holds_run_replicate limits limits.tokens
    rwa [Nat.sub_self, hn, List.replicate_succ, ← run_empty] at htaken
  rw [Nat.cast_zero] at hholds
  refine ⟨_, Reachable.empty.run (Set.mem_singleton limits) (0 :: List.replicate n 0), ?_, ?_, ?_⟩
  · exact_mod_cast hholds.level?
  · rw [hholds.findsFull_iff limits.tokens_rat_pos, limits.rate_rat, sub_zero,
      mul_div_cancel₀ _ limits.tokens_rat_pos.ne', Nat.cast_zero, zero_add, Nat.cast_le, not_le]
    exact hshort
  · rw [FindsFull, take_empty]
    exact ((holds_full limits _).findsFull_iff_found le_rfl).mpr (found_self limits _ _)

end Bucket

end RateLimit
