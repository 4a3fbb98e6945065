import RateLimit.Proofs.Bucket.Sharing

/-!
# Records that cannot be read

A call on a record of which the time or the tokens cannot be read is answered as on a full bucket
that was refilled just now, and leaves the tokens that it would leave there.  But it leaves the
stored time alone, if there is one, because the time of the call is not later than the one that
stands in for it.  So the record afterwards is that of a new bucket only if no time was stored, or
the very time of the call; and a stored time that cannot be read stays for ever, so that every later
call finds a full bucket.

## Main definitions

* `Bucket.Unreadable` : a record of which the time or the tokens cannot be read.

## Main results

* `Bucket.take_of_level?_eq_none` : a call on a record that cannot be read.
* `Bucket.Holds.serve_replicate` : calls at one time count down.
* `Bucket.serve_of_unreadable_stamp` : a stored time that cannot be read is never replaced.
* `Bucket.take_of_unreadable` : how a call on a record that cannot be read compares with a call on a
  key that was never used.
* `Bucket.not_take_of_unreadable` : a record on which every call finds a full bucket.
-/

namespace RateLimit.Bucket

/-! ### Any kind of numbers -/

section Quantity

variable {α : Type} [Quantity α]

/-- The time of a record or its tokens are missing, or are a text that spells nothing that is read
as a number. -/
def Unreadable (b : Bucket α) : Prop :=
  (∀ text, b.stamp = some text → Decimal.Spelled.read? text = none) ∨
    ∀ field, b.tokens = some field →
      ∃ text, field = .text text ∧ Decimal.Spelled.read? text = none

theorem number?_of_read?_eq_none {text : String} (h : Decimal.Spelled.read? text = none) :
    (number? text : Option α) = none := by
  rw [number?, h]
  rfl

theorem level?_eq_none_of_stamp {b : Bucket α} (h : b.stamp.bind (number? (α := α)) = none) :
    b.level? = none := by
  rw [level?, h]
  rfl

/-- A record that cannot be read holds no time and tokens of any kind of numbers. -/
theorem Unreadable.level? {b : Bucket α} (h : b.Unreadable) : b.level? = none := by
  rcases h with hstamp | htokens
  · refine level?_eq_none_of_stamp (Option.bind_eq_none_iff.mpr fun text htext => ?_)
    exact number?_of_read?_eq_none (hstamp text htext)
  · have hvalue : b.tokens.bind fieldValue? = none := by
      refine Option.bind_eq_none_iff.mpr fun field hfield => ?_
      obtain ⟨text, rfl, htext⟩ := htokens field hfield
      exact number?_of_read?_eq_none htext
    rw [Bucket.level?, hvalue]
    cases b.stamp.bind (number? (α := α)) <;> rfl

/-- If there is a number for all that can be spelled, every other record holds time and tokens. -/
theorem level?_eq_none_iff
    (htotal : ∀ spelled, (Quantity.ofSpelled? spelled : Option α) ≠ none) {b : Bucket α} :
    b.level? = none ↔ b.Unreadable := by
  have hread {text : String} (h : (number? text : Option α) = none) :
      Decimal.Spelled.read? text = none := by
    rw [number?, Option.bind_eq_none_iff] at h
    exact Option.eq_none_iff_forall_ne_some.mpr fun spelled heq => htotal spelled (h spelled heq)
  refine ⟨fun h => ?_, Unreadable.level?⟩
  rcases hstamp : b.stamp.bind (number? (α := α)) with _ | last
  · exact .inl fun text htext => hread (Option.bind_eq_none_iff.mp hstamp text htext)
  · rw [Bucket.level?, hstamp] at h
    refine .inr fun field hfield => ?_
    rcases field with text | value
    · rw [hfield] at h
      rcases hnumber : (number? text : Option α) with _ | tokens
      · exact ⟨text, rfl, hread hnumber⟩
      · simp [fieldValue?, hnumber] at h
    · simp [fieldValue?, hfield] at h

/-- Doubles cannot be read of a record exactly if it spells nothing that is read as a number. -/
theorem level?_eq_none_iff_float {b : Bucket Float} : b.level? = none ↔ b.Unreadable :=
  level?_eq_none_iff fun spelled h => by cases spelled <;> cases h

theorem number?_toString_eq (n : Nat) :
    (number? (toString n) : Option α) = some (Quantity.ofNat n) := by
  rw [number?, Decimal.Spelled.read?_toString]
  rfl

variable [Add α] [Sub α] [Mul α] [Div α] [LT α] [LE α] [DecidableLT α] [DecidableLE α]
  {b : Bucket α}

/-- A call on a record that cannot be read is answered as on a key that was never used, and leaves
the same tokens and the same expiry; it leaves the time of the call if none is stored. -/
theorem take_of_level?_eq_none (limits : Limits) (now : Nat) (h : b.level? = none) :
    (b.take limits now).1 = (({} : Bucket α).take limits now).1 ∧
      (b.take limits now).2.tokens = (({} : Bucket α).take limits now).2.tokens ∧
      (b.take limits now).2.expiry = (({} : Bucket α).take limits now).2.expiry ∧
      (b.stamp.getD (toString now) = toString now →
        b.take limits now = ({} : Bucket α).take limits now) := by
  have hempty : ({} : Bucket α).level? = none := rfl
  unfold take
  rw [h, hempty]
  dsimp only [Option.getD_none]
  split
  · exact ⟨rfl, rfl, rfl, fun _ => rfl⟩
  · refine ⟨rfl, rfl, rfl, fun hstamp => ?_⟩
    rw [hstamp]

/-- What a call on a key that was never used leaves can be read. -/
theorem level?_take_empty (limits : Limits) (now : Nat) :
    ∃ tokens, (({} : Bucket α).take limits now).2.level? = some (Quantity.ofNat now, tokens) := by
  have hempty : ({} : Bucket α).level? = none := rfl
  simp only [take, hempty, Option.getD_none]
  split
  all_goals
    simp only [level?, Option.bind_some, number?_toString_eq, fieldValue?]
    exact ⟨_, rfl⟩

end Quantity

/-! ### Rational numbers -/

variable {limits : Limits} {b : Bucket Rat} {now : Nat}

/-- The time that a call leaves on a record that cannot be read is the stored one, if there is
one. -/
theorem stamp_take_of_level?_eq_none (limits : Limits) (now : Nat) (h : b.level? = none) :
    (b.take limits now).2.stamp = some (b.stamp.getD (toString now)) := by
  unfold take
  rw [h]
  dsimp only [Option.getD_none]
  rw [if_neg (by simp)]

/-- A call at the time of the last refill tells the whole tokens left, and is granted if there was
one. -/
theorem Holds.remaining_allowed_take_natCast {tokens : Nat} (h : b.Holds now tokens)
    (limits : Limits) :
    (b.take limits now).1.remaining = (tokens - 1 : Nat) ∧
      (b.take limits now).1.allowed = decide (0 < tokens) := by
  have hfound : found limits now tokens now = tokens := if_neg (lt_irrefl now)
  constructor
  · rw [h.take, left_natCast, ← Int.cast_natCast (tokens - 1), Rat.floor_intCast]
  · rw [h.allowed_take, hfound]
    exact decide_eq_decide.mpr Nat.one_le_cast

/-- Calls at the time of the last refill count the tokens down, and are refused once there are
none. -/
theorem Holds.serve_replicate {tokens : Nat} (h : b.Holds now tokens) (limits : Limits) (n : Nat) :
    ((b.serve (List.replicate n ⟨limits, now⟩)).1.map fun v => (v.remaining, v.allowed)) =
      (List.range n).map fun i => (((tokens - (i + 1) : Nat) : Rat), decide (i < tokens)) := by
  induction n generalizing b tokens with
  | zero => rfl
  | succ n ih =>
      obtain ⟨hremaining, hallowed⟩ := h.remaining_allowed_take_natCast limits
      rw [List.replicate_succ, serve_cons, List.map_cons, ih (h.holds_take_natCast limits),
        hremaining, hallowed, List.range_succ_eq_map, List.map_cons, List.map_map]
      refine congrArg _ (List.map_congr_left fun i _ => ?_)
      simp only [Function.comp_apply, Nat.succ_eq_add_one, Nat.lt_sub_iff_add_lt, Nat.sub_sub,
        Nat.add_comm 1]

/-- On a record with a time that cannot be read every call, whatever its limits and its time, is
answered as on a key that was never used, and the time stays as it is. -/
theorem serve_of_unreadable_stamp {text : String} (hstamp : b.stamp = some text)
    (htext : (number? text : Option Rat) = none) (calls : List Call) :
    (b.serve calls).1 = calls.map (fun call => (({} : Bucket Rat).take call.limits call.now).1) ∧
      (b.serve calls).2.stamp = some text := by
  induction calls generalizing b with
  | nil => exact ⟨rfl, hstamp⟩
  | cons call calls ih =>
      have hlevel : b.level? = none :=
        level?_eq_none_of_stamp (by rw [hstamp, Option.bind_some, htext])
      have hafter : (b.take call.limits call.now).2.stamp = some text := by
        rw [stamp_take_of_level?_eq_none _ _ hlevel, hstamp, Option.getD_some]
      obtain ⟨hverdicts, hstamp'⟩ := ih hafter
      rw [serve_cons, hverdicts, (take_of_level?_eq_none _ _ hlevel).1]
      exact ⟨rfl, hstamp'⟩

theorem stamp_take_empty (limits : Limits) (now : Nat) :
    (({} : Bucket Rat).take limits now).2.stamp = some (toString now) :=
  stamp_take_of_level?_eq_none limits now rfl

/-- **Records that cannot be read.** A server that computes with doubles reads exactly the records
of which the time and the tokens spell something that is read as a number.  Whatever numbers the
server computes with, a call on any other record is answered as on a key that was never used, and
leaves the same tokens and the same expiry.  If no time is stored, or the very time of the call, it
also leaves the same time, so that both fields can be read afterwards and every later call goes as
on that key.

With rational numbers this is the only case in which the record afterwards is the same; the calls at
this time then count the tokens down; and a stored time that cannot be read stays, so that every
later call is answered as on a key that was never used. -/
theorem take_of_unreadable (limits : Limits) (now : Nat) :
    (∀ b : Bucket Float, b.level? = none ↔ b.Unreadable) ∧
    (∀ (α : Type) [Quantity α] [Add α] [Sub α] [Mul α] [Div α] [LT α] [LE α] [DecidableLT α]
        [DecidableLE α] (b : Bucket α), b.Unreadable →
      let fresh := ({} : Bucket α).take limits now
      (b.take limits now).1 = fresh.1 ∧ (b.take limits now).2.tokens = fresh.2.tokens ∧
        (b.take limits now).2.expiry = fresh.2.expiry ∧
        (b.stamp = none ∨ b.stamp = some (toString now) →
          b.take limits now = fresh ∧
            (∃ tokens, (b.take limits now).2.level? = some (Quantity.ofNat now, tokens)) ∧
            ∀ calls, b.serve (⟨limits, now⟩ :: calls) =
              ({} : Bucket α).serve (⟨limits, now⟩ :: calls))) ∧
    ∀ b : Bucket Rat, b.Unreadable →
      (b.take limits now = ({} : Bucket Rat).take limits now ↔
        b.stamp = none ∨ b.stamp = some (toString now)) ∧
      (b.stamp = none ∨ b.stamp = some (toString now) → ∀ n,
        ((b.serve (List.replicate n ⟨limits, now⟩)).1.map fun v => (v.remaining, v.allowed)) =
          (List.range n).map fun i =>
            (((limits.tokens - (i + 1) : Nat) : Rat), decide (i < limits.tokens))) ∧
      ∀ text, b.stamp = some text → Decimal.Spelled.read? text = none → ∀ calls : List Call,
        (b.serve calls).1 =
            calls.map (fun call => (({} : Bucket Rat).take call.limits call.now).1) ∧
          (b.serve calls).2.stamp = some text := by
  have hgetD {α : Type} {b : Bucket α} (h : b.stamp = none ∨ b.stamp = some (toString now)) :
      b.stamp.getD (toString now) = toString now := by
    rcases h with h | h <;> rw [h] <;> rfl
  refine ⟨fun b => level?_eq_none_iff_float, fun α => ?_, fun b hb => ?_⟩
  · intro _ _ _ _ _ _ _ _ _ b hb fresh
    obtain ⟨hverdict, htokens, hexpiry, hsame⟩ := take_of_level?_eq_none limits now hb.level?
    refine ⟨hverdict, htokens, hexpiry, fun hstamp => ?_⟩
    have hfresh := hsame (hgetD hstamp)
    refine ⟨hfresh, ?_, fun calls => ?_⟩
    · rw [hfresh]
      exact level?_take_empty limits now
    · rw [serve_cons, serve_cons, hfresh]
  · have hlevel := hb.level?
    obtain ⟨-, -, -, hsame⟩ := take_of_level?_eq_none limits now hlevel
    refine ⟨⟨fun heq => ?_, fun hstamp => hsame (hgetD hstamp)⟩, fun hstamp n => ?_,
      fun text htext hread calls =>
        serve_of_unreadable_stamp htext (number?_of_read?_eq_none hread) calls⟩
    · -- The time that the call leaves is the stored one, and on the other key that of the call.
      have hafter := stamp_take_of_level?_eq_none limits now hlevel
      rw [heq, stamp_take_empty] at hafter
      rcases hstamp : b.stamp with _ | text
      · exact .inl rfl
      · rw [hstamp, Option.getD_some] at hafter
        exact .inr hafter.symm
    · have hfull := (holds_full limits now).serve_replicate limits n
      rw [← hfull]
      cases n with
      | zero => rfl
      | succ n =>
          rw [List.replicate_succ, serve_cons, serve_cons, hsame (hgetD hstamp), take_empty]

/-- Tokens that spell no number, without a time, in a bucket of two tokens: two calls are granted,
and the third is refused. -/
theorem take_of_unreadable_tokens :
    let limits : Limits := ⟨2, .ofSecs 1, 10, by decide, by decide, by decide⟩
    let b : Bucket Rat := { tokens := some (.text "many") }
    b.Unreadable ∧
      b.take limits 100 = ({} : Bucket Rat).take limits 100 ∧
      ((b.serve (List.replicate 3 ⟨limits, 100⟩)).1.map fun v => (v.remaining, v.allowed)) =
        [(1, true), (0, true), (0, false)] := by
  intro limits b
  have hb : b.Unreadable := .inl fun text htext => by cases htext
  obtain ⟨hsame, hcount, -⟩ := (take_of_unreadable limits 100).2.2 b hb
  refine ⟨hb, hsame.mpr (.inl rfl), ?_⟩
  rw [hcount (.inl rfl) 3]
  rfl

/-- A stored time that spells no number, in a bucket of two tokens: the call at 100 leaves that time
and not its own, and the next call at 100 is told once more that one token is left. -/
theorem not_take_of_unreadable :
    let limits : Limits := ⟨2, .ofSecs 1, 10, by decide, by decide, by decide⟩
    let b : Bucket Rat := { stamp := some "soon", tokens := some (.text "1") }
    let fresh := ({} : Bucket Rat).take limits 100
    b.Unreadable ∧
      (b.take limits 100).2.stamp = some "soon" ∧ fresh.2.stamp = some "100" ∧
      ((b.take limits 100).2.take limits 100).1.remaining = 1 ∧
      (fresh.2.take limits 100).1.remaining = 0 := by
  intro limits b fresh
  have hread : Decimal.Spelled.read? "soon" = none := by decide
  have hb : b.Unreadable := .inl fun text htext => by cases htext; exact hread
  have hafter : (b.take limits 100).2.stamp = some "soon" :=
    stamp_take_of_level?_eq_none limits 100 hb.level?
  have hagain : (b.take limits 100).2.level? = none :=
    level?_eq_none_of_stamp (by rw [hafter, Option.bind_some, number?_of_read?_eq_none hread])
  have hfull : (full limits 100).Holds 100 (2 : Nat) := holds_full limits 100
  have hfresh : fresh.2.Holds 100 (1 : Nat) := by
    have hholds := hfull.holds_take_natCast limits
    rwa [← take_empty] at hholds
  refine ⟨hb, hafter, stamp_take_empty limits 100, ?_, ?_⟩
  · rw [(take_of_level?_eq_none limits 100 hagain).1, take_empty,
      (hfull.remaining_allowed_take_natCast limits).1]
    rfl
  · rw [(hfresh.remaining_allowed_take_natCast limits).1]
    rfl

end RateLimit.Bucket
