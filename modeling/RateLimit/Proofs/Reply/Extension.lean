import Mathlib.Tactic.SplitIfs
import RateLimit.Reply.Reader

/-!
# What a reader has found stays found

Once a reader has found a reply, or has refused its input, further bytes behind the input change
nothing: the same reply is found with the further bytes behind it, or the input is refused for the
same reason.  Only an input that needs more bytes can turn into something else.

## Main definitions

* `Reading.extend` : what was read, with further bytes behind it.
* `Reader.Settles` : further bytes do not change what a reading function has found.

## Main results

* `Reader.settles_read` : reading a reply settles.
-/

namespace RateLimit

namespace Reading

variable {α β : Type}

/-- What was read, with further bytes behind it. -/
def extend (more : Bytes) : Reading α → Reading α
  | .needMore => .needMore
  | .complete value rest => .complete value (rest ++ more)
  | .invalid fault => .invalid fault

@[simp]
theorem extend_complete (more : Bytes) (value : α) (rest : Bytes) :
    (complete value rest).extend more = .complete value (rest ++ more) := rfl

/-- Two readings in a row settle if each does. -/
theorem bind_extend {x x' : Reading α} {f : α → Bytes → Reading β} {more : Bytes}
    (hx : x ≠ .needMore → x' = x.extend more)
    (hf : ∀ value rest, f value rest ≠ .needMore →
      f value (rest ++ more) = (f value rest).extend more)
    (h : x.bind f ≠ .needMore) : x'.bind f = (x.bind f).extend more := by
  cases x with
  | needMore => exact (h rfl).elim
  | complete value rest =>
      rw [hx (by simp)]
      exact hf value rest h
  | invalid fault =>
      rw [hx (by simp)]
      rfl

end Reading

namespace Reader

/-! ### Lines and what is read off them -/

theorem lineFrom_append_of_eq_some {taken input text rest : Bytes}
    (h : lineFrom taken input = some (text, rest)) (more : Bytes) :
    lineFrom taken (input ++ more) = some (text, rest ++ more) := by
  fun_induction lineFrom taken input with
  | case1 taken rest' =>
      cases h
      rfl
  | case2 taken b input hb ih =>
      rw [List.cons_append, lineFrom, ih h]
      -- The end of a line cannot lie across the place where the further bytes begin.
      rintro rest' rfl heq
      cases input with
      | nil => cases h
      | cons c input =>
          obtain rfl : c = 10 := by injection heq
          exact hb _ rfl rfl
  | case3 => cases h

theorem line_append {input : Bytes} (h : line input ≠ .needMore) (more : Bytes) :
    line (input ++ more) = (line input).extend more := by
  unfold line at h ⊢
  split at h
  · rename_i text rest hline
    rw [lineFrom_append_of_eq_some hline]
    rfl
  · exact (h rfl).elim

theorem number_append {input : Bytes} (h : number input ≠ .needMore) (more : Bytes) :
    number (input ++ more) = (number input).extend more := by
  refine Reading.bind_extend (fun hline => line_append hline more) (fun text rest _ => ?_) h
  split <;> rfl

theorem bulk_append {input : Bytes} (h : bulk input ≠ .needMore) (more : Bytes) :
    bulk (input ++ more) = (bulk input).extend more := by
  refine Reading.bind_extend (fun hnumber => number_append hnumber more) ?_ h
  intro length rest hrest
  split_ifs at hrest ⊢ with hnull hrange
  · rfl
  · rfl
  · dsimp only at hrest ⊢
    by_cases hshort : rest.length < length.toInt.toNat + 2
    · exact (hrest (if_pos hshort)).elim
    · have hlong : ¬ (rest ++ more).length < length.toInt.toNat + 2 := by
        rw [List.length_append]
        omega
      -- The string and the end of its line lie before the further bytes.
      have hend : ((rest ++ more).drop length.toInt.toNat).take 2 =
          (rest.drop length.toInt.toNat).take 2 := by
        rw [List.drop_append_of_le_length (by omega),
          List.take_append_of_le_length (by rw [List.length_drop]; omega)]
      rw [if_neg hshort, if_neg hlong, hend, List.take_append_of_le_length (by omega),
        List.drop_append_of_le_length (by omega)]
      split_ifs <;> rfl

theorem flat_append {marker : UInt8} {input : Bytes} (h : flat marker input ≠ .needMore)
    (more : Bytes) : flat marker (input ++ more) = (flat marker input).extend more := by
  unfold flat at h ⊢
  split_ifs at h ⊢
  · exact Reading.bind_extend (fun hline => line_append hline more) (fun _ _ _ => rfl) h
  · exact Reading.bind_extend (fun hline => line_append hline more) (fun _ _ _ => rfl) h
  · exact Reading.bind_extend (fun hnumber => number_append hnumber more) (fun _ _ _ => rfl) h
  · exact bulk_append h more
  · rfl

/-! ### Replies -/

/-- Further bytes do not change what a reading function has found, nor the reader afterwards. -/
def Settles {α : Type} (one : Reader → Bytes → Reading α × Reader) : Prop :=
  ∀ r input, (one r input).1 ≠ .needMore → ∀ more,
    one r (input ++ more) = ((one r input).1.extend more, (one r input).2)

theorem Settles.elements {one : Reader → Bytes → Reading Reply × Reader} (hone : Settles one)
    (found : List Reply) (n : Nat) : Settles (elements one found n) := by
  intro r input h more
  induction n generalizing found r input with
  | zero => rfl
  | succ n ih =>
      rw [Reader.elements] at h
      rw [Reader.elements, Reader.elements]
      have hread := hone r input
      rcases hr : one r input with ⟨_ | ⟨reply, rest⟩ | fault, r'⟩
      · rw [hr] at h
        exact (h rfl).elim
      · rw [hr] at h hread
        rw [hread (by simp) more]
        exact ih _ _ _ h
      · rw [hr] at hread
        rw [hread (by simp) more]
        rfl

theorem Settles.array {one : Reader → Bytes → Reading Reply × Reader} (hone : Settles one) :
    Settles (array one) := by
  intro r input h more
  rw [Reader.array] at h
  rw [Reader.array, Reader.array]
  split_ifs at h ⊢ with hdeep
  · rfl
  · cases hnumber : number input with
    | needMore =>
        rw [hnumber] at h
        exact (h rfl).elim
    | invalid fault =>
        rw [number_append (by simp [hnumber]), hnumber]
        rfl
    | complete count rest =>
        rw [hnumber] at h
        rw [number_append (by simp [hnumber]), hnumber]
        dsimp only [Reading.extend_complete] at h ⊢
        split_ifs at h ⊢
        · rfl
        · rfl
        · have helements := hone.elements [] count.toInt.toNat r.enter rest
          rcases hr : Reader.elements one [] count.toInt.toNat r.enter rest with
            ⟨_ | ⟨items, rest'⟩ | fault, r'⟩
          · rw [hr] at h
            exact (h rfl).elim
          · rw [hr] at helements
            rw [helements (by simp) more]
            rfl
          · rw [hr] at helements
            rw [helements (by simp) more]
            rfl

theorem settles_readWithin (levels : Nat) : Settles (readWithin levels) := by
  induction levels with
  | zero =>
      intro r input h more
      cases input with
      | nil => exact (h rfl).elim
      | cons marker input =>
          rw [readWithin] at h
          rw [List.cons_append, readWithin, readWithin]
          split_ifs at h ⊢
          · rfl
          · rw [flat_append h]
  | succ levels ih =>
      intro r input h more
      cases input with
      | nil => exact (h rfl).elim
      | cons marker input =>
          rw [readWithin] at h
          rw [List.cons_append, readWithin, readWithin]
          split_ifs at h ⊢
          · exact ih.array r input h more
          · rw [flat_append h]

/-- Reading a reply settles. -/
theorem settles_read : Settles read :=
  fun r => settles_readWithin (maxDepth - r.depth) r

end Reader

end RateLimit
