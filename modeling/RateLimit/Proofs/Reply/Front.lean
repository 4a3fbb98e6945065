import RateLimit.Proofs.Reply.Extension

/-!
# What stands at the front of a byte string

A reader is asked for what stands at the front of a byte string: a reply and the number of bytes
that it takes, or nothing yet, or a fault.  Whatever it finds, it stands in as many arrays
afterwards as before, so that it can be asked again.

## Main definitions

* `Reader.front` : what stands at the front of a byte string.

## Main results

* `Reader.read_snd` : a reader stands where it stood.
* `Reader.front_append_of_complete`, `Reader.front_append_of_invalid` : further bytes do not change
  what stands at the front.
-/

namespace RateLimit

namespace Reader

/-! ### The reader afterwards -/

theorem elements_snd {one : Reader → Bytes → Reading Reply × Reader}
    (hone : ∀ r input, (one r input).2 = r) (found : List Reply) (n : Nat) (r : Reader)
    (input : Bytes) : (elements one found n r input).2 = r := by
  induction n generalizing found input with
  | zero => rfl
  | succ n ih =>
      have hr := hone r input
      rw [elements]
      generalize one r input = result at hr ⊢
      obtain ⟨_ | ⟨reply, rest⟩ | fault, r'⟩ := result
      · exact hr
      · obtain rfl : r' = r := hr
        exact ih _ _
      · exact hr

theorem array_snd {one : Reader → Bytes → Reading Reply × Reader}
    (hone : ∀ r input, (one r input).2 = r) (r : Reader) (input : Bytes) :
    (array one r input).2 = r := by
  rw [array]
  split
  · rfl
  split
  · rfl
  · rfl
  · rename_i count rest hnumber
    split
    · rfl
    split
    · rfl
    · have hr := elements_snd hone [] count.toInt.toNat r.enter rest
      -- The array that was entered is left again in each of the three cases.
      split <;> (rename_i helements; rw [helements] at hr; exact congrArg leave hr)

/-- A reader stands in as many arrays after an attempt to read as before it. -/
theorem readWithin_snd (levels : Nat) (r : Reader) (input : Bytes) :
    (readWithin levels r input).2 = r := by
  induction levels generalizing r input with
  | zero =>
      cases input with
      | nil => rfl
      | cons marker input =>
          rw [readWithin]
          split <;> rfl
  | succ levels ih =>
      cases input with
      | nil => rfl
      | cons marker input =>
          rw [readWithin]
          split
          · exact array_snd ih r input
          · rfl

theorem read_snd (r : Reader) (input : Bytes) : (r.read input).2 = r :=
  readWithin_snd _ r input

/-! ### The front -/

/-- What stands at the front of a byte string: a reply and the number of bytes that it takes, or
nothing yet, or a fault. -/
def front (r : Reader) (input : Bytes) : Except ProtocolFault (Option (Reply × Nat)) :=
  match (r.read input).1 with
  | .needMore => .ok none
  | .complete reply rest => .ok (some (reply, input.length - rest.length))
  | .invalid fault => .error fault

variable {r : Reader} {input rest : Bytes} {reply : Reply} {n : Nat} {fault : ProtocolFault}

theorem front_eq_some_iff : r.front input = .ok (some (reply, n)) ↔
    ∃ rest, (r.read input).1 = .complete reply rest ∧ n = input.length - rest.length := by
  rw [front]
  rcases (r.read input).1 with _ | ⟨reply', rest⟩ | fault
  · simp
  · constructor
    · intro h
      cases h
      exact ⟨rest, rfl, rfl⟩
    · rintro ⟨_, hread, rfl⟩
      cases hread
      rfl
  · simp

theorem front_eq_error_iff : r.front input = .error fault ↔ (r.read input).1 = .invalid fault := by
  rw [front]
  rcases (r.read input).1 with _ | ⟨reply, rest⟩ | fault <;> simp

/-- A reply is still found, and takes as many bytes, if further bytes follow. -/
theorem front_append_of_complete (h : r.front input = .ok (some (reply, n))) (more : Bytes) :
    r.front (input ++ more) = .ok (some (reply, n)) := by
  obtain ⟨rest, hread, rfl⟩ := front_eq_some_iff.1 h
  refine front_eq_some_iff.2 ⟨rest ++ more, ?_, ?_⟩
  · rw [settles_read r input (by simp [hread]), hread]
    rfl
  · rw [List.length_append, List.length_append, Nat.add_sub_add_right]

/-- What is refused is still refused, for the same reason, if further bytes follow. -/
theorem front_append_of_invalid (h : r.front input = .error fault) (more : Bytes) :
    r.front (input ++ more) = .error fault := by
  have hread := front_eq_error_iff.1 h
  rw [front_eq_error_iff, settles_read r input (by simp [hread]), hread]
  rfl

/-- Where fewer bytes stand than a reply takes that is found once more of them have arrived, nothing
is found yet. -/
theorem front_eq_none_of_append {more : Bytes}
    (h : r.front (input ++ more) = .ok (some (reply, n))) (hn : input.length < n) :
    r.front input = .ok none := by
  cases hfront : r.front input with
  | error fault =>
      rw [front_append_of_invalid hfront] at h
      cases h
  | ok found =>
      cases found with
      | none => rfl
      | some found =>
          obtain ⟨reply', m⟩ := found
          rw [front_append_of_complete hfront] at h
          cases h
          -- A reply takes no more bytes than there are.
          obtain ⟨rest, -, hm⟩ := front_eq_some_iff.1 hfront
          omega

end Reader

end RateLimit
