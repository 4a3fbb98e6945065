import RateLimit.Proofs.Reply.Nesting

/-!
# The bytes that a reply takes

A reply takes at least three bytes, its marker and the end of a line, and never more than there are.
So replies can be taken off the front of a buffer only a bounded number of times, whoever looks for
them.  An array that a reader enters has taken four bytes before its first element, with one digit
in between, so that the arrays that it stands in are bounded by the bytes that there are, and not
only by `maxDepth`.

## Main definitions

* `Reader.Drops` : replies are taken off the front of a buffer one after the other.

## Main results

* `Reader.length_of_front` : how many bytes a reply takes.
* `Reader.Meets.length_le` : how many bytes are left inside of some arrays.
* `Reader.Drops.length_le` : how many replies can be taken off a buffer.
-/

namespace RateLimit

/-! ### The length of what is spelled -/

theorem Decimal.Spells.ne_nil {cs : List Char} {n : Int} (h : Decimal.Spells cs n) : cs ≠ [] := by
  cases h with
  | digits hne _ => exact hne
  | plus _ _ | minus _ _ => exact List.cons_ne_nil _ _

namespace Reply

variable {k : Nat} {w text : Bytes} {n : Int64} {reply : Reply}

theorem length_of_spellsLine (h : SpellsLine w text) : w.length = text.length + 2 := by
  obtain ⟨text, -⟩ := h
  exact List.length_append

/-- A number takes at least one digit and the end of its line. -/
theorem three_le_length_of_spellsNumber (h : SpellsNumber w n) : 3 ≤ w.length := by
  cases h with
  | @intro digits _ hline hspells =>
      have hne : digits ≠ [] := by
        rintro rfl
        exact hspells.ne_nil rfl
      rw [length_of_spellsLine hline]
      exact Nat.add_le_add_right (List.length_pos_iff.mpr hne) 2

/-- A reply takes at least its marker and the end of a line. -/
theorem three_le_length_of_spells (h : Spells k w reply) : 3 ≤ w.length := by
  cases h with
  | status h | error h =>
      rw [List.length_cons, length_of_spellsLine h]
      exact Nat.le_add_left ..
  | integer h | null h | noArray h => exact Nat.le_succ_of_le (three_le_length_of_spellsNumber h)
  | bulk h | array h =>
      have hnumber := three_le_length_of_spellsNumber h
      rw [List.length_cons, List.length_append]
      omega

end Reply

namespace Reader

open Reply

variable {r r' : Reader} {k n : Nat} {buffer input body rest : Bytes} {reply : Reply}

/-! ### The length of what is read -/

/-- A number is found before the bytes that are left, and takes at least three. -/
theorem exists_append_of_number {value : Int64} (h : number input = .complete value rest) :
    ∃ w, input = w ++ rest ∧ 3 ≤ w.length := by
  obtain ⟨w, hinput, hw⟩ := spellsNumber_of_number h
  exact ⟨w, hinput, three_le_length_of_spellsNumber hw⟩

/-- A reply is found before the bytes that are left, and takes at least three. -/
theorem exists_append_of_read (h : (r.read input).1 = .complete reply rest) :
    ∃ w, input = w ++ rest ∧ 3 ≤ w.length := by
  obtain ⟨w, hinput, hw⟩ := spells_of_readWithin (Prod.ext h (r.read_snd input))
  exact ⟨w, hinput, three_le_length_of_spells hw⟩

/-- A reply takes at least three bytes and no more than there are. -/
theorem length_of_front (h : r.front input = .ok (some (reply, n))) :
    3 ≤ n ∧ n ≤ input.length := by
  obtain ⟨rest, hread, rfl⟩ := front_eq_some_iff.mp h
  obtain ⟨w, rfl, hw⟩ := exists_append_of_read hread
  rw [List.length_append, Nat.add_sub_cancel]
  exact ⟨hw, Nat.le_add_right ..⟩

/-! ### Inside of arrays -/

/-- An array takes at least its marker, one digit and the end of a line before its elements. -/
theorem Enters.length_le (h : r.Enters input n body) : 4 + body.length ≤ input.length := by
  obtain ⟨-, hnumber, -, -⟩ := h
  obtain ⟨w, rfl, hw⟩ := exists_append_of_number hnumber
  rw [List.length_cons, List.length_append]
  omega

theorem Yields.length_le {replies : List Reply} (h : r.Yields input replies rest) :
    rest.length ≤ input.length := by
  obtain ⟨words, -, rfl⟩ := h.exists_words
  rw [List.length_append]
  exact Nat.le_add_left ..

/-- A place inside of some arrays is behind the beginning of each of them. -/
theorem Meets.length_le (h : r.Meets input k r' rest) : 4 * k + rest.length ≤ input.length := by
  induction h with
  | front => omega
  | element henters hbefore hcount h ih =>
      have hbody := henters.length_le
      have hbehind := hbefore.length_le
      omega

/-! ### Replies that are taken off a buffer -/

/-- A number of replies are taken off the front of a buffer one after the other, each found by any
reader, and some bytes are left. -/
inductive Drops : Bytes → Nat → Bytes → Prop
  | nothing (buffer : Bytes) : Drops buffer 0 buffer
  | reply {buffer rest : Bytes} {r : Reader} {reply : Reply} {n k : Nat}
      (h : r.front buffer = .ok (some (reply, n))) (later : Drops (buffer.drop n) k rest) :
      Drops buffer (k + 1) rest

/-- Every reply that is taken off makes a buffer shorter. -/
theorem Drops.length_le (h : Drops buffer k rest) : 3 * k + rest.length ≤ buffer.length := by
  induction h with
  | nothing => omega
  | reply h later ih =>
      obtain ⟨hthree, hle⟩ := length_of_front h
      rw [List.length_drop] at ih
      omega

/-- A reader that takes replies off a buffer does so until there is none at its front. -/
theorem drops_drain (r : Reader) (buffer : Bytes) :
    Drops buffer (r.drain buffer).replies.length (r.drain buffer).left ∧
      ∀ reply n, r.front (r.drain buffer).left ≠ .ok (some (reply, n)) := by
  fun_induction drain r buffer with
  | case1 r buffer r' hread =>
      refine ⟨.nothing buffer, fun reply n h => ?_⟩
      rw [front, hread] at h
      cases h
  | case2 r buffer fault r' hread =>
      refine ⟨.nothing buffer, fun reply n h => ?_⟩
      rw [front, hread] at h
      cases h
  | case3 r buffer reply rest r' hread later ih =>
      have hr := r.read_snd buffer
      rw [hread] at hr
      obtain rfl : r' = r := hr
      have hfirst := congrArg Prod.fst hread
      have hfront := front_eq_some_iff.mpr ⟨rest, hfirst, rfl⟩
      obtain ⟨w, rfl, -⟩ := exists_append_of_read hfirst
      refine ⟨.reply hfront ?_, ih.2⟩
      rw [List.length_append, Nat.add_sub_cancel, List.drop_left]
      exact ih.1

end Reader

end RateLimit
