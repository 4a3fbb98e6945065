import RateLimit.Proofs.Reply.Front
import RateLimit.Proofs.Reply.Grammar

/-!
# Reading accepts what is spelled

Whatever a reader finds at the front of a byte string is spelled there, by the bytes that it takes.
Together with the converse this says that reading accepts the grammar of replies and nothing else;
so no byte string has two replies at its front, and a byte string is refused only where neither a
part of its front nor any continuation of it spells a reply.

## Main results

* `Reader.spells_of_readWithin` : a reply that is found is spelled.
* `Reader.front_iff_spells` : reading accepts what is spelled.
-/

namespace RateLimit.Reader

open Reply

variable {input rest : Bytes} {reply : Reply}

/-! ### Lines and numbers -/

/-- A line that is read was passed up to the first end of a line. -/
theorem spellsLine_of_lineFrom {taken text : Bytes}
    (h : lineFrom taken input = some (text, rest)) :
    ∃ w body, input = w ++ rest ∧ text = taken.reverse ++ body ∧ SpellsLine w body := by
  fun_induction lineFrom taken input with
  | case1 taken rest' =>
      cases h
      have hempty : ¬ crlf <:+: [] := by decide
      exact ⟨crlf, [], rfl, (List.append_nil _).symm, .intro [] hempty⟩
  | case2 taken b input hb ih =>
      obtain ⟨w, body, rfl, rfl, hline⟩ := ih h
      cases hline with
      | intro _ hbody =>
          refine ⟨b :: (body ++ crlf), b :: body, rfl, by simp, .intro (b :: body) fun hin => ?_⟩
          rcases List.infix_cons_iff.1 hin with hstart | hin
          · -- The line would have ended with this byte and the next one.
            obtain ⟨later, hlater⟩ := hstart
            cases body with
            | nil => cases hlater
            | cons c body =>
                cases hlater
                exact hb _ rfl rfl
          · exact hbody hin
  | case3 => cases h

theorem spellsLine_of_line {text : Bytes} (h : line input = .complete text rest) :
    ∃ w, input = w ++ rest ∧ SpellsLine w text := by
  unfold line at h
  split at h
  · rename_i hline
    cases h
    obtain ⟨w, body, hinput, rfl, hbody⟩ := spellsLine_of_lineFrom hline
    exact ⟨w, hinput, hbody⟩
  · cases h

theorem spellsNumber_of_number {n : Int64} (h : number input = .complete n rest) :
    ∃ w, input = w ++ rest ∧ SpellsNumber w n := by
  obtain ⟨text, mid, hline, h⟩ := Reading.bind_eq_complete h
  split at h
  · rename_i hn
    cases h
    obtain ⟨w, hinput, hw⟩ := spellsLine_of_line hline
    exact ⟨w, hinput, .intro hw (Decimal.spells_of_int64? hn)⟩
  · cases h

/-! ### Lengths -/

/-- A number that is neither negative nor beyond a bound is a number of things up to the bound. -/
theorem toInt_of_not_outOfRange {n : Int64} {max : Nat} (h : ¬ (n < 0 ∨ Int64.ofNat max < n))
    (hbound : (Int64.ofNat max).toInt = max) :
    n.toInt = n.toInt.toNat ∧ n.toInt.toNat ≤ max := by
  rw [Int64.lt_iff_toInt_lt, Int64.lt_iff_toInt_lt, hbound] at h
  have hzero : (0 : Int64).toInt = 0 := by decide
  omega

/-! ### Replies -/

theorem spells_of_bulk {k : Nat} (h : bulk input = .complete reply rest) :
    ∃ w, input = w ++ rest ∧ Spells k (36 :: w) reply := by
  obtain ⟨length, mid, hnumber, hfound⟩ := Reading.bind_eq_complete h
  obtain ⟨w, rfl, hw⟩ := spellsNumber_of_number hnumber
  split at hfound
  · rename_i hnull
    cases hfound
    exact ⟨w, rfl, .null (hnull ▸ hw)⟩
  split at hfound
  · cases hfound
  rename_i hrange
  obtain ⟨hlength, hmax⟩ := toInt_of_not_outOfRange hrange toInt_ofNat_maxBulk
  dsimp only at hfound
  split at hfound
  · cases hfound
  rename_i hlong
  split at hfound
  · rename_i hend
    cases hfound
    generalize length.toInt.toNat = n at hlength hmax hlong hend ⊢
    -- What was read are `n` bytes, the end of a line, and the bytes that are left.
    have hsplit : mid = mid.take n ++ (crlf ++ mid.drop (n + 2)) := by
      rw [← hend, ← List.drop_drop, List.take_append_drop, List.take_append_drop]
    have hn : (mid.take n).length = n := by
      rw [List.length_take]
      omega
    refine ⟨w ++ (mid.take n ++ crlf), ?_, .bulk hw (by rw [hn, hlength]) (by rwa [hn])⟩
    rw [List.append_assoc, List.append_assoc, ← hsplit]
  · cases hfound

theorem spells_of_flat {k : Nat} {marker : UInt8} (h : flat marker input = .complete reply rest) :
    ∃ w, input = w ++ rest ∧ Spells k (marker :: w) reply := by
  unfold flat at h
  split at h
  · rename_i hmarker
    obtain ⟨text, mid, hline, h⟩ := Reading.bind_eq_complete h
    cases h
    obtain ⟨w, hinput, hw⟩ := spellsLine_of_line hline
    exact ⟨w, hinput, hmarker ▸ .status hw⟩
  split at h
  · rename_i hmarker
    obtain ⟨text, mid, hline, h⟩ := Reading.bind_eq_complete h
    cases h
    obtain ⟨w, hinput, hw⟩ := spellsLine_of_line hline
    exact ⟨w, hinput, hmarker ▸ .error hw⟩
  split at h
  · rename_i hmarker
    obtain ⟨n, mid, hnumber, h⟩ := Reading.bind_eq_complete h
    cases h
    obtain ⟨w, hinput, hw⟩ := spellsNumber_of_number hnumber
    exact ⟨w, hinput, hmarker ▸ .integer hw⟩
  split at h
  · rename_i hmarker
    obtain ⟨w, hinput, hw⟩ := spells_of_bulk h
    exact ⟨w, hinput, hmarker ▸ hw⟩
  · cases h

/-- Replies that are found one after the other are spelled one after the other. -/
theorem spellsAll_of_elements {k : Nat}
    (hone : ∀ {r r' : Reader} {input rest : Bytes} {reply : Reply},
      readWithin k r input = (.complete reply rest, r') →
        ∃ w, input = w ++ rest ∧ Spells k w reply)
    {found items : List Reply} {n : Nat} {r r' : Reader}
    (h : elements (readWithin k) found n r input = (.complete items rest, r')) :
    ∃ ws later, input = ws ++ rest ∧ items = found.reverse ++ later ∧ later.length = n ∧
      SpellsAll k ws later := by
  induction n generalizing found r input with
  | zero =>
      cases h
      exact ⟨[], [], rfl, (List.append_nil _).symm, rfl, .nil⟩
  | succ n ih =>
      rw [elements] at h
      split at h
      · rename_i item mid r'' hread
        obtain ⟨w, rfl, hw⟩ := hone hread
        obtain ⟨ws, later, rfl, rfl, rfl, hws⟩ := ih h
        refine ⟨w ++ ws, item :: later, (List.append_assoc ..).symm, ?_, rfl, .cons hw hws⟩
        rw [List.reverse_cons, List.append_assoc, List.singleton_append]
      · cases h
      · cases h

theorem spells_of_array {k : Nat}
    (hone : ∀ {r r' : Reader} {input rest : Bytes} {reply : Reply},
      readWithin k r input = (.complete reply rest, r') →
        ∃ w, input = w ++ rest ∧ Spells k w reply)
    {r r' : Reader} (h : array (readWithin k) r input = (.complete reply rest, r')) :
    ∃ w, input = w ++ rest ∧ Spells (k + 1) (42 :: w) reply := by
  rw [array] at h
  split at h
  · cases h
  split at h
  · cases h
  · cases h
  rename_i count mid hnumber
  obtain ⟨w, rfl, hw⟩ := spellsNumber_of_number hnumber
  split at h
  · rename_i hnull
    cases h
    exact ⟨w, rfl, .noArray (hnull ▸ hw)⟩
  split at h
  · cases h
  rename_i hrange
  obtain ⟨hlength, hmax⟩ := toInt_of_not_outOfRange hrange toInt_ofNat_maxElements
  split at h
  · rename_i items rest' r'' helements
    cases h
    obtain ⟨ws, later, rfl, rfl, hcount, hws⟩ := spellsAll_of_elements hone helements
    rw [← hcount] at hlength hmax
    exact ⟨w ++ ws, (List.append_assoc ..).symm, .array hw hlength hmax hws⟩
  · cases h
  · cases h

/-- A reply that is found is spelled by the bytes that were taken. -/
theorem spells_of_readWithin {k : Nat} {r r' : Reader}
    (h : readWithin k r input = (.complete reply rest, r')) :
    ∃ w, input = w ++ rest ∧ Spells k w reply := by
  induction k generalizing r r' input rest reply with
  | zero =>
      cases input with
      | nil => cases h
      | cons marker input =>
          rw [readWithin] at h
          split at h
          · cases h
          · obtain ⟨w, rfl, hw⟩ := spells_of_flat (congrArg Prod.fst h)
            exact ⟨marker :: w, rfl, hw⟩
  | succ k ih =>
      cases input with
      | nil => cases h
      | cons marker input =>
          rw [readWithin] at h
          split at h
          · rename_i hmarker
            obtain ⟨w, rfl, hw⟩ := spells_of_array ih h
            exact ⟨42 :: w, hmarker ▸ rfl, hw⟩
          · obtain ⟨w, rfl, hw⟩ := spells_of_flat (congrArg Prod.fst h)
            exact ⟨marker :: w, rfl, hw⟩

/-! ### The front of a byte string -/

theorem front_of_spells {w : Bytes} (h : Spells maxDepth w reply) (rest : Bytes) :
    front {} (w ++ rest) = .ok (some (reply, w.length)) := by
  have hread := readWithin_of_spells {} rest (Nat.le_refl _) h
  refine front_eq_some_iff.2 ⟨rest, congrArg Prod.fst hread, ?_⟩
  rw [List.length_append, Nat.add_sub_cancel]

/-- A reply and a length are found at the front of a byte string if and only if so many bytes of it
spell the reply. -/
theorem front_eq_some_iff_spells {n : Nat} : front {} input = .ok (some (reply, n)) ↔
    n ≤ input.length ∧ Spells maxDepth (input.take n) reply := by
  constructor
  · intro h
    obtain ⟨rest, hread, rfl⟩ := front_eq_some_iff.1 h
    have hwithin : readWithin maxDepth {} input = (.complete reply rest, {}) :=
      Prod.ext hread (read_snd {} input)
    obtain ⟨w, rfl, hw⟩ := spells_of_readWithin hwithin
    rw [List.length_append, Nat.add_sub_cancel]
    refine ⟨Nat.le_add_right _ _, ?_⟩
    rwa [List.take_left]
  · rintro ⟨hn, hspells⟩
    have hfront := front_of_spells hspells (input.drop n)
    rwa [List.take_append_drop, List.length_take, Nat.min_eq_left hn] at hfront

/-- **Reading accepts what is spelled.** A reader that stands in no array finds a reply of a length
at the front of a byte string if and only if so many of its bytes spell the reply, with at most 128
arrays inside one another.  So the beginnings of a byte string spell one reply at most; and if a
byte string is refused, then none of its beginnings and none of its continuations spells a
reply. -/
theorem front_iff_spells (input : Bytes) :
    (∀ reply n, front {} input = .ok (some (reply, n)) ↔
      n ≤ input.length ∧ Spells 128 (input.take n) reply) ∧
    (∀ reply reply' w w', w <+: input → w' <+: input → Spells 128 w reply → Spells 128 w' reply' →
      w = w' ∧ reply = reply') ∧
    ∀ fault, front {} input = .error fault →
      ∀ reply w, Spells 128 w reply → ¬ w <+: input ∧ ¬ input <+: w := by
  refine ⟨fun reply n => front_eq_some_iff_spells, ?_, ?_⟩
  · rintro reply reply' w w' hw hw' hspells hspells'
    obtain ⟨rest, rfl⟩ := hw
    have hfront := front_of_spells hspells rest
    obtain ⟨rest', hrest'⟩ := hw'
    rw [← hrest', front_of_spells hspells' rest'] at hfront
    injection hfront with hfront
    injection hfront with hfront
    injection hfront with hreply hlength
    exact ⟨(List.append_inj hrest' hlength).1.symm, hreply.symm⟩
  · rintro fault hfault reply w hspells
    constructor
    · rintro ⟨rest, rfl⟩
      rw [front_of_spells hspells] at hfault
      cases hfault
    · rintro ⟨more, rfl⟩
      have hfront := front_of_spells hspells []
      rw [List.append_nil, front_append_of_invalid hfault] at hfront
      cases hfront

end RateLimit.Reader
