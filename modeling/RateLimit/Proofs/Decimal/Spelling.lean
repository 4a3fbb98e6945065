import Mathlib.Data.List.TakeWhile
import RateLimit.Decimal.Numeral

/-!
# Spelling of whole numbers

A whole number is spelled by digits with an optional sign before them, in many ways because of
leading zeros and plus signs.  Every spelling is read, and the decimal that is written is one of
them.

## Main definitions

* `Decimal.Spells` : the spellings of a whole number.
* `Decimal.SpellsNatural` : the spellings of a natural number.

## Main results

* `Decimal.spells_toString` : a decimal spells its number.
* `Decimal.int64?_of_spells` : the reading of 64-bit words finds the number that is spelled.
* `Decimal.spells_of_int64?` : nothing else is read as a 64-bit word.
* `Decimal.unsigned?_eq_some_iff` : what is read as a natural number below a bound.
* `Decimal.Spelled.read?_toString` : the decimal of a natural number is read back as a numeral.
-/

namespace RateLimit.Decimal

/-! ### Digits -/

theorem naturalFrom_eq_ofDigitChars (n : Nat) (cs : List Char) (h : ∀ c ∈ cs, c.isDigit = true) :
    naturalFrom n cs = some (Nat.ofDigitChars 10 cs n) := by
  induction cs generalizing n with
  | nil => simp only [naturalFrom, Nat.ofDigitChars_nil]
  | cons c cs ih =>
      rw [naturalFrom, if_pos (h c List.mem_cons_self),
        ih _ fun d hd => h d (List.mem_cons_of_mem _ hd), Nat.ofDigitChars_cons, Nat.mul_comm n 10]
      rfl

theorem isDigit_of_mem_toDigits {n : Nat} {c : Char} (h : c ∈ Nat.toDigits 10 n) :
    c.isDigit = true :=
  Nat.isDigit_of_mem_toDigits (by decide) (by decide) h

/-! ### Signs -/

/-- A text spells a whole number by one or more digits with an optional sign before them. -/
inductive Spells : List Char → Int → Prop
  | digits {cs : List Char} (hne : cs ≠ []) (h : ∀ c ∈ cs, c.isDigit = true) :
      Spells cs (Nat.ofDigitChars 10 cs 0)
  | plus {cs : List Char} (hne : cs ≠ []) (h : ∀ c ∈ cs, c.isDigit = true) :
      Spells ('+' :: cs) (Nat.ofDigitChars 10 cs 0)
  | minus {cs : List Char} (hne : cs ≠ []) (h : ∀ c ∈ cs, c.isDigit = true) :
      Spells ('-' :: cs) (-(Nat.ofDigitChars 10 cs 0))

theorem spells_toDigits (n : Nat) : Spells (Nat.toDigits 10 n) n := by
  have h := Spells.digits (Nat.toDigits_ne_nil (n := n)) fun c => isDigit_of_mem_toDigits
  rwa [Nat.ofDigitChars_ten_toDigits] at h

/-- The decimal of a whole number spells it. -/
theorem spells_toString (n : Int) : Spells (toString n).toList n := by
  cases n with
  | ofNat n =>
      change Spells (Nat.repr n).toList n
      rw [Nat.toList_repr]
      exact spells_toDigits n
  | negSucc n =>
      have hs : (toString (Int.negSucc n)).toList = '-' :: Nat.toDigits 10 (n + 1) := by
        change ("-" ++ Nat.repr (n + 1)).toList = _
        rw [String.toList_append, Nat.toList_repr]
        rfl
      have h := Spells.minus (Nat.toDigits_ne_nil (n := n + 1)) fun c => isDigit_of_mem_toDigits
      rw [Nat.ofDigitChars_ten_toDigits] at h
      rw [hs]
      exact h

/-- A spelling is made of digits and signs. -/
theorem Spells.isDigit_or_sign {cs : List Char} {n : Int} (h : Spells cs n) {c : Char}
    (hc : c ∈ cs) : c.isDigit = true ∨ c = '+' ∨ c = '-' := by
  cases h with
  | digits _ h => exact .inl (h c hc)
  | plus _ h => exact (List.mem_cons.mp hc).elim (fun hc => .inr (.inl hc)) fun hc => .inl (h c hc)
  | minus _ h => exact (List.mem_cons.mp hc).elim (fun hc => .inr (.inr hc)) fun hc => .inl (h c hc)

theorem Spells.toNat_lt {cs : List Char} {n : Int} (h : Spells cs n) {c : Char} (hc : c ∈ cs) :
    c.toNat < 0x80 := by
  rcases h.isDigit_or_sign hc with hdigit | rfl | rfl
  · have hle : c.val ≤ 57 := by
      simp only [Char.isDigit, Bool.and_eq_true, decide_eq_true_eq] at hdigit
      exact hdigit.2
    exact Nat.lt_of_le_of_lt (UInt32.le_iff_toNat_le.mp hle) (by decide)
  · decide
  · decide

theorem Spells.ne_return {cs : List Char} {n : Int} (h : Spells cs n) {c : Char} (hc : c ∈ cs) :
    c ≠ '\r' := by
  rintro rfl
  exact absurd (h.isDigit_or_sign hc) (by decide)

theorem natural?_of_forall_isDigit {cs : List Char} (hne : cs ≠ [])
    (h : ∀ c ∈ cs, c.isDigit = true) : natural? cs = some (Nat.ofDigitChars 10 cs 0) := by
  cases cs with
  | nil => exact absurd rfl hne
  | cons c cs => rw [natural?, naturalFrom_eq_ofDigitChars 0 _ h]

/-- The decimal of a natural number is read back. -/
theorem natural?_toString (n : Nat) : natural? (toString n).toList = some n := by
  rw [Nat.toString_eq_repr, Nat.toList_repr,
    natural?_of_forall_isDigit Nat.toDigits_ne_nil fun c => isDigit_of_mem_toDigits,
    Nat.ofDigitChars_ten_toDigits]

theorem isDigit_of_naturalFrom {n m : Nat} {cs : List Char} (h : naturalFrom n cs = some m) :
    ∀ c ∈ cs, c.isDigit = true := by
  induction cs generalizing n with
  | nil =>
      intro c hc
      cases hc
  | cons c cs ih =>
      rw [naturalFrom] at h
      split at h
      · rename_i hdigit
        intro d hd
        rcases List.mem_cons.mp hd with rfl | hd
        · exact hdigit
        · exact ih h d hd
      · cases h

/-- What is read as a natural number is one or more digits. -/
theorem eq_of_natural? {cs : List Char} {n : Nat} (h : natural? cs = some n) :
    cs ≠ [] ∧ (∀ c ∈ cs, c.isDigit = true) ∧ n = Nat.ofDigitChars 10 cs 0 := by
  cases cs with
  | nil => cases h
  | cons c cs =>
      have hdigits := isDigit_of_naturalFrom h
      have hvalue := natural?_of_forall_isDigit (List.cons_ne_nil c cs) hdigits
      rw [h] at hvalue
      exact ⟨List.cons_ne_nil c cs, hdigits, Option.some.inj hvalue⟩

theorem integer?_of_spells {cs : List Char} {n : Int} (h : Spells cs n) :
    integer? cs = some n := by
  cases h with
  | digits hne h =>
      have hvalue := natural?_of_forall_isDigit hne h
      unfold integer?
      split
      · exact absurd (h '+' List.mem_cons_self) (by decide)
      · exact absurd (h '-' List.mem_cons_self) (by decide)
      · rw [hvalue]
        rfl
  | plus hne h =>
      rw [integer?, natural?_of_forall_isDigit hne h]
      rfl
  | minus hne h =>
      rw [integer?, natural?_of_forall_isDigit hne h]
      rfl

/-- A 64-bit word is read from any decimal that spells it. -/
theorem int64?_of_spells {cs : List Char} {n : Int64} (h : Spells cs n.toInt) :
    int64? cs = some n := by
  have hn : Int64.minValue.toInt ≤ n.toInt ∧ n.toInt ≤ Int64.maxValue.toInt :=
    ⟨Int64.le_iff_toInt_le.mp (Int64.minValue_le n), Int64.le_iff_toInt_le.mp (Int64.le_maxValue n)⟩
  rw [int64?, integer?_of_spells h, Option.filter_some, if_pos (by simpa using hn)]
  simp only [Option.map_some, Int64.ofInt_toInt]

/-- Whatever is read as a whole number spells it. -/
theorem spells_of_integer? {cs : List Char} {n : Int} (h : integer? cs = some n) :
    Spells cs n := by
  unfold integer? at h
  split at h
  · obtain ⟨m, hm, rfl⟩ := Option.map_eq_some_iff.mp h
    obtain ⟨hne, hdigits, rfl⟩ := eq_of_natural? hm
    exact .plus hne hdigits
  · obtain ⟨m, hm, rfl⟩ := Option.map_eq_some_iff.mp h
    obtain ⟨hne, hdigits, rfl⟩ := eq_of_natural? hm
    exact .minus hne hdigits
  · obtain ⟨m, hm, rfl⟩ := Option.map_eq_some_iff.mp h
    obtain ⟨hne, hdigits, rfl⟩ := eq_of_natural? hm
    exact .digits hne hdigits

/-- Whatever is read as a 64-bit word spells it. -/
theorem spells_of_int64? {cs : List Char} {n : Int64} (h : int64? cs = some n) :
    Spells cs n.toInt := by
  obtain ⟨m, hm, rfl⟩ := Option.map_eq_some_iff.mp h
  obtain ⟨hread, hrange⟩ := Option.filter_eq_some_iff.mp hm
  have hbounds := of_decide_eq_true hrange
  rw [Int64.toInt_ofInt_of_le hbounds.1 (Int.lt_add_one_of_le hbounds.2)]
  exact spells_of_integer? hread

/-! ### Natural numbers -/

/-- A text spells a natural number by one or more digits with an optional plus sign before them. -/
inductive SpellsNatural : List Char → Nat → Prop
  | digits {cs : List Char} (hne : cs ≠ []) (h : ∀ c ∈ cs, c.isDigit = true) :
      SpellsNatural cs (Nat.ofDigitChars 10 cs 0)
  | plus {cs : List Char} (hne : cs ≠ []) (h : ∀ c ∈ cs, c.isDigit = true) :
      SpellsNatural ('+' :: cs) (Nat.ofDigitChars 10 cs 0)

/-- The decimal of a natural number spells it. -/
theorem spellsNatural_toString (n : Nat) : SpellsNatural (toString n).toList n := by
  have h := SpellsNatural.digits (Nat.toDigits_ne_nil (n := n)) fun c => isDigit_of_mem_toDigits
  rwa [Nat.ofDigitChars_ten_toDigits, ← Nat.toList_repr] at h

/-- A spelling of a natural number spells it as a whole number. -/
theorem SpellsNatural.spells {cs : List Char} {n : Nat} (h : SpellsNatural cs n) :
    Spells cs n := by
  cases h with
  | digits hne h => exact .digits hne h
  | plus hne h => exact .plus hne h

/-- What is read as a natural number below a bound are the spellings of the numbers below it. -/
theorem unsigned?_eq_some_iff {bound n : Nat} {cs : List Char} :
    unsigned? bound cs = some n ↔ SpellsNatural cs n ∧ n < bound := by
  constructor
  · intro h
    obtain ⟨hread, hbound⟩ := Option.filter_eq_some_iff.mp h
    refine ⟨?_, of_decide_eq_true hbound⟩
    split at hread
    · obtain ⟨hne, hdigits, rfl⟩ := eq_of_natural? hread
      exact .plus hne hdigits
    · obtain ⟨hne, hdigits, rfl⟩ := eq_of_natural? hread
      exact .digits hne hdigits
  · rintro ⟨hspells, hbound⟩
    refine Option.filter_eq_some_iff.mpr ⟨?_, decide_eq_true hbound⟩
    cases hspells with
    | digits hne h =>
        split
        · exact absurd (h '+' List.mem_cons_self) (by decide)
        · exact natural?_of_forall_isDigit hne h
    | plus hne h => exact natural?_of_forall_isDigit hne h

/-! ### Numerals -/

theorem Numeral.decimal?_of_forall_isDigit (negative : Bool) {cs : List Char} (hne : cs ≠ [])
    (h : ∀ c ∈ cs, c.isDigit = true) :
    decimal? negative cs = some ⟨negative, (naturalFrom 0 cs).getD 0, .ten, 0⟩ := by
  have htake : cs.takeWhile Char.isDigit = cs := List.takeWhile_eq_self_iff.mpr h
  have hdrop : cs.dropWhile Char.isDigit = [] := List.dropWhile_eq_nil_iff.mpr h
  have hempty : cs.isEmpty = false := by simpa using hne
  have hmantissa : mantissa? Char.isDigit cs = some (cs, 0, []) := by
    simp only [mantissa?, htake, hdrop, hempty, Bool.false_and, Bool.false_eq_true, if_false,
      List.append_nil, List.length_nil]
  rw [decimal?, hmantissa]
  rfl

namespace Spelled

theorem isBlank_of_isDigit {c : Char} (h : c.isDigit = true) : isBlank c = false := by
  simp only [Char.isDigit, ge_iff_le, Bool.and_eq_true, decide_eq_true_eq] at h
  simp only [isBlank, Bool.or_eq_false_iff, decide_eq_false_iff_not, Bool.and_eq_false_iff]
  refine ⟨?_, .inr ?_⟩
  · rintro rfl
    exact absurd h.1 (by decide)
  · intro hc
    exact absurd (UInt32.le_trans h.1 hc) (by decide)

theorem trim_of_forall_isDigit {cs : List Char} (h : ∀ c ∈ cs, c.isDigit = true) :
    trim cs = cs := by
  have hdrop : ∀ ds : List Char, (∀ c ∈ ds, c.isDigit = true) → ds.dropWhile isBlank = ds := by
    intro ds hds
    cases ds with
    | nil => rfl
    | cons d ds =>
        rw [List.dropWhile_cons_of_neg]
        rw [isBlank_of_isDigit (hds d List.mem_cons_self)]
        decide
  rw [trim, hdrop cs h, hdrop _ fun c hc => h c (List.mem_reverse.mp hc), List.reverse_reverse]

/-- A text without a null character is read to its end. -/
theorem takeWhile_of_forall_isDigit {cs : List Char} (h : ∀ c ∈ cs, c.isDigit = true) :
    cs.takeWhile (· ≠ '\x00') = cs := by
  refine List.takeWhile_eq_self_iff.mpr fun c hc => decide_eq_true ?_
  rintro rfl
  exact absurd (h _ hc) (by decide)

/-- A natural number is read back as a numeral without a fraction. -/
theorem read?_toString (n : Nat) : read? (toString n) = some (.numeral ⟨false, n, .ten, 0⟩) := by
  have hdigits : ∀ c ∈ Nat.toDigits 10 n, c.isDigit = true := fun c => isDigit_of_mem_toDigits
  have hread : read? (toString n) = unsigned? false (Nat.toDigits 10 n) := by
    rw [read?, Nat.toString_eq_repr, Nat.toList_repr, takeWhile_of_forall_isDigit hdigits,
      trim_of_forall_isDigit hdigits]
    split
    · rename_i heq
      exact absurd (hdigits '-' (by rw [heq]; exact List.mem_cons_self)) (by decide)
    · rename_i heq
      exact absurd (hdigits '+' (by rw [heq]; exact List.mem_cons_self)) (by decide)
    · rfl
  rw [hread, unsigned?, Numeral.decimal?_of_forall_isDigit false Nat.toDigits_ne_nil hdigits,
    naturalFrom_eq_ofDigitChars 0 _ hdigits, Nat.ofDigitChars_ten_toDigits]
  rfl

end Spelled

end RateLimit.Decimal
