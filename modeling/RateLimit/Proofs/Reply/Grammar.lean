import RateLimit.Proofs.Decimal.Spelling
import RateLimit.Reply.Reader

/-!
# The grammar of replies

Which bytes spell which reply, with at most so many arrays inside one another.  A line is any text
without the end of a line in it; numbers are spelled in every way that `Decimal.Spells` allows; the
number that a byte string or an array announces is the number of bytes or elements that follow.

## Main definitions

* `Reply.Spells`, `Reply.SpellsAll` : the spellings of a reply, and of replies in a row.

## Main results

* `Reader.readWithin_of_spells` : a reader finds the reply that is spelled, whatever follows it.
-/

namespace RateLimit

namespace Reply

/-- The bytes of a line: a text without the end of a line in it, and the end of the line. -/
inductive SpellsLine : Bytes → Bytes → Prop
  | intro (text : Bytes) (h : ¬ crlf <:+: text) : SpellsLine (text ++ crlf) text

/-- The bytes of a line that holds a whole number. -/
inductive SpellsNumber : Bytes → Int64 → Prop
  | intro {w text : Bytes} {n : Int64} (hline : SpellsLine w text)
      (h : Decimal.Spells (Decimal.asciiChars text) n.toInt) : SpellsNumber w n

mutual

/-- The bytes of a reply that has at most so many arrays inside one another. -/
inductive Spells : Nat → Bytes → Reply → Prop
  | status {k : Nat} {w text : Bytes} (h : SpellsLine w text) :
      Spells k (43 :: w) (.status (Utf8.lossy text))
  | error {k : Nat} {w text : Bytes} (h : SpellsLine w text) :
      Spells k (45 :: w) (.error (Utf8.lossy text))
  | integer {k : Nat} {w : Bytes} {n : Int64} (h : SpellsNumber w n) :
      Spells k (58 :: w) (.integer n)
  | null {k : Nat} {w : Bytes} (h : SpellsNumber w (-1)) : Spells k (36 :: w) .null
  | bulk {k : Nat} {w data : Bytes} {n : Int64} (h : SpellsNumber w n)
      (hlength : n.toInt = data.length) (hmax : data.length ≤ Reader.maxBulk) :
      Spells k (36 :: (w ++ (data ++ crlf))) (.bulk data)
  | noArray {k : Nat} {w : Bytes} (h : SpellsNumber w (-1)) : Spells (k + 1) (42 :: w) (.array [])
  | array {k : Nat} {w ws : Bytes} {n : Int64} {items : List Reply} (h : SpellsNumber w n)
      (hlength : n.toInt = items.length) (hmax : items.length ≤ Reader.maxElements)
      (hitems : SpellsAll k ws items) : Spells (k + 1) (42 :: (w ++ ws)) (.array items)

/-- The bytes of replies in a row. -/
inductive SpellsAll : Nat → Bytes → List Reply → Prop
  | nil {k : Nat} : SpellsAll k [] []
  | cons {k : Nat} {w ws : Bytes} {item : Reply} {items : List Reply} (h : Spells k w item)
      (hitems : SpellsAll k ws items) : SpellsAll k (w ++ ws) (item :: items)

end

end Reply

namespace Reader

open Reply

/-! ### Lines and numbers -/

theorem lineFrom_append {text : Bytes} (h : ¬ crlf <:+: text) (taken rest : Bytes) :
    lineFrom taken (text ++ crlf ++ rest) = some (taken.reverse ++ text, rest) := by
  induction text generalizing taken with
  | nil => rw [List.append_nil]; rfl
  | cons b text ih =>
      have htext : ¬ crlf <:+: text := fun hin => h (List.infix_cons hin)
      -- The line does not end here: a carriage return is no end of a line by itself.
      have hstep : lineFrom taken (b :: (text ++ crlf ++ rest)) =
          lineFrom (b :: taken) (text ++ crlf ++ rest) := by
        rw [lineFrom]
        rintro rest' rfl heq
        cases text with
        | nil => cases heq
        | cons c text =>
            obtain rfl : c = 10 := by injection heq
            exact h ⟨[], text, rfl⟩
      rw [List.cons_append, List.cons_append, hstep, ih htext, List.reverse_cons, List.append_assoc]
      rfl

theorem line_of_spellsLine {w text : Bytes} (h : SpellsLine w text) (rest : Bytes) :
    line (w ++ rest) = .complete text rest := by
  obtain ⟨_, htext⟩ := h
  rw [line, lineFrom_append htext]
  rfl

theorem number_of_spellsNumber {w : Bytes} {n : Int64} (h : SpellsNumber w n) (rest : Bytes) :
    number (w ++ rest) = .complete n rest := by
  obtain ⟨hline, hn⟩ := h
  rw [number, line_of_spellsLine hline, Reading.bind, Decimal.int64?_of_spells hn]

/-! ### Lengths -/

theorem ne_neg_one_of_toInt_eq {n : Int64} {length : Nat} (h : n.toInt = length) : n ≠ -1 := by
  rintro rfl
  have hneg : (-1 : Int64).toInt = -1 := by decide
  omega

/-- A number of things up to a bound is not refused. -/
theorem not_outOfRange_of_toInt_eq {n : Int64} {length max : Nat} (h : n.toInt = length)
    (hmax : length ≤ max) (hbound : (Int64.ofNat max).toInt = max) :
    ¬ (n < 0 ∨ Int64.ofNat max < n) := by
  rw [Int64.lt_iff_toInt_lt, Int64.lt_iff_toInt_lt, hbound, h]
  have hzero : (0 : Int64).toInt = 0 := by decide
  omega

theorem toInt_ofNat_maxBulk : (Int64.ofNat maxBulk).toInt = maxBulk := by decide

theorem toInt_ofNat_maxElements : (Int64.ofNat maxElements).toInt = maxElements := by decide

/-! ### Replies -/

theorem bulk_of_spellsNumber {w data : Bytes} {n : Int64} (h : SpellsNumber w n)
    (hlength : n.toInt = data.length) (hmax : data.length ≤ maxBulk) (rest : Bytes) :
    bulk (w ++ (data ++ crlf) ++ rest) = .complete (.bulk data) rest := by
  have hn : n.toInt.toNat = data.length := by omega
  have hdrop : (data ++ crlf ++ rest).drop data.length = crlf ++ rest := by
    rw [List.append_assoc, List.drop_left]
  rw [bulk, List.append_assoc, number_of_spellsNumber h, Reading.bind,
    if_neg (ne_neg_one_of_toInt_eq hlength),
    if_neg (not_outOfRange_of_toInt_eq hlength hmax toInt_ofNat_maxBulk)]
  dsimp only
  rw [hn, if_neg, if_pos, List.append_assoc, List.take_left, ← List.drop_drop, List.drop_left]
  · rfl
  · rw [hdrop]
    rfl
  · simp only [List.length_append, crlf, List.length_cons, List.length_nil]
    omega

theorem readWithin_of_ne (k : Nat) (r : Reader) {marker : UInt8} (h : marker ≠ 42)
    (input : Bytes) : readWithin k r (marker :: input) = (flat marker input, r) := by
  cases k <;> exact if_neg h

theorem readWithin_succ_array (k : Nat) (r : Reader) (input : Bytes) :
    readWithin (k + 1) r (42 :: input) = array (readWithin k) r input := rfl

@[simp]
theorem leave_enter (r : Reader) : r.enter.leave = r := rfl

@[simp]
theorem enter_depth (r : Reader) : r.enter.depth = r.depth + 1 := rfl

mutual

/-- A reader finds the reply that is spelled, whatever follows it, and stands where it stood. -/
theorem readWithin_of_spells {k : Nat} {w : Bytes} {reply : Reply} (r : Reader) (rest : Bytes)
    (hr : r.depth + k ≤ maxDepth) :
    Spells k w reply → readWithin k r (w ++ rest) = (.complete reply rest, r)
  | .status h => by
      rw [List.cons_append, readWithin_of_ne k r (by decide), flat, if_pos rfl,
        line_of_spellsLine h, Reading.bind]
  | .error h => by
      rw [List.cons_append, readWithin_of_ne k r (by decide), flat, if_neg (by decide), if_pos rfl,
        line_of_spellsLine h, Reading.bind]
  | .integer h => by
      rw [List.cons_append, readWithin_of_ne k r (by decide), flat, if_neg (by decide),
        if_neg (by decide), if_pos rfl, number_of_spellsNumber h, Reading.bind]
  | .null h => by
      rw [List.cons_append, readWithin_of_ne k r (by decide), flat, if_neg (by decide),
        if_neg (by decide), if_neg (by decide), if_pos rfl, bulk, number_of_spellsNumber h,
        Reading.bind, if_pos rfl]
  | .bulk h hlength hmax => by
      rw [List.cons_append, readWithin_of_ne k r (by decide), flat, if_neg (by decide),
        if_neg (by decide), if_neg (by decide), if_pos rfl, bulk_of_spellsNumber h hlength hmax]
  | .noArray h => by
      rw [List.cons_append, readWithin_succ_array, array, if_neg (by omega),
        number_of_spellsNumber h]
      dsimp only
      rw [if_pos rfl]
  | .array h hlength hmax hitems => by
      have hn := congrArg Int.toNat hlength
      rw [Int.toNat_natCast] at hn
      rw [List.cons_append, readWithin_succ_array, array, if_neg (by omega), List.append_assoc,
        number_of_spellsNumber h]
      dsimp only
      rw [if_neg (ne_neg_one_of_toInt_eq hlength),
        if_neg (not_outOfRange_of_toInt_eq hlength hmax toInt_ofNat_maxElements), hn,
        elements_of_spellsAll r.enter [] rest (by rw [enter_depth]; omega) hitems]
      dsimp only
      rw [leave_enter, List.reverse_nil, List.nil_append]

theorem elements_of_spellsAll {k : Nat} {ws : Bytes} {items : List Reply} (r : Reader)
    (found : List Reply) (rest : Bytes) (hr : r.depth + k ≤ maxDepth) :
    SpellsAll k ws items →
      elements (readWithin k) found items.length r (ws ++ rest) =
        (.complete (found.reverse ++ items) rest, r)
  | .nil => by
      rw [List.nil_append, List.length_nil, elements, List.append_nil]
  | @SpellsAll.cons _ _ _ item items h hitems => by
      rw [List.length_cons, elements, List.append_assoc, readWithin_of_spells r _ hr h]
      dsimp only
      rw [elements_of_spellsAll r (item :: found) rest hr hitems, List.reverse_cons,
        List.append_assoc, List.singleton_append]

end

end Reader

end RateLimit
