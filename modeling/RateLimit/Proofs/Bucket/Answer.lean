import Mathlib.Algebra.Group.Nat.Defs
import RateLimit.Bucket.Answer
import RateLimit.Proofs.Reply.RoundTrip
import RateLimit.Proofs.Text.Ascii

/-!
# Which replies are answers

The answer of the script is read off an array of at least three numbers.  A number is an integer
that is not negative, or a text that spells a number below `2 ^ 64`; nothing else is taken for one,
and no number is taken for another.

## Main definitions

* `Reply.Holds` : the replies that hold a number.
* `Reply.HoldsAnswer` : the replies that hold an answer of the script.

## Main results

* `Reply.natural?_eq_ok_iff` : a number is read off the replies that hold it.
* `Answer.ofReply?_iff_holds` : an answer is read off the replies that hold it.
-/

namespace RateLimit

/-! ### Texts of digits -/

/-- A spelling of a number is made of characters of ASCII. -/
theorem Decimal.Spells.isAscii {cs : List Char} {n : Int} (h : Spells cs n) {c : Char}
    (hc : c ∈ cs) : Utf8.IsAscii c := by
  refine ⟨?_, h.toNat_lt hc⟩
  obtain hdigit | rfl | rfl := h.isDigit_or_sign hc
  · have hle : 48 ≤ c.val := by
      simp only [Char.isDigit, Bool.and_eq_true, decide_eq_true_eq] at hdigit
      exact hdigit.1
    exact Nat.lt_of_lt_of_le (by decide) (UInt32.le_iff_toNat_le.mp hle)
  · decide
  · decide

namespace Reply

/-! ### Numbers -/

/-- A reply holds a natural number: as an integer, or as a text that spells it, in a status line or
in a byte string. -/
inductive Holds : Reply → Nat → Prop
  | integer {value : Int64} {n : Nat} (h : value.toInt = n) : Holds (.integer value) n
  | status {text : String} {n : Nat} (h : Decimal.SpellsNatural text.toList n) (hn : n < 2 ^ 64) :
      Holds (.status text) n
  | bulk {text : String} {n : Nat} (h : Decimal.SpellsNatural text.toList n) (hn : n < 2 ^ 64) :
      Holds (.bulk (Bytes.ofString text)) n

theorem spelled?_eq_ok_iff {text : String} {n : Nat} :
    spelled? text = .ok n ↔ Decimal.SpellsNatural text.toList n ∧ n < 2 ^ 64 := by
  have hread : Decimal.unsigned? UInt64.size text.toList = some n ↔
      Decimal.SpellsNatural text.toList n ∧ n < UInt64.size := Decimal.unsigned?_eq_some_iff
  rw [spelled?, show 2 ^ 64 = UInt64.size from rfl, ← hread]
  cases Decimal.unsigned? UInt64.size text.toList with
  | none => simp
  | some m => simp

theorem natural?_integer {value : Int64} {n : Nat} :
    (Reply.integer value).natural? = .ok n ↔ value.toInt = n := by
  have hzero : (0 : Int64).toInt = 0 := by decide
  rw [natural?]
  split
  · rename_i hneg
    rw [Int64.lt_iff_toInt_lt, hzero] at hneg
    constructor
    · intro h
      cases h
    · intro h
      omega
  · rename_i hneg
    rw [Int64.lt_iff_toInt_lt, hzero] at hneg
    rw [Except.ok.injEq]
    omega

/-- Only texts are read off byte strings as numbers, and only those that spell one. -/
theorem natural?_bulk {data : Bytes} {n : Nat} :
    (Reply.bulk data).natural? = .ok n ↔
      ∃ text, data = Bytes.ofString text ∧ Decimal.SpellsNatural text.toList n ∧ n < 2 ^ 64 := by
  have hread : (Reply.bulk data).natural? =
      (Reply.bulk data).text?.bind spelled? := rfl
  rw [hread, text?]
  constructor
  · intro h
    cases hdecode : Utf8.decode data with
    | error fault =>
        rw [hdecode] at h
        cases h
    | ok text =>
        rw [hdecode] at h
        obtain ⟨hspells, hn⟩ := spelled?_eq_ok_iff.mp h
        have hascii := fun c (hc : c ∈ text.toList) => hspells.spells.isAscii hc
        exact ⟨text, Utf8.eq_ofString_of_decode hascii hdecode, hspells, hn⟩
  · rintro ⟨text, rfl, h⟩
    rw [Utf8.decode_ofString]
    exact spelled?_eq_ok_iff.mpr h

/-- A number is read off the replies that hold it, and off no others. -/
theorem natural?_eq_ok_iff {reply : Reply} {n : Nat} : reply.natural? = .ok n ↔ reply.Holds n := by
  constructor
  · intro h
    cases reply with
    | integer value => exact .integer (natural?_integer.mp h)
    | status text =>
        obtain ⟨hspells, hn⟩ := spelled?_eq_ok_iff.mp h
        exact .status hspells hn
    | bulk data =>
        obtain ⟨text, rfl, hspells, hn⟩ := natural?_bulk.mp h
        exact .bulk hspells hn
    | error text => cases h
    | null => cases h
    | array items => cases h
  · intro h
    cases h with
    | integer h => exact natural?_integer.mpr h
    | status h hn => exact spelled?_eq_ok_iff.mpr ⟨h, hn⟩
    | bulk h hn => exact natural?_bulk.mpr ⟨_, rfl, h, hn⟩

/-! ### Answers -/

/-- A reply holds an answer: it is an array, and its first three elements hold the numbers of the
answer. -/
inductive HoldsAnswer : Reply → Answer → Prop
  | intro {first second third : Reply} {remaining reset allowed : Nat} (others : List Reply)
      (hremaining : first.Holds remaining) (hreset : second.Holds reset)
      (hallowed : third.Holds allowed) :
      HoldsAnswer (.array (first :: second :: third :: others)) ⟨remaining, reset, allowed ≠ 0⟩

end Reply

namespace Answer

open Reply

theorem ofReply?_cons (first second third : Reply) (others : List Reply) :
    ofReply? (.array (first :: second :: third :: others)) =
      first.natural?.bind fun remaining => second.natural?.bind fun reset =>
        third.natural?.bind fun allowed => .ok ⟨remaining, reset, allowed ≠ 0⟩ := rfl

/-- Where two steps of reading end well, the first has found something for the second. -/
theorem exists_of_bind_eq_ok {α β : Type} {x : Except ProtocolFault α}
    {f : α → Except ProtocolFault β} {b : β} (h : x.bind f = .ok b) :
    ∃ a, x = .ok a ∧ f a = .ok b := by
  cases x with
  | error fault => cases h
  | ok a => exact ⟨a, rfl, h⟩

/-- An answer is read off the replies that hold it, and off no others. -/
theorem ofReply?_eq_ok_iff {reply : Reply} {answer : Answer} :
    ofReply? reply = .ok answer ↔ reply.HoldsAnswer answer := by
  constructor
  · intro h
    cases reply with
    | array items =>
        obtain _ | ⟨first, _ | ⟨second, _ | ⟨third, others⟩⟩⟩ := items
        · cases h
        · cases h
        · cases h
        rw [ofReply?_cons] at h
        obtain ⟨remaining, hremaining, h⟩ := exists_of_bind_eq_ok h
        obtain ⟨reset, hreset, h⟩ := exists_of_bind_eq_ok h
        obtain ⟨allowed, hallowed, h⟩ := exists_of_bind_eq_ok h
        cases h
        exact .intro others (natural?_eq_ok_iff.mp hremaining) (natural?_eq_ok_iff.mp hreset)
          (natural?_eq_ok_iff.mp hallowed)
    | status text => cases h
    | error text => cases h
    | integer value => cases h
    | bulk data => cases h
    | null => cases h
  · rintro ⟨others, hremaining, hreset, hallowed⟩
    rw [ofReply?_cons, natural?_eq_ok_iff.mpr hremaining, natural?_eq_ok_iff.mpr hreset,
      natural?_eq_ok_iff.mpr hallowed]
    rfl

/-- A reply of three integers is written, read and understood as it was meant. -/
theorem ofReply?_integers {a b c : Nat} (ha : a < 2 ^ 63) (hb : b < 2 ^ 63) (hc : c < 2 ^ 63) :
    (Reply.decode (Reply.array [.integer (Int64.ofNat a), .integer (Int64.ofNat b),
      .integer (Int64.ofNat c)]).encode).bind ofReply? = .ok ⟨a, b, c ≠ 0⟩ := by
  have hword {n : Nat} (hn : n < 2 ^ 63) : (Reply.integer (Int64.ofNat n)).Holds n :=
    .integer (Int64.toInt_ofNat_of_lt hn)
  have hencodable : (Reply.array [.integer (Int64.ofNat a), .integer (Int64.ofNat b),
      .integer (Int64.ofNat c)]).Encodable :=
    ⟨show 3 ≤ Reader.maxElements by decide, trivial, trivial, trivial, trivial⟩
  have hread := Reader.fst_read_encode hencodable (show 1 ≤ Reader.maxDepth by decide)
  rw [Reply.decode, hread]
  exact ofReply?_eq_ok_iff.mpr (.intro [] (hword ha) (hword hb) (hword hc))

/-- **Which replies are answers.** An answer is read off a reply if and only if the reply is an
array whose first three elements hold its numbers, and any other reply is a protocol error.  In
particular three integers that are sent are the answer that is read, and the decimal of a number
below `2 ^ 64` is read as that number. -/
theorem ofReply?_iff_holds :
    (∀ reply answer, ofReply? reply = .ok answer ↔ reply.HoldsAnswer answer) ∧
    (∀ reply : Reply, (¬ ∃ answer, reply.HoldsAnswer answer) →
      ∃ fault, ofReply? reply = .error fault ∧
        ofResult? (.ok (some reply)) = .error (.protocol fault)) ∧
    (∀ a b c : Nat, a < 2 ^ 63 → b < 2 ^ 63 → c < 2 ^ 63 →
      (Reply.decode (Reply.array [.integer (Int64.ofNat a), .integer (Int64.ofNat b),
        .integer (Int64.ofNat c)]).encode).bind ofReply? = .ok ⟨a, b, c ≠ 0⟩) ∧
    ∀ v : Nat, v < 2 ^ 64 → (Reply.bulk (Bytes.ofString (toString v))).natural? = .ok v := by
  refine ⟨fun reply answer => ofReply?_eq_ok_iff, fun reply hnone => ?_,
    fun a b c => ofReply?_integers, fun v hv => ?_⟩
  · cases hread : ofReply? reply with
    | ok answer => exact absurd ⟨answer, ofReply?_eq_ok_iff.mp hread⟩ hnone
    | error fault =>
        refine ⟨fault, rfl, ?_⟩
        change (ofReply? reply).mapError Error.protocol = _
        rw [hread]
        rfl
  · exact natural?_eq_ok_iff.mpr (.bulk (Decimal.spellsNatural_toString v) hv)

/-- A negative number is refused; the greatest numbers are read as they are. -/
theorem ofReply?_iff_holds_greatest :
    let negative : Reply := .array [.integer (-1), .integer 0, .integer 0]
    (∃ fault, ofResult? (.ok (some negative)) = .error (.protocol fault)) ∧
      (Reply.decode (Reply.array [.integer (Int64.ofNat (2 ^ 63 - 1)), .integer (Int64.ofNat 0),
        .integer (Int64.ofNat 1)]).encode).bind ofReply? = .ok ⟨2 ^ 63 - 1, 0, true⟩ ∧
      (Reply.bulk (Bytes.ofString (toString (2 ^ 64 - 1)))).natural? = .ok (2 ^ 64 - 1) := by
  obtain ⟨-, hrefused, hintegers, hbulk⟩ := ofReply?_iff_holds
  have hnone : ¬ ∃ answer,
      (Reply.array [.integer (-1), .integer 0, .integer 0]).HoldsAnswer answer := by
    rintro ⟨answer, h⟩
    cases h with
    | intro others hremaining hreset hallowed =>
        cases hremaining with
        | integer h => cases h
  obtain ⟨fault, -, hfault⟩ := hrefused _ hnone
  exact ⟨⟨fault, hfault⟩, hintegers _ 0 1 (by decide) (by decide) (by decide),
    hbulk _ (by decide)⟩

end Answer

end RateLimit
