import Mathlib.Logic.Basic
import Mathlib.Tactic.SplitIfs
import RateLimit.Proofs.Text.Utf8

/-!
# Characters of ASCII in a reading

A character of several bytes is never one of ASCII, because of the bounds on its second byte; nor is
the replacement character.  So a character of ASCII in the lenient reading of a byte string is a
byte of its own there, in the same place: lenient reading puts no end of a line into a text, and
what is read strictly as a text of ASCII is written like it.

NUL is left out, since a number that is no code point counts as NUL.

## Main definitions

* `Utf8.IsAscii` : the characters of ASCII other than NUL.
* `Utf8.Opened.Long` : an opened character that comes to a number beyond ASCII.

## Main results

* `Utf8.infix_of_infix_lossy` : what a lenient reading shows as ASCII are these bytes.
* `Utf8.eq_ofString_of_decode` : what is read strictly as ASCII is written as it.
-/

namespace RateLimit.Utf8

/-- The characters of ASCII other than NUL. -/
def IsAscii (c : Char) : Prop :=
  0 < c.toNat ∧ c.toNat < 0x80

instance : DecidablePred IsAscii := fun c =>
  inferInstanceAs (Decidable (0 < c.toNat ∧ c.toNat < 0x80))

theorem toNat_ofNat_of_isValidChar {v : Nat} (h : v.isValidChar) : (Char.ofNat v).toNat = v := by
  rw [Char.ofNat, dif_pos h]
  rfl

/-- A number beyond ASCII is no character of ASCII. -/
theorem not_isAscii_ofNat {v : Nat} (h : 0x80 ≤ v) : ¬ IsAscii (Char.ofNat v) := by
  by_cases hv : v.isValidChar
  · rw [IsAscii, toNat_ofNat_of_isValidChar hv]
    omega
  · rw [Char.ofNat, dif_neg hv]
    decide

theorem not_isAscii_replacement : ¬ IsAscii '\uFFFD' := by
  decide

/-! ### Characters of several bytes -/

/-- An opened character comes to a number beyond ASCII: enough is spelled already, or enough will be
after the next byte, and then another byte is still owed. -/
def Opened.Long (p : Opened) : Prop :=
  2 ≤ p.bits ∨ 2 ≤ p.owed ∧ (1 ≤ p.bits ∨ 0x90 ≤ p.low.toNat)

theorem long_of_first {b : UInt8} {p : Opened} (h : first b = .inr p) : p.Long := by
  obtain ⟨n, hn, rfl⟩ : ∃ n < 256, b = UInt8.ofNat n :=
    ⟨b.toNat, b.toNat_lt, UInt8.ofNat_toNat.symm⟩
  rw [first_ofNat hn] at h
  have hA0 : (0xA0 : UInt8).toNat = 0xA0 := rfl
  have h90 : (0x90 : UInt8).toNat = 0x90 := rfl
  simp only [ite_eq_iff, reduceCtorEq, and_false, false_or, or_false, Sum.inr.injEq] at h
  obtain ⟨-, hC2, ⟨-, rfl⟩ | ⟨hE0, ⟨-, rfl⟩ | ⟨hneE0, ⟨-, rfl⟩ | ⟨-, ⟨-, rfl⟩ | ⟨hF0, ⟨-, rfl⟩ |
    ⟨hneF0, ⟨-, rfl⟩ | ⟨-, -, rfl⟩⟩⟩⟩⟩⟩⟩ := h
  all_goals
    simp only [Opened.Long, hA0, h90]
    omega

namespace Opened.Long

variable {p : Opened} {b : UInt8}

theorem next {q : Opened} (hp : p.Long) (h : p.next b = some (.inr q)) : q.Long := by
  unfold Opened.next at h
  dsimp only at h
  split_ifs at h with hb howed
  · cases h
  simp only [Option.some.injEq, Sum.inr.injEq] at h
  subst h
  have hlow := UInt8.le_iff_toNat_le.mp hb.1
  -- The bits are multiplied by 64, so that one of them, or a byte of at least `0x90`, is enough.
  left
  dsimp only
  rcases hp with hbits | ⟨-, hbits | hlow'⟩ <;> omega

/-- No character of ASCII has several bytes. -/
theorem not_isAscii {piece : Piece} (hp : p.Long) (h : p.next b = some (.inl piece)) :
    ¬ IsAscii piece.lossy := by
  unfold Opened.next at h
  dsimp only at h
  split_ifs at h with hb howed <;> cases h
  refine not_isAscii_ofNat ?_
  rcases hp with hbits | ⟨howed', -⟩ <;> omega

/-- The reading that goes on with an opened character does not begin with a character of ASCII. -/
theorem not_isAscii_head (hp : p.Long) {bs : Bytes} {c : Char} {cs : List Char}
    (h : (piecesFrom (some p) bs).map Piece.lossy = c :: cs) : ¬ IsAscii c := by
  induction bs generalizing p with
  | nil =>
      cases h
      exact not_isAscii_replacement
  | cons b bs ih =>
      rw [piecesFrom] at h
      split at h
      · rename_i piece hnext
        cases h
        exact hp.not_isAscii hnext
      · rename_i q hnext
        exact ih (hp.next hnext) h
      · cases h
        exact not_isAscii_replacement

end Opened.Long

/-! ### Characters of ASCII in a lenient reading -/

/-- A byte that opens no character is a character of its own, or none. -/
theorem eq_of_first {b : UInt8} {piece : Piece} (h : first b = .inl piece) :
    piece = .char (Char.ofNat b.toNat) ∨ piece = .malformed 1 := by
  simp only [first, ite_eq_iff, reduceCtorEq, and_false, false_or, Sum.inl.injEq] at h
  obtain ⟨-, rfl⟩ | ⟨-, ⟨-, rfl⟩ | ⟨-, -, -, -, -, -, -, -, rfl⟩⟩ := h
  · exact .inl rfl
  · exact .inr rfl
  · exact .inr rfl

/-- A character of ASCII at the front of a lenient reading is the byte at the front. -/
theorem eq_cons_of_lossy_eq_cons {bs : Bytes} {c : Char} {cs : List Char} (hc : IsAscii c)
    (h : (pieces bs).map Piece.lossy = c :: cs) :
    ∃ bs', bs = UInt8.ofNat c.toNat :: bs' ∧ cs = (pieces bs').map Piece.lossy := by
  cases bs with
  | nil => cases h
  | cons b bs =>
      rw [pieces, piecesFrom] at h
      split at h
      · rename_i piece hfirst
        rw [List.map_cons, List.cons.injEq] at h
        obtain ⟨hpiece, hcs⟩ := h
        refine ⟨bs, ?_, hcs.symm⟩
        obtain rfl | rfl := eq_of_first hfirst
        · have hvalid : b.toNat.isValidChar := .inl (Nat.lt_trans b.toNat_lt (by decide))
          subst hpiece
          change b :: bs = UInt8.ofNat (Char.ofNat b.toNat).toNat :: bs
          rw [toNat_ofNat_of_isValidChar hvalid, UInt8.ofNat_toNat]
        · subst hpiece
          exact absurd hc not_isAscii_replacement
      · rename_i p hfirst
        exact absurd hc ((long_of_first hfirst).not_isAscii_head h)

/-- What begins a lenient reading as ASCII begins the byte string. -/
theorem prefix_of_prefix_lossy {bs : Bytes} {cs : List Char} (hcs : ∀ c ∈ cs, IsAscii c)
    (h : cs <+: (pieces bs).map Piece.lossy) : cs.flatMap String.utf8EncodeChar <+: bs := by
  induction cs generalizing bs with
  | nil => exact List.nil_prefix
  | cons c cs ih =>
      have hc := hcs c List.mem_cons_self
      obtain ⟨rest, hrest⟩ := h
      obtain ⟨bs', rfl, hlater⟩ := eq_cons_of_lossy_eq_cons hc hrest.symm
      rw [List.flatMap_cons, utf8EncodeChar_of_lt hc.2, List.singleton_append,
        List.cons_prefix_cons]
      exact ⟨rfl, ih (fun d hd => hcs d (List.mem_cons_of_mem _ hd)) ⟨rest, hlater⟩⟩

/-- Where a character of ASCII stands in a lenient reading, a reading of its own could begin. -/
theorem exists_suffix_of_suffix_lossy {bs : Bytes} {c : Char} {cs : List Char} (hc : IsAscii c)
    {opened : Option Opened} (hopened : ∀ p ∈ opened, p.Long)
    (h : c :: cs <:+ (piecesFrom opened bs).map Piece.lossy) :
    ∃ bs', bs' <:+ bs ∧ (pieces bs').map Piece.lossy = c :: cs := by
  induction bs generalizing opened with
  | nil =>
      cases opened with
      | none => cases List.suffix_nil.mp h
      | some p =>
          obtain heq | hlater := List.suffix_cons_iff.mp h
          · cases heq
            exact absurd hc not_isAscii_replacement
          · cases List.suffix_nil.mp hlater
  | cons b bs ih =>
      have hnone : ∀ p ∈ (none : Option Opened), p.Long := fun p hp => by cases hp
      have hsome {p : Opened} (hp : p.Long) : ∀ q ∈ some p, q.Long := fun q hq => by
        cases hq
        exact hp
      have hlater {opened : Option Opened} (hopened : ∀ p ∈ opened, p.Long)
          (h : c :: cs <:+ (piecesFrom opened bs).map Piece.lossy) :
          ∃ bs', bs' <:+ b :: bs ∧ (pieces bs').map Piece.lossy = c :: cs := by
        obtain ⟨bs', hbs', hread⟩ := ih hopened h
        exact ⟨bs', hbs'.trans (List.suffix_cons b bs), hread⟩
      have hbetween (h : c :: cs <:+ (pieces (b :: bs)).map Piece.lossy) :
          ∃ bs', bs' <:+ b :: bs ∧ (pieces bs').map Piece.lossy = c :: cs := by
        cases hfirst : first b with
        | inl piece =>
            have hpieces : pieces (b :: bs) = piece :: pieces bs := by
              rw [pieces, piecesFrom, hfirst]
              rfl
            rw [hpieces, List.map_cons] at h
            obtain heq | hin := List.suffix_cons_iff.mp h
            · exact ⟨b :: bs, List.suffix_refl _, by rw [hpieces, List.map_cons, heq]⟩
            · exact hlater hnone hin
        | inr p =>
            rw [pieces, piecesFrom, hfirst] at h
            exact hlater (hsome (long_of_first hfirst)) h
      cases opened with
      | none => exact hbetween h
      | some p =>
          have hp := hopened p rfl
          rw [piecesFrom] at h
          split at h
          · rename_i piece hnext
            obtain heq | hin := List.suffix_cons_iff.mp h
            · cases heq
              exact absurd hc (hp.not_isAscii hnext)
            · exact hlater hnone hin
          · rename_i q hnext
            exact hlater (hsome (hp.next hnext)) h
          · obtain heq | hin := List.suffix_cons_iff.mp h
            · cases heq
              exact absurd hc not_isAscii_replacement
            · exact hbetween hin

/-- **What a lenient reading shows as ASCII are these bytes.** A text of ASCII that stands in the
lenient reading of a byte string stands in the byte string. -/
theorem infix_of_infix_lossy {bs : Bytes} {cs : List Char} (hcs : ∀ c ∈ cs, IsAscii c)
    (h : cs <:+: (lossy bs).toList) : cs.flatMap String.utf8EncodeChar <:+: bs := by
  cases cs with
  | nil => exact List.nil_infix
  | cons c cs =>
      rw [lossy, String.toList_ofList] at h
      obtain ⟨later, hprefix, hsuffix⟩ := List.infix_iff_prefix_suffix.mp h
      obtain ⟨more, rfl⟩ := hprefix
      obtain ⟨bs', hbs', hread⟩ := exists_suffix_of_suffix_lossy (hcs c List.mem_cons_self)
        (fun p hp => by cases hp) hsuffix
      have hbytes : (c :: cs).flatMap String.utf8EncodeChar <+: bs' :=
        prefix_of_prefix_lossy hcs ⟨more, hread.symm⟩
      exact hbytes.isInfix.trans hbs'.isInfix

/-- Lenient reading puts no end of a line into a text. -/
theorem crlf_infix_of_lossy {bs : Bytes} (h : ['\r', '\n'] <:+: (lossy bs).toList) :
    crlf <:+: bs := by
  refine infix_of_infix_lossy (List.forall_mem_cons.mpr ⟨by decide, ?_⟩) h
  exact List.forall_mem_singleton.mpr (by decide)

/-! ### Texts of ASCII -/

theorem piecesFrom_some_ne_nil (p : Opened) (bs : Bytes) : piecesFrom (some p) bs ≠ [] := by
  induction bs generalizing p with
  | nil => exact List.cons_ne_nil _ _
  | cons b bs ih =>
      rw [piecesFrom]
      split
      · exact List.cons_ne_nil _ _
      · exact ih _
      · exact List.cons_ne_nil _ _

theorem eq_nil_of_pieces_eq_nil {bs : Bytes} (h : pieces bs = []) : bs = [] := by
  cases bs with
  | nil => rfl
  | cons b bs =>
      rw [pieces, piecesFrom] at h
      split at h
      · cases h
      · exact absurd h (piecesFrom_some_ne_nil _ bs)

/-- Bytes whose lenient reading is a text of ASCII are those of the text. -/
theorem eq_flatMap_of_lossy_eq {bs : Bytes} {cs : List Char} (hcs : ∀ c ∈ cs, IsAscii c)
    (h : (pieces bs).map Piece.lossy = cs) : bs = cs.flatMap String.utf8EncodeChar := by
  induction cs generalizing bs with
  | nil => exact eq_nil_of_pieces_eq_nil (List.map_eq_nil_iff.mp h)
  | cons c cs ih =>
      have hc := hcs c List.mem_cons_self
      obtain ⟨bs', rfl, hlater⟩ := eq_cons_of_lossy_eq_cons hc h
      rw [List.flatMap_cons, utf8EncodeChar_of_lt hc.2,
        ih (fun d hd => hcs d (List.mem_cons_of_mem _ hd)) hlater.symm]
      rfl

theorem eq_map_char_of_chars? {index : Nat} {found : List Piece} {cs : List Char}
    (h : chars? index found = .ok cs) : found = cs.map Piece.char := by
  induction found generalizing index cs with
  | nil =>
      cases h
      rfl
  | cons piece found ih =>
      cases piece with
      | char c =>
          rw [chars?] at h
          split at h
          · rename_i ds hds
            cases h
            rw [List.map_cons, ← ih hds]
          · cases h
      | malformed => cases h
      | truncated => cases h

/-- What is read strictly as a text of ASCII is written as it. -/
theorem eq_ofString_of_decode {bs : Bytes} {text : String} (hascii : ∀ c ∈ text.toList, IsAscii c)
    (h : decode bs = .ok text) : bs = Bytes.ofString text := by
  rw [decode] at h
  cases hchars : chars? 0 (pieces bs) with
  | error fault =>
      rw [hchars] at h
      cases h
  | ok cs =>
      rw [hchars] at h
      cases h
      rw [String.toList_ofList] at hascii
      rw [Bytes.ofString, String.toList_ofList]
      refine eq_flatMap_of_lossy_eq hascii ?_
      rw [eq_map_char_of_chars? hchars, List.map_map]
      exact List.map_id cs

end RateLimit.Utf8
