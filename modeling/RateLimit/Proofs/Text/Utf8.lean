import RateLimit.Decimal.Integer
import RateLimit.Text.Utf8

/-!
# Texts that are written as UTF-8 and read back

A character is written as one to four bytes.  The first byte opens it with as many bytes owed and
with bounds on the second byte that the written byte keeps; the further bytes complete it.  So the
pieces of a written text are its characters, and both ways of reading find the text.

## Main results

* `Utf8.piecesFrom_utf8EncodeChar`: the bytes of a character are one piece.
* `Utf8.lossy_ofString`, `Utf8.decode_ofString`: both readings of a written text.
-/

namespace RateLimit.Utf8

/-! ### Bytes as numbers -/

theorem ofNat_lt_ofNat {m n : Nat} (hm : m < 256) (hn : n < 256) :
    UInt8.ofNat m < UInt8.ofNat n ↔ m < n := by
  rw [UInt8.lt_iff_toNat_lt, UInt8.toNat_ofNat_of_lt' hm, UInt8.toNat_ofNat_of_lt' hn]

theorem ofNat_eq_ofNat {m n : Nat} (hm : m < 256) (hn : n < 256) :
    UInt8.ofNat m = UInt8.ofNat n ↔ m = n := by
  rw [← UInt8.toNat_inj, UInt8.toNat_ofNat_of_lt' hm, UInt8.toNat_ofNat_of_lt' hn]

/-- The first byte of a character, by its number. -/
theorem first_ofNat {n : Nat} (hn : n < 256) :
    first (UInt8.ofNat n) =
      if n < 0x80 then .inl (.char (Char.ofNat n))
      else if n < 0xC2 then .inl (.malformed 1)
      else if n < 0xE0 then .inr ⟨n - 0xC0, 1, 1, 0x80, 0xBF⟩
      else if n = 0xE0 then .inr ⟨0, 1, 2, 0xA0, 0xBF⟩
      else if n = 0xED then .inr ⟨0xD, 1, 2, 0x80, 0x9F⟩
      else if n < 0xF0 then .inr ⟨n - 0xE0, 1, 2, 0x80, 0xBF⟩
      else if n = 0xF0 then .inr ⟨0, 1, 3, 0x90, 0xBF⟩
      else if n < 0xF4 then .inr ⟨n - 0xF0, 1, 3, 0x80, 0xBF⟩
      else if n = 0xF4 then .inr ⟨4, 1, 3, 0x80, 0x8F⟩
      else .inl (.malformed 1) := by
  have hlt (m : Nat) (hm : m < 256) := ofNat_lt_ofNat hn hm
  have heq (m : Nat) (hm : m < 256) := ofNat_eq_ofNat hn hm
  simp only [first, UInt8.toNat_ofNat_of_lt' hn]
  simp only [show (0x80 : UInt8) = UInt8.ofNat 0x80 from rfl,
    show (0xC2 : UInt8) = UInt8.ofNat 0xC2 from rfl,
    show (0xE0 : UInt8) = UInt8.ofNat 0xE0 from rfl,
    show (0xED : UInt8) = UInt8.ofNat 0xED from rfl,
    show (0xF0 : UInt8) = UInt8.ofNat 0xF0 from rfl,
    show (0xF4 : UInt8) = UInt8.ofNat 0xF4 from rfl, hlt 0x80 (by decide), hlt 0xC2 (by decide),
    hlt 0xE0 (by decide), heq 0xE0 (by decide), heq 0xED (by decide), hlt 0xF0 (by decide),
    heq 0xF0 (by decide), hlt 0xF4 (by decide), heq 0xF4 (by decide)]

/-- A byte that continues a character, within the bounds that are open. -/
theorem next_ofNat (p : Opened) {n : Nat} (hn : n < 0x40) (hlow : p.low.toNat ≤ 0x80 + n)
    (hhigh : 0x80 + n ≤ p.high.toNat) :
    p.next (UInt8.ofNat (n + 0x80)) =
      if p.owed ≤ 1 then some (.inl (.char (Char.ofNat (p.bits * 64 + n))))
      else some (.inr ⟨p.bits * 64 + n, p.taken + 1, p.owed - 1, 0x80, 0xBF⟩) := by
  have hb : (UInt8.ofNat (n + 0x80)).toNat = n + 0x80 :=
    UInt8.toNat_ofNat_of_lt' (show n + 0x80 < 256 by omega)
  have hbounds : p.low ≤ UInt8.ofNat (n + 0x80) ∧ UInt8.ofNat (n + 0x80) ≤ p.high := by
    rw [UInt8.le_iff_toNat_le, UInt8.le_iff_toNat_le, hb]
    omega
  rw [Opened.next, if_pos hbounds, hb, Nat.add_sub_cancel]

/-- The first byte of a character of two bytes. -/
theorem first_of_two {v : Nat} (hlow : 0x80 ≤ v) (hhigh : v < 0x800) :
    first (UInt8.ofNat (v / 64 % 0x20 + 0xC0)) = .inr ⟨v / 64, 1, 1, 0x80, 0xBF⟩ := by
  have hv : v / 64 % 0x20 = v / 64 := Nat.mod_eq_of_lt (by omega)
  rw [hv, first_ofNat (by omega), if_neg (by omega), if_neg (by omega), if_pos (by omega),
    Nat.add_sub_cancel]

/-- The first byte of a character of three bytes.  The bounds leave out overlong forms behind the
least first byte, and surrogates behind the thirteenth. -/
theorem first_of_three {v : Nat} (hlow : 0x800 ≤ v) (hhigh : v < 0x10000)
    (hv : v < 0xD800 ∨ 0xDFFF < v) :
    ∃ low high : UInt8, first (UInt8.ofNat (v / 4096 % 0x10 + 0xE0)) =
        .inr ⟨v / 4096, 1, 2, low, high⟩ ∧
      low.toNat ≤ 0x80 + v / 64 % 0x40 ∧ 0x80 + v / 64 % 0x40 ≤ high.toNat := by
  have hdiv : v / 4096 % 0x10 = v / 4096 := Nat.mod_eq_of_lt (by omega)
  rw [hdiv, first_ofNat (by omega), if_neg (by omega), if_neg (by omega), if_neg (by omega)]
  by_cases h0 : v / 4096 = 0
  · refine ⟨0xA0, 0xBF, by rw [if_pos (by omega), h0], ?_, ?_⟩
    · change 0xA0 ≤ _
      omega
    · change _ ≤ 0xBF
      omega
  rw [if_neg (by omega)]
  by_cases hD : v / 4096 = 0xD
  · refine ⟨0x80, 0x9F, by rw [if_pos (by omega), hD], ?_, ?_⟩
    · change 0x80 ≤ _
      omega
    · change _ ≤ 0x9F
      omega
  refine ⟨0x80, 0xBF, ?_, ?_, ?_⟩
  · rw [if_neg (by omega), if_pos (by omega), Nat.add_sub_cancel]
  · change 0x80 ≤ _
    omega
  · change _ ≤ 0xBF
    omega

/-- The first byte of a character of four bytes.  The bounds leave out overlong forms behind the
least first byte, and numbers above the last code point behind the greatest. -/
theorem first_of_four {v : Nat} (hlow : 0x10000 ≤ v) (hhigh : v < 0x110000) :
    ∃ low high : UInt8, first (UInt8.ofNat (v / 262144 % 0x08 + 0xF0)) =
        .inr ⟨v / 262144, 1, 3, low, high⟩ ∧
      low.toNat ≤ 0x80 + v / 4096 % 0x40 ∧ 0x80 + v / 4096 % 0x40 ≤ high.toNat := by
  have hdiv : v / 262144 % 0x08 = v / 262144 := Nat.mod_eq_of_lt (by omega)
  rw [hdiv, first_ofNat (by omega), if_neg (by omega), if_neg (by omega), if_neg (by omega),
    if_neg (by omega), if_neg (by omega), if_neg (by omega)]
  by_cases h0 : v / 262144 = 0
  · refine ⟨0x90, 0xBF, by rw [if_pos (by omega), h0], ?_, ?_⟩
    · change 0x90 ≤ _
      omega
    · change _ ≤ 0xBF
      omega
  rw [if_neg (by omega)]
  by_cases h4 : v / 262144 = 4
  · refine ⟨0x80, 0x8F, by rw [if_neg (by omega), if_pos (by omega), h4], ?_, ?_⟩
    · change 0x80 ≤ _
      omega
    · change _ ≤ 0x8F
      omega
  refine ⟨0x80, 0xBF, ?_, ?_, ?_⟩
  · rw [if_pos (by omega), Nat.add_sub_cancel]
  · change 0x80 ≤ _
    omega
  · change _ ≤ 0xBF
    omega

/-! ### Characters -/

theorem piecesFrom_cons_char {b : UInt8} {c : Char} (bs : Bytes) (h : first b = .inl (.char c)) :
    piecesFrom none (b :: bs) = .char c :: piecesFrom none bs := by
  rw [piecesFrom, h]

theorem piecesFrom_cons_opened {b : UInt8} {p : Opened} (bs : Bytes) (h : first b = .inr p) :
    piecesFrom none (b :: bs) = piecesFrom (some p) bs := by
  rw [piecesFrom, h]

/-- The last byte of a character. -/
theorem piecesFrom_last (p : Opened) {n : Nat} (bs : Bytes) (howed : p.owed ≤ 1) (hn : n < 0x40)
    (hlow : p.low.toNat ≤ 0x80 + n) (hhigh : 0x80 + n ≤ p.high.toNat) :
    piecesFrom (some p) (UInt8.ofNat (n + 0x80) :: bs) =
      .char (Char.ofNat (p.bits * 64 + n)) :: piecesFrom none bs := by
  rw [piecesFrom, next_ofNat p hn hlow hhigh, if_pos howed]

/-- A byte of a character that is not its last. -/
theorem piecesFrom_inner (p : Opened) {n : Nat} (bs : Bytes) (howed : 1 < p.owed) (hn : n < 0x40)
    (hlow : p.low.toNat ≤ 0x80 + n) (hhigh : 0x80 + n ≤ p.high.toNat) :
    piecesFrom (some p) (UInt8.ofNat (n + 0x80) :: bs) =
      piecesFrom (some ⟨p.bits * 64 + n, p.taken + 1, p.owed - 1, 0x80, 0xBF⟩) bs := by
  rw [piecesFrom, next_ofNat p hn hlow hhigh, if_neg (by omega)]

theorem tail_bounds {n : Nat} (hn : n < 0x40) :
    (0x80 : UInt8).toNat ≤ 0x80 + n ∧ 0x80 + n ≤ (0xBF : UInt8).toNat := by
  change 0x80 ≤ 0x80 + n ∧ 0x80 + n ≤ 0xBF
  omega

/-- The bytes of a character are one piece. -/
theorem piecesFrom_utf8EncodeChar (c : Char) (bs : Bytes) :
    piecesFrom none (String.utf8EncodeChar c ++ bs) = .char c :: piecesFrom none bs := by
  have hvalid : c.val.toNat < 0xD800 ∨ 0xDFFF < c.val.toNat ∧ c.val.toNat < 0x110000 := c.valid
  have hc : Char.ofNat c.val.toNat = c := Char.ofNat_toNat c
  rw [String.utf8EncodeChar]
  generalize c.val.toNat = v at hvalid hc
  split
  · have hfirst : first (UInt8.ofNat v) = .inl (.char (Char.ofNat v)) := by
      rw [first_ofNat (by omega), if_pos (by omega)]
    rw [List.cons_append, List.nil_append, piecesFrom_cons_char bs hfirst, hc]
  split
  · have hlast := tail_bounds (n := v % 0x40) (by omega)
    have hbits : v / 64 * 64 + v % 0x40 = v := by omega
    simp only [List.cons_append, List.nil_append]
    rw [piecesFrom_cons_opened _ (first_of_two (by omega) (by omega)),
      piecesFrom_last _ bs (Nat.le_refl 1) (by omega) hlast.1 hlast.2, hbits, hc]
  split
  · obtain ⟨low, high, hfirst, hlow, hhigh⟩ :=
      first_of_three (v := v) (by omega) (by omega) (by omega)
    have hlast := tail_bounds (n := v % 0x40) (by omega)
    have hbits : (v / 4096 * 64 + v / 64 % 0x40) * 64 + v % 0x40 = v := by omega
    simp only [List.cons_append, List.nil_append]
    rw [piecesFrom_cons_opened _ hfirst,
      piecesFrom_inner _ _ (Nat.lt_succ_self 1) (by omega) hlow hhigh,
      piecesFrom_last _ bs (Nat.le_refl 1) (by omega) hlast.1 hlast.2, hbits, hc]
  · obtain ⟨low, high, hfirst, hlow, hhigh⟩ := first_of_four (v := v) (by omega) (by omega)
    have hinner := tail_bounds (n := v / 64 % 0x40) (by omega)
    have hlast := tail_bounds (n := v % 0x40) (by omega)
    have hbits :
        ((v / 262144 * 64 + v / 4096 % 0x40) * 64 + v / 64 % 0x40) * 64 + v % 0x40 = v := by
      omega
    simp only [List.cons_append, List.nil_append]
    rw [piecesFrom_cons_opened _ hfirst,
      piecesFrom_inner _ _ (show 1 < 3 by omega) (by omega) hlow hhigh,
      piecesFrom_inner _ _ (Nat.lt_succ_self 1) (by omega) hinner.1 hinner.2,
      piecesFrom_last _ bs (Nat.le_refl 1) (by omega) hlast.1 hlast.2, hbits, hc]

/-! ### Texts -/

theorem pieces_ofString (text : String) :
    pieces (Bytes.ofString text) = text.toList.map Piece.char := by
  rw [pieces, Bytes.ofString]
  induction text.toList with
  | nil => rfl
  | cons c cs ih => rw [List.flatMap_cons, piecesFrom_utf8EncodeChar, ih, List.map_cons]

/-- Lenient reading finds the text that was written. -/
theorem lossy_ofString (text : String) : lossy (Bytes.ofString text) = text := by
  rw [lossy, pieces_ofString, List.map_map]
  change String.ofList (text.toList.map id) = text
  rw [List.map_id, String.ofList_toList]

theorem chars?_map_char (index : Nat) (cs : List Char) :
    chars? index (cs.map Piece.char) = .ok cs := by
  induction cs generalizing index with
  | nil => rfl
  | cons c cs ih => rw [List.map_cons, chars?, ih]

/-- Strict reading finds the text that was written. -/
theorem decode_ofString (text : String) : decode (Bytes.ofString text) = .ok text := by
  rw [decode, pieces_ofString, chars?_map_char]
  exact congrArg Except.ok String.ofList_toList

/-! ### Bytes of ASCII -/

theorem utf8EncodeChar_of_lt {c : Char} (h : c.toNat < 0x80) :
    String.utf8EncodeChar c = [UInt8.ofNat c.toNat] := by
  have hle : c.val.toNat ≤ 0x7f := Nat.le_of_lt_succ h
  rw [String.utf8EncodeChar, if_pos hle]
  rfl

theorem le_of_mem_utf8EncodeChar {c : Char} (h : 0x80 ≤ c.toNat) {b : UInt8}
    (hb : b ∈ String.utf8EncodeChar c) : 0x80 ≤ b.toNat := by
  have hle : ¬ c.val.toNat ≤ 0x7f := fun hle => absurd (Nat.lt_succ_of_le hle) (Nat.not_lt.mpr h)
  have hge (m k : Nat) (hk : 0x80 ≤ k) (hm : m + k < 256) : 0x80 ≤ (UInt8.ofNat (m + k)).toNat := by
    rw [UInt8.toNat_ofNat_of_lt' hm]
    omega
  rw [String.utf8EncodeChar, if_neg hle] at hb
  split at hb
  · simp only [List.mem_cons, List.not_mem_nil, or_false] at hb
    rcases hb with rfl | rfl <;> exact hge _ _ (by decide) (by omega)
  split at hb
  · simp only [List.mem_cons, List.not_mem_nil, or_false] at hb
    rcases hb with rfl | rfl | rfl <;> exact hge _ _ (by decide) (by omega)
  · simp only [List.mem_cons, List.not_mem_nil, or_false] at hb
    rcases hb with rfl | rfl | rfl | rfl <;> exact hge _ _ (by decide) (by omega)

theorem toNat_ofNat_toNat {c : Char} (h : c.toNat < 0x80) :
    (UInt8.ofNat c.toNat).toNat = c.toNat :=
  UInt8.toNat_ofNat_of_lt' (show c.toNat < 256 by omega)

/-- A text of ASCII is read off its bytes. -/
theorem asciiChars_ofString {text : String} (h : ∀ c ∈ text.toList, c.toNat < 0x80) :
    Decimal.asciiChars (Bytes.ofString text) = text.toList := by
  rw [Bytes.ofString]
  generalize text.toList = cs at h
  induction cs with
  | nil => rfl
  | cons c cs ih =>
      have hc := h c List.mem_cons_self
      have hrest := ih fun d hd => h d (List.mem_cons_of_mem _ hd)
      rw [List.flatMap_cons, utf8EncodeChar_of_lt hc, List.singleton_append, Decimal.asciiChars,
        List.map_cons, ← Decimal.asciiChars, hrest, toNat_ofNat_toNat hc, Char.ofNat_toNat]

/-- A first byte below `0x80` is the number of the first character. -/
theorem eq_cons_of_flatMap_eq_cons {cs : List Char} {b : UInt8} {bs : Bytes}
    (hb : b.toNat < 0x80) (h : cs.flatMap String.utf8EncodeChar = b :: bs) :
    ∃ c ds, cs = c :: ds ∧ c.toNat = b.toNat ∧ ds.flatMap String.utf8EncodeChar = bs := by
  cases cs with
  | nil => cases h
  | cons c ds =>
      rw [List.flatMap_cons] at h
      by_cases hc : c.toNat < 0x80
      · rw [utf8EncodeChar_of_lt hc, List.singleton_append, List.cons.injEq] at h
        exact ⟨c, ds, rfl, by rw [← h.1, toNat_ofNat_toNat hc], h.2⟩
      · cases henc : String.utf8EncodeChar c with
        | nil => exact absurd henc String.utf8EncodeChar_ne_nil
        | cons a as =>
            rw [henc, List.cons_append, List.cons.injEq] at h
            have ha : 0x80 ≤ a.toNat :=
              le_of_mem_utf8EncodeChar (Nat.le_of_not_lt hc) (henc ▸ List.mem_cons_self)
            rw [h.1] at ha
            omega

/-- The end of a line does not begin among bytes of at least `0x80`. -/
theorem crlf_infix_of_infix_append {bs more : Bytes} (hbs : ∀ b ∈ bs, 0x80 ≤ b.toNat)
    (h : crlf <:+: bs ++ more) : crlf <:+: more := by
  induction bs with
  | nil => exact h
  | cons b bs ih =>
      rcases List.infix_cons_iff.mp h with ⟨rest, hrest⟩ | h
      · rw [crlf, List.cons_append, List.cons.injEq] at hrest
        have hb := hbs b List.mem_cons_self
        rw [← hrest.1] at hb
        exact absurd hb (by decide)
      · exact ih (fun b hb => hbs b (List.mem_cons_of_mem _ hb)) h

/-- The end of a line among the bytes of a text is one among its characters. -/
theorem infix_of_crlf_infix {cs : List Char} (h : crlf <:+: cs.flatMap String.utf8EncodeChar) :
    ['\r', '\n'] <:+: cs := by
  induction cs with
  | nil => exact absurd (List.infix_nil.mp h) (by decide)
  | cons c cs ih =>
      rw [List.flatMap_cons] at h
      by_cases hc : c.toNat < 0x80
      · rw [utf8EncodeChar_of_lt hc, List.singleton_append] at h
        rcases List.infix_cons_iff.mp h with ⟨rest, hrest⟩ | hin
        · rw [crlf, List.cons_append, List.cons.injEq, List.singleton_append] at hrest
          obtain ⟨d, ds, rfl, hd, -⟩ := eq_cons_of_flatMap_eq_cons (by decide) hrest.2.symm
          have hc' : c.toNat = '\r'.toNat := by rw [← toNat_ofNat_toNat hc, ← hrest.1]; rfl
          obtain rfl : c = '\r' := Char.toNat_inj.mp hc'
          obtain rfl : d = '\n' := Char.toNat_inj.mp hd
          exact ⟨[], ds, rfl⟩
        · exact List.infix_cons (ih hin)
      · exact List.infix_cons <| ih <| crlf_infix_of_infix_append
          (fun b hb => le_of_mem_utf8EncodeChar (Nat.le_of_not_lt hc) hb) h

end RateLimit.Utf8
