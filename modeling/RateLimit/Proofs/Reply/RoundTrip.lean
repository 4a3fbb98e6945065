import RateLimit.Proofs.Reply.Grammar
import RateLimit.Proofs.Text.Utf8

/-!
# Replies that are written and read back

The wire form of a reply is one of its spellings, provided that its lines hold no end of a line,
its byte strings and arrays are not too long, and its arrays are not nested too deeply.  So a reader
finds the reply that was written, takes exactly its wire form off the input, and leaves whatever
stands behind it.

## Main definitions

* `Reply.depth` : how many arrays of a reply are inside one another.
* `Reply.Encodable` : the replies whose lines, byte strings and arrays can be written.

## Main results

* `Reply.spells_encode` : the wire form of a reply spells it.
* `Reply.read_decode_encode` : a reply that is written is read back, whatever follows it.
-/

namespace RateLimit

namespace Reply

mutual

/-- How many arrays of a reply are inside one another at most. -/
def depth : Reply → Nat
  | .array items => depthAll items + 1
  | _ => 0

/-- How many arrays of some replies are inside one another at most. -/
def depthAll : List Reply → Nat
  | [] => 0
  | item :: items => max (depth item) (depthAll items)

end

mutual

/-- The lines of a reply hold no end of a line, and its byte strings and arrays are not too
long. -/
def Encodable : Reply → Prop
  | .status text | .error text => ¬ ['\r', '\n'] <:+: text.toList
  | .bulk data => data.length ≤ Reader.maxBulk
  | .array items => items.length ≤ Reader.maxElements ∧ EncodableAll items
  | .integer _ | .null => True

/-- Every one of some replies can be written. -/
def EncodableAll : List Reply → Prop
  | [] => True
  | item :: items => Encodable item ∧ EncodableAll items

end

mutual

/-- Whether a reply can be written is decidable. -/
def decEncodable : (reply : Reply) → Decidable reply.Encodable
  | .status text | .error text =>
      inferInstanceAs (Decidable (¬ ['\r', '\n'] <:+: text.toList))
  | .bulk data => inferInstanceAs (Decidable (data.length ≤ Reader.maxBulk))
  | .array items =>
      match decEncodableAll items with
      | isTrue h =>
          decidable_of_iff (items.length ≤ Reader.maxElements) (iff_self_and.mpr fun _ => h)
      | isFalse h => isFalse fun hall => h hall.2
  | .integer _ | .null => isTrue trivial

/-- Whether every one of some replies can be written is decidable. -/
def decEncodableAll : (items : List Reply) → Decidable (EncodableAll items)
  | [] => isTrue trivial
  | item :: items =>
      match decEncodable item, decEncodableAll items with
      | isTrue h, isTrue hs => isTrue ⟨h, hs⟩
      | isFalse h, _ => isFalse fun hall => h hall.1
      | _, isFalse hs => isFalse fun hall => hs hall.2

end

instance : DecidablePred Encodable := decEncodable

/-! ### The parts of the wire form -/

theorem spellsLine_ofString {text : String} (h : ¬ ['\r', '\n'] <:+: text.toList) :
    SpellsLine (Bytes.ofString text ++ crlf) (Bytes.ofString text) :=
  .intro _ fun hin => h (Utf8.infix_of_crlf_infix hin)

theorem spellsNumber_toString (n : Int64) :
    SpellsNumber (Bytes.ofString (toString n.toInt) ++ crlf) n := by
  have hspells := Decimal.spells_toString n.toInt
  refine .intro (spellsLine_ofString ?_) ?_
  · rintro ⟨before, after, heq⟩
    refine hspells.ne_return (c := '\r') ?_ rfl
    rw [← heq]
    simp
  · rwa [Utf8.asciiChars_ofString fun c hc => hspells.toNat_lt hc]

/-- A length is written as the 64-bit word that spells it. -/
theorem spellsNumber_length {length max : Nat} (h : length ≤ max)
    (hmax : max < 9223372036854775808) :
    (Int64.ofNat length).toInt = length ∧
      SpellsNumber (Bytes.ofString (toString (length : Int)) ++ crlf) (Int64.ofNat length) := by
  have hlength : (Int64.ofNat length).toInt = length := Int64.toInt_ofNat_of_lt (by omega)
  have hspells := spellsNumber_toString (Int64.ofNat length)
  rw [hlength] at hspells
  exact ⟨hlength, hspells⟩

/-! ### Replies -/

mutual

/-- The wire form of a reply spells it. -/
theorem spells_encode {k : Nat} : (reply : Reply) → reply.Encodable → reply.depth ≤ k →
    Spells k reply.encode reply
  | .status text, h, _ => by
      have hspells := Spells.status (k := k) (spellsLine_ofString h)
      rwa [Utf8.lossy_ofString] at hspells
  | .error text, h, _ => by
      have hspells := Spells.error (k := k) (spellsLine_ofString h)
      rwa [Utf8.lossy_ofString] at hspells
  | .integer value, _, _ => .integer (spellsNumber_toString value)
  | .null, _, _ => .null (spellsNumber_toString (-1))
  | .bulk data, h, _ => by
      obtain ⟨hlength, hnumber⟩ := spellsNumber_length h (by decide)
      have hspells := Spells.bulk (k := k) hnumber hlength h
      rw [encode, encodeBulk, numberLine, line, List.append_assoc, List.cons_append]
      exact hspells
  | .array items, h, hdepth => by
      obtain ⟨hmax, hitems⟩ := h
      obtain ⟨hlength, hnumber⟩ := spellsNumber_length hmax (by decide)
      cases k with
      | zero => exact absurd hdepth (Nat.not_succ_le_zero _)
      | succ k =>
          have hall := spellsAll_encodeAll items hitems (Nat.le_of_succ_le_succ hdepth)
          exact .array hnumber hlength hmax hall

theorem spellsAll_encodeAll {k : Nat} : (items : List Reply) → EncodableAll items →
    depthAll items ≤ k → SpellsAll k (encodeAll items) items
  | [], _, _ => .nil
  | item :: items, h, hdepth =>
      .cons (spells_encode item h.1 (Nat.le_trans (Nat.le_max_left _ _) hdepth))
        (spellsAll_encodeAll items h.2 (Nat.le_trans (Nat.le_max_right _ _) hdepth))

end

end Reply

namespace Reader

/-- A reply that is written is read back, whatever follows it. -/
theorem read_encode {reply : Reply} (h : reply.Encodable) (hdepth : reply.depth ≤ maxDepth)
    (rest : Bytes) : read {} (reply.encode ++ rest) = (.complete reply rest, {}) :=
  readWithin_of_spells {} rest (Nat.le_refl _) (Reply.spells_encode reply h hdepth)

/-- What is written as a reply holds that reply and nothing else. -/
theorem fst_read_encode {reply : Reply} (h : reply.Encodable) (hdepth : reply.depth ≤ maxDepth) :
    (read {} reply.encode).1 = .complete reply [] := by
  rw [← List.append_nil reply.encode, read_encode h hdepth]

/-- The first reply that is taken off a buffer is the one at its front, with the bytes up to its
rest. -/
theorem head?_replies_drain {r r' : Reader} {buffer rest : Bytes} {reply : Reply}
    (h : r.read buffer = (.complete reply rest, r')) :
    (r.drain buffer).replies.head? = some (reply, buffer.length - rest.length) := by
  rw [drain]
  split
  · rename_i heq
    rw [h] at heq
    cases heq
  · rename_i heq
    rw [h] at heq
    cases heq
  · rename_i heq
    rw [h] at heq
    cases heq
    rfl

end Reader

namespace Reply

/-- **Decoding undoes encoding.** A reply that can be written is read off the front of any input
that begins with its wire form: the reader takes the bytes of the wire form, all of them and no
more, and stands where it stood.  As a complete input the wire form decodes to the reply. -/
theorem read_decode_encode (reply : Reply) (h : reply.Encodable)
    (hdepth : reply.depth ≤ Reader.maxDepth) (rest : Bytes) :
    Reader.read {} (reply.encode ++ rest) = (.complete reply rest, {}) ∧
      (Reader.drain {} (reply.encode ++ rest)).replies.head? =
        some (reply, reply.encode.length) ∧
      decode reply.encode = .ok reply := by
  have hread := Reader.read_encode h hdepth rest
  have hall := Reader.read_encode h hdepth []
  refine ⟨hread, ?_, ?_⟩
  · rw [Reader.head?_replies_drain hread, List.length_append, Nat.add_sub_cancel]
  · rw [List.append_nil] at hall
    rw [decode, hall]

/-- A nested reply with the end of a line in a byte string, and halves of one in its lines. -/
theorem read_decode_encode_nested :
    let reply : Reply := .array [.status "\r", .bulk crlf, .array [.error "\n", .null]]
    (reply.Encodable ∧ reply.depth ≤ Reader.maxDepth) ∧
      Reader.read {} (reply.encode ++ crlf) = (.complete reply crlf, {}) ∧
      (Reader.drain {} (reply.encode ++ crlf)).replies.head? =
        some (reply, reply.encode.length) ∧
      decode reply.encode = .ok reply := by
  intro reply
  have hencodable : reply.Encodable := by decide
  have hdepth : reply.depth ≤ Reader.maxDepth := by decide
  exact ⟨⟨hencodable, hdepth⟩, read_decode_encode reply hencodable hdepth crlf⟩

end Reply

end RateLimit
