import RateLimit.Proofs.Reply.Recognition
import RateLimit.Proofs.Reply.RoundTrip
import RateLimit.Proofs.Text.Ascii

/-!
# Normal forms of replies

A reply can be spelled in many ways: with signs and leading zeros in its numbers, with the absence
of an array, with bytes that are not UTF-8 in its lines.  Whatever the spelling, the reply that is
found can be written again, and its wire form is read as the same reply.  So writing what was read
brings a reply into a normal form, and reading and writing it again changes nothing.

## Main definitions

* `Reader.normalForm` : the wire form of the reply at the front of a byte string.

## Main results

* `Reply.encodable_of_spells`, `Reply.depth_le_of_spells` : a reply that is spelled can be written.
* `Reader.front_encode_of_front` : what was read can be written and read back.
-/

namespace RateLimit

namespace Reply

/-! ### What is spelled can be written -/

/-- The text of a line has no end of a line in it, also where bytes are replaced. -/
theorem not_crlf_infix_of_spellsLine {w text : Bytes} (h : SpellsLine w text) :
    ¬ ['\r', '\n'] <:+: (Utf8.lossy text).toList := by
  obtain ⟨_, htext⟩ := h
  exact fun hin => htext (Utf8.crlf_infix_of_lossy hin)

mutual

/-- A reply that is spelled can be written. -/
theorem encodable_of_spells {k : Nat} {w : Bytes} {reply : Reply} :
    Spells k w reply → reply.Encodable
  | .status h => not_crlf_infix_of_spellsLine h
  | .error h => not_crlf_infix_of_spellsLine h
  | .integer _ => trivial
  | .null _ => trivial
  | .bulk _ _ hmax => hmax
  | .noArray _ => ⟨Nat.zero_le _, trivial⟩
  | .array _ _ hmax hitems => ⟨hmax, encodableAll_of_spellsAll hitems⟩

theorem encodableAll_of_spellsAll {k : Nat} {ws : Bytes} {items : List Reply} :
    SpellsAll k ws items → EncodableAll items
  | .nil => trivial
  | .cons h hitems => ⟨encodable_of_spells h, encodableAll_of_spellsAll hitems⟩

end

mutual

/-- A reply that is spelled has no more arrays inside one another than its spelling may have. -/
theorem depth_le_of_spells {k : Nat} {w : Bytes} {reply : Reply} :
    Spells k w reply → reply.depth ≤ k
  | .status _ | .error _ | .integer _ | .null _ | .bulk _ _ _ => Nat.zero_le _
  | .noArray _ => Nat.succ_le_succ (Nat.zero_le _)
  | .array _ _ _ hitems => Nat.succ_le_succ (depthAll_le_of_spellsAll hitems)

theorem depthAll_le_of_spellsAll {k : Nat} {ws : Bytes} {items : List Reply} :
    SpellsAll k ws items → depthAll items ≤ k
  | .nil => Nat.zero_le _
  | .cons h hitems => Nat.max_le.mpr ⟨depth_le_of_spells h, depthAll_le_of_spellsAll hitems⟩

end

/-- The wire form of a reply that is spelled spells it too. -/
theorem Spells.encode {k : Nat} {w : Bytes} {reply : Reply} (h : Spells k w reply) :
    Spells k reply.encode reply :=
  spells_encode reply (encodable_of_spells h) (depth_le_of_spells h)

end Reply

namespace Reader

open Reply

variable {r : Reader} {input : Bytes} {reply : Reply} {n : Nat}

/-! ### Reading what is written -/

/-- A reader that may enter no array reads alike in however many it stands. -/
theorem fst_readWithin_zero (r r' : Reader) (input : Bytes) :
    (readWithin 0 r input).1 = (readWithin 0 r' input).1 := by
  cases input with
  | nil => rfl
  | cons marker input =>
      rw [readWithin, readWithin]
      split <;> rfl

/-- A reader finds what is spelled with as many arrays inside one another as it may still enter. -/
theorem read_of_spells {w : Bytes} (h : Spells (maxDepth - r.depth) w reply) (rest : Bytes) :
    (r.read (w ++ rest)).1 = .complete reply rest := by
  obtain hr | hr := Nat.le_total r.depth maxDepth
  · exact congrArg Prod.fst (readWithin_of_spells r rest (by omega) h)
  · rw [Nat.sub_eq_zero_of_le hr] at h
    rw [read, Nat.sub_eq_zero_of_le hr, fst_readWithin_zero r {}]
    exact congrArg Prod.fst (readWithin_of_spells {} rest (Nat.zero_le _) h)

theorem front_of_spells_within {w : Bytes} (h : Spells (maxDepth - r.depth) w reply)
    (rest : Bytes) : r.front (w ++ rest) = .ok (some (reply, w.length)) := by
  refine front_eq_some_iff.2 ⟨rest, read_of_spells h rest, ?_⟩
  rw [List.length_append, Nat.add_sub_cancel]

theorem spells_of_front (h : r.front input = .ok (some (reply, n))) :
    ∃ w, Spells (maxDepth - r.depth) w reply := by
  obtain ⟨rest, hread, -⟩ := front_eq_some_iff.1 h
  obtain ⟨w, -, hw⟩ := spells_of_readWithin (Prod.ext hread (r.read_snd input))
  exact ⟨w, hw⟩

/-! ### Normal forms -/

/-- The wire form of the reply at the front of a byte string, if there is one. -/
def normalForm (r : Reader) (input : Bytes) : Except ProtocolFault (Option Bytes) :=
  (r.front input).map (Option.map fun found => found.1.encode)

theorem normalForm_of_front (h : r.front input = .ok (some (reply, n))) :
    r.normalForm input = .ok (some reply.encode) := by
  rw [normalForm, h]
  rfl

/-- **What was read can be written and read back.** The reply that a reader finds at the front of a
byte string, however it is spelled there, is found again at the front of any byte string that begins
with its wire form, and takes the bytes of the wire form.  So the wire form is a normal form: to
read it and to write what was read leaves it as it is. -/
theorem front_encode_of_front (r : Reader) (input : Bytes) (reply : Reply) (n : Nat)
    (h : r.front input = .ok (some (reply, n))) :
    (∀ more, r.front (reply.encode ++ more) = .ok (some (reply, reply.encode.length))) ∧
      r.normalForm input = .ok (some reply.encode) ∧
      ∀ more, r.normalForm (reply.encode ++ more) = .ok (some reply.encode) := by
  obtain ⟨w, hw⟩ := spells_of_front h
  have hencode := front_of_spells_within hw.encode
  exact ⟨hencode, normalForm_of_front h, fun more => normalForm_of_front (hencode more)⟩

/-- An array with a sign and a leading zero in its numbers, a line that is not UTF-8, and the
absence of a string and of an array. -/
theorem front_encode_of_front_noncanonical :
    let input := Bytes.ofString "*+3\r\n+a" ++ [0xE2, 0x82, 13] ++
      Bytes.ofString "\r\n$-01\r\n*-1\r\n:1"
    let reply : Reply := .array [.status "a\uFFFD\r", .null, .array []]
    front {} input = .ok (some (reply, 23)) ∧
      (∀ more, front {} (reply.encode ++ more) = .ok (some (reply, reply.encode.length))) ∧
      normalForm {} input = .ok (some reply.encode) ∧
      ∀ more, normalForm {} (reply.encode ++ more) = .ok (some reply.encode) := by
  have hfront : front {} (Bytes.ofString "*+3\r\n+a" ++ [0xE2, 0x82, 13] ++
      Bytes.ofString "\r\n$-01\r\n*-1\r\n:1") =
        .ok (some (.array [.status "a\uFFFD\r", .null, .array []], 23)) := by decide +kernel
  exact ⟨hfront, front_encode_of_front {} _ _ 23 hfront⟩

end Reader

end RateLimit
