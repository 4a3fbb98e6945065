import RateLimit.Network.Commands
import RateLimit.Proofs.Reply.RoundTrip

/-!
# Commands that are written and read back

The wire form of a command announces the number of its words and the length of each, as decimals.
A server that reads off a stream finds these numbers again, and with them the words, whatever bytes
they hold.

## Main results

* `Command.announced?_numberLine` : an announced number is read back.
* `Command.read?_encode` : a command that is written is read back, whatever follows it.
* `Command.readAll_encode` : a server that got the bytes of one command has read that command.
-/

namespace RateLimit

namespace Decimal

/-- The decimal of a natural number is read back off its bytes. -/
theorem natural?_asciiChars_toString (n : Nat) :
    natural? (asciiChars (Bytes.ofString (toString n))) = some n := by
  have hascii : ∀ c ∈ (toString n).toList, c.toNat < 0x80 := fun c hc =>
    (spells_toString (n : Int)).toNat_lt hc
  rw [Utf8.asciiChars_ofString hascii, natural?_toString]

end Decimal

namespace Command

/-- An announced number is read back, whatever follows its line. -/
theorem announced?_numberLine (marker : UInt8) (n : Nat) (rest : Bytes) :
    announced? marker (Reply.numberLine marker n ++ rest) = some (n, rest) := by
  have hline : ¬ crlf <:+: Bytes.ofString (toString (n : Int)) := fun hin =>
    have hchars := Utf8.infix_of_crlf_infix hin
    (Decimal.spells_toString (n : Int)).ne_return (hchars.subset List.mem_cons_self) rfl
  rw [Reply.numberLine, Reply.line, List.cons_append, List.cons_append, announced?, if_pos rfl,
    Reader.lineFrom_append hline]
  have hread : Decimal.natural? (Decimal.asciiChars (Bytes.ofString (toString (n : Int)))) =
      some n := Decimal.natural?_asciiChars_toString n
  rw [List.reverse_nil, List.nil_append]
  dsimp only
  rw [hread]
  rfl

/-- A word is read back, whatever follows it. -/
theorem word?_encodeBulk (word rest : Bytes) :
    word? (Reply.encodeBulk word ++ rest) = some (word, rest) := by
  rw [word?, Reply.encodeBulk, List.append_assoc, List.append_assoc, announced?_numberLine]
  have hlength : (word ++ (crlf ++ rest)).length = word.length + (2 + rest.length) := by
    rw [List.length_append, List.length_append]
    rfl
  dsimp only
  rw [if_neg (by omega), List.take_left, ← List.drop_drop, List.drop_left]
  rfl

/-- The words of a command are read back, whatever follows them. -/
theorem words?_flatMap_encodeBulk (command : Command) (rest : Bytes) :
    words? command.length (command.flatMap Reply.encodeBulk ++ rest) = some (command, rest) := by
  induction command with
  | nil => rfl
  | cons word command ih =>
      rw [List.length_cons, words?, List.flatMap_cons, List.append_assoc, word?_encodeBulk]
      dsimp only
      rw [ih]
      rfl

/-- A command that is written is read back, whatever follows it. -/
theorem read?_encode {command : Command} {bytes : Bytes} (h : command.encode = .ok bytes)
    (rest : Bytes) : read? (bytes ++ rest) = some (command, rest) := by
  cases command with
  | nil => cases h
  | cons word command =>
      cases h
      rw [read?, List.append_assoc, announced?_numberLine]
      exact words?_flatMap_encodeBulk (word :: command) rest

/-- A server that got the bytes of one command has read that command, and no byte is left. -/
theorem readAll_encode {command : Command} {bytes : Bytes} (h : command.encode = .ok bytes) :
    readAll bytes = ([command], []) := by
  have hread := read?_encode h []
  rw [List.append_nil] at hread
  have hnil : readAll [] = ([], []) := by
    rw [readAll]
    rfl
  rw [readAll]
  split
  · rename_i hfound
    rw [hread] at hfound
    cases hfound
    rw [hnil]
  · rename_i hnone
    rw [hread] at hnone
    cases hnone

end Command

end RateLimit
