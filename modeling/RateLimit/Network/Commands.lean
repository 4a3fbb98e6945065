import RateLimit.Command
import RateLimit.Reply.Reader

/-!
# Commands as a server reads them

A server reads commands off a stream: the number of words, and each word with its length in front.
A word may have any length, and a command any number of words.

## Main definitions

* `Command.read?` : the command at the front of a byte string.
* `Command.readAll` : all the commands at the front of a byte string, and the bytes that are left.
-/

namespace RateLimit.Command

/-- The number in the line at the front of a byte string, behind a marker, and the bytes behind the
line. -/
def announced? (marker : UInt8) : Bytes → Option (Nat × Bytes)
  | [] => none
  | b :: input =>
      if b = marker then
        match Reader.lineFrom [] input with
        | some (text, rest) => (Decimal.natural? (Decimal.asciiChars text)).map fun n => (n, rest)
        | none => none
      else none

/-- The word at the front of a byte string, and the bytes behind it. -/
def word? (input : Bytes) : Option (Bytes × Bytes) :=
  match announced? 36 input with
  | some (n, rest) =>
      if rest.length < n + 2 then none else some (rest.take n, rest.drop (n + 2))
  | none => none

/-- A number of words at the front of a byte string, and the bytes behind them. -/
def words? : Nat → Bytes → Option (Command × Bytes)
  | 0, input => some ([], input)
  | n + 1, input =>
      match word? input with
      | some (word, rest) => (words? n rest).map fun found => (word :: found.1, found.2)
      | none => none

/-- The command at the front of a byte string, and the bytes behind it. -/
def read? (input : Bytes) : Option (Command × Bytes) :=
  match announced? 42 input with
  | some (n, rest) => words? n rest
  | none => none

/-! ### A command takes bytes off the input -/

theorem length_lt_of_announced? {marker : UInt8} {input rest : Bytes} {n : Nat}
    (h : announced? marker input = some (n, rest)) : rest.length < input.length := by
  cases input with
  | nil => cases h
  | cons b input =>
      rw [announced?] at h
      split at h
      · split at h
        · rename_i hline
          obtain ⟨m, -, heq⟩ := Option.map_eq_some_iff.1 h
          cases heq
          exact Nat.lt_succ_of_lt (Reader.length_lt_of_lineFrom hline)
        · cases h
      · cases h

theorem length_le_of_words? {input rest : Bytes} {n : Nat} {words : Command}
    (h : words? n input = some (words, rest)) : rest.length ≤ input.length := by
  induction n generalizing input words with
  | zero =>
      cases h
      exact Nat.le_refl _
  | succ n ih =>
      rw [words?] at h
      split at h
      · rename_i word mid hword
        obtain ⟨found, hfound, heq⟩ := Option.map_eq_some_iff.1 h
        cases heq
        have hrest := ih hfound
        rw [word?] at hword
        split at hword
        · rename_i hannounced
          have hmid := length_lt_of_announced? hannounced
          split at hword
          · cases hword
          · cases hword
            rw [List.length_drop] at hrest
            omega
        · cases hword
      · cases h

theorem length_lt_of_read? {input rest : Bytes} {command : Command}
    (h : read? input = some (command, rest)) : rest.length < input.length := by
  rw [read?] at h
  split at h
  · rename_i hannounced
    exact Nat.lt_of_le_of_lt (length_le_of_words? h) (length_lt_of_announced? hannounced)
  · cases h

/-! ### All commands of a buffer -/

/-- The commands at the front of a byte string, and the bytes that are left. -/
def readAll (input : Bytes) : List Command × Bytes :=
  match _h : read? input with
  | some (command, rest) =>
      let (commands, left) := readAll rest
      (command :: commands, left)
  | none => ([], input)
termination_by input.length
decreasing_by exact length_lt_of_read? _h

end RateLimit.Command
