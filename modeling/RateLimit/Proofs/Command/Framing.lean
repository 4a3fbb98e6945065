import RateLimit.Proofs.Command.RoundTrip
import RateLimit.Proofs.Connection.Request
import RateLimit.Proofs.Reply.Stream

/-!
# Commands behind one another

Commands are written into one buffer without anything between them.  Since a command announces how
many words it has, and each word how long it is, what the words hold does not matter: whoever reads
the buffer finds the commands that were written, each with its own words, and nothing else.

## Main definitions

* `Command.toReply` : a command as a reader of replies finds it.
* `Command.Sendable` : the commands whose words are not too many or too long for such a reader.
* `Command.appendAll` : writes commands behind the bytes of a buffer.

## Main results

* `Command.readAll_flatMap_bytes` : a server that reads commands finds those that were written.
* `Command.drain_appendAll` : so does a reader of replies, and no other commands are written alike.
-/

namespace RateLimit.Command

/-- A command as a reader of replies finds it: an array of its words. -/
def toReply (command : Command) : Reply :=
  .array (command.map .bulk)

/-- A command that can be sent to a reader of replies: it has words, but not too many, and none of
them is too long. -/
structure Sendable (command : Command) : Prop where
  nonempty : command ≠ []
  length_le : command.length ≤ Reader.maxElements
  word_le : ∀ word ∈ command, word.length ≤ Reader.maxBulk

instance : DecidablePred Sendable := fun command =>
  decidable_of_iff (command ≠ [] ∧ command.length ≤ Reader.maxElements ∧
    ∀ word ∈ command, word.length ≤ Reader.maxBulk)
    ⟨fun h => ⟨h.1, h.2.1, h.2.2⟩, fun h => ⟨h.nonempty, h.length_le, h.word_le⟩⟩

/-- Writes commands behind the bytes of a buffer, one after the other, with what comes of each. -/
def appendAll : List Command → Bytes → List (Except ProtocolFault Unit) × Bytes
  | [], buffer => ([], buffer)
  | command :: commands, buffer =>
      let (result, buffer) := command.append buffer
      let (results, buffer) := appendAll commands buffer
      (result :: results, buffer)

variable {command : Command} {commands : List Command}

/-! ### One command -/

theorem encode_of_ne_nil (h : command ≠ []) : command.encode = .ok command.bytes := by
  cases command with
  | nil => exact (h rfl).elim
  | cons => rfl

theorem append_of_ne_nil (h : command ≠ []) (buffer : Bytes) :
    command.append buffer = (.ok (), buffer ++ command.bytes) := by
  rw [append, encode_of_ne_nil h]

theorem encodeAll_map_bulk (words : List Bytes) :
    Reply.encodeAll (words.map .bulk) = words.flatMap Reply.encodeBulk := by
  induction words with
  | nil => rfl
  | cons word words ih => rw [List.map_cons, Reply.encodeAll, ih, List.flatMap_cons, Reply.encode]

/-- A command is written as the array of its words would be. -/
theorem encode_toReply (h : command ≠ []) : command.toReply.encode = command.bytes := by
  cases command with
  | nil => exact (h rfl).elim
  | cons word words =>
      rw [toReply, Reply.encode, encodeAll_map_bulk, List.length_map]
      rfl

theorem depthAll_map_bulk (words : List Bytes) : Reply.depthAll (words.map .bulk) = 0 := by
  induction words with
  | nil => rfl
  | cons word words ih =>
      rw [List.map_cons, Reply.depthAll, ih]
      rfl

theorem encodableAll_map_bulk {words : List Bytes}
    (h : ∀ word ∈ words, word.length ≤ Reader.maxBulk) :
    Reply.EncodableAll (words.map .bulk) := by
  induction words with
  | nil => trivial
  | cons word words ih =>
      obtain ⟨hword, hwords⟩ := List.forall_mem_cons.1 h
      exact ⟨hword, ih hwords⟩

/-- A reader of replies finds a command that was written, and stands behind it. -/
theorem Sendable.read (h : command.Sendable) (rest : Bytes) :
    Reader.read {} (command.bytes ++ rest) = (.complete command.toReply rest, {}) := by
  have hencodable : command.toReply.Encodable :=
    ⟨(List.length_map _).trans_le h.length_le, encodableAll_map_bulk h.word_le⟩
  have hdepth : command.toReply.depth ≤ Reader.maxDepth := by
    rw [toReply, Reply.depth, depthAll_map_bulk]
    decide
  rw [← encode_toReply h.nonempty]
  exact Reader.read_encode hencodable hdepth rest

/-! ### Several commands -/

/-- The bytes of commands stand behind those of the buffer, in the order of the commands. -/
theorem appendAll_of_ne_nil (h : ∀ command ∈ commands, command ≠ []) (buffer : Bytes) :
    appendAll commands buffer =
      (commands.map fun _ => .ok (), buffer ++ commands.flatMap bytes) := by
  induction commands generalizing buffer with
  | nil => rw [appendAll, List.flatMap_nil, List.append_nil, List.map_nil]
  | cons command commands ih =>
      obtain ⟨hcommand, hcommands⟩ := List.forall_mem_cons.1 h
      rw [appendAll, append_of_ne_nil hcommand]
      dsimp only
      rw [ih hcommands, List.flatMap_cons, List.append_assoc, List.map_cons]

/-- A reader of replies takes commands that were written off the front of its input, one for each,
and goes on with what stands behind them. -/
theorem drain_flatMap_bytes (h : ∀ command ∈ commands, command.Sendable) (rest : Bytes) :
    Reader.drain {} (commands.flatMap bytes ++ rest) =
      { Reader.drain {} rest with
        replies := (commands.map fun command => (command.toReply, command.bytes.length)) ++
          (Reader.drain {} rest).replies } := by
  induction commands with
  | nil => rfl
  | cons command commands ih =>
      obtain ⟨hcommand, hcommands⟩ := List.forall_mem_cons.1 h
      have hread := hcommand.read (commands.flatMap bytes ++ rest)
      rw [List.flatMap_cons, List.append_assoc, Reader.drain_of_complete (congrArg Prod.fst hread),
        ih hcommands, List.length_append, Nat.add_sub_cancel]
      rfl

/-- A server that reads commands finds those that were written, however many words they have and
however long these are. -/
theorem readAll_flatMap_bytes (h : ∀ command ∈ commands, command ≠ []) :
    readAll (commands.flatMap bytes) = (commands, []) := by
  induction commands with
  | nil =>
      rw [List.flatMap_nil, readAll]
      rfl
  | cons command commands ih =>
      obtain ⟨hcommand, hcommands⟩ := List.forall_mem_cons.1 h
      have hread := read?_encode (encode_of_ne_nil hcommand) (commands.flatMap bytes)
      rw [List.flatMap_cons, readAll]
      split
      · rename_i found rest hfound
        cases hread.symm.trans hfound
        rw [ih hcommands]
      · rename_i hnone
        cases hread.symm.trans hnone

/-- **What a word holds is never taken for anything else.** Commands are written into a buffer one
after the other.  From what is written a reader of replies reads back one array for each command, in
their order, with the words of that command, and nothing is left over; no other list of commands
would have been written in the same way; and a command without words is refused, and the buffer
stays as it is. -/
theorem drain_appendAll (commands : List Command) (h : ∀ command ∈ commands, command.Sendable) :
    let written := (appendAll commands []).2
    (∀ buffer, appendAll commands buffer = (commands.map fun _ => .ok (), buffer ++ written)) ∧
      Reader.drain {} written =
        ⟨commands.map fun command => (.array (command.map .bulk), command.bytes.length),
          .needMore, [], {}⟩ ∧
      (∀ others : List Command, (∀ command ∈ others, command ≠ []) →
        (appendAll others []).2 = written → others = commands) ∧
      ∀ buffer, append [] buffer = (.error .emptyCommand, buffer) := by
  intro written
  have hwords : ∀ command ∈ commands, command ≠ [] := fun command hmem => (h command hmem).nonempty
  have hwritten : written = commands.flatMap bytes := by
    change (appendAll commands []).2 = _
    rw [appendAll_of_ne_nil hwords, List.nil_append]
  refine ⟨fun buffer => ?_, ?_, fun others hothers hsame => ?_, fun buffer => rfl⟩
  · rw [appendAll_of_ne_nil hwords, hwritten]
  · have hnil : Reader.drain {} [] = ⟨[], .needMore, [], {}⟩ := Reader.drain_of_needMore rfl
    have hdrain := drain_flatMap_bytes h []
    rw [List.append_nil, hnil, List.append_nil] at hdrain
    rw [hwritten, hdrain]
    rfl
  · have hbytes : others.flatMap bytes = commands.flatMap bytes := by
      rw [← hwritten, ← hsame, appendAll_of_ne_nil hothers, List.nil_append]
    have hread := readAll_flatMap_bytes hothers
    rw [hbytes, readAll_flatMap_bytes hwords] at hread
    exact (congrArg Prod.fst hread).symm

/-- Words that look like the beginning of a command, that end a line, that are empty or that are no
text. -/
theorem drain_appendAll_hostile :
    let commands : List Command := [[[42, 49] ++ crlf, [36], []], [crlf ++ crlf], [[255], [0]]]
    (∀ command ∈ commands, command.Sendable) ∧
      (Reader.drain {} (appendAll commands []).2).replies.map Prod.fst =
        [.array [.bulk ([42, 49] ++ crlf), .bulk [36], .bulk []], .array [.bulk (crlf ++ crlf)],
          .array [.bulk [255], .bulk [0]]] ∧
      (Reader.drain {} (appendAll commands []).2).left = [] := by
  intro commands
  have h : ∀ command ∈ commands, command.Sendable := by decide
  obtain ⟨-, hdrain, -⟩ := drain_appendAll commands h
  rw [hdrain]
  exact ⟨h, rfl, rfl⟩

end RateLimit.Command
