import RateLimit.Reply.Fault

/-!
# Commands

A command is sent as an array of byte strings, its words.  Every word announces its length, so a
word may hold any bytes.  A command without words cannot be sent.
-/

namespace RateLimit

/-- A command: its words. -/
abbrev Command := List Bytes

namespace Command

/-- A command whose words are texts. -/
def ofTexts (words : List String) : Command :=
  words.map Bytes.ofString

/-- The wire form of a command. -/
def encode : Command → Except ProtocolFault Bytes
  | [] => .error .emptyCommand
  | words => .ok (Reply.numberLine 42 words.length ++ words.flatMap Reply.encodeBulk)

/-- Writes a command behind the bytes of a buffer.  A command that cannot be sent leaves the
buffer as it is. -/
def append (command : Command) (buffer : Bytes) : Except ProtocolFault Unit × Bytes :=
  match command.encode with
  | .ok bytes => (.ok (), buffer ++ bytes)
  | .error fault => (.error fault, buffer)

/-- The words of a command that was read as a reply.  Elements that are no byte strings are left
out. -/
def ofReply : Reply → Command
  | .array items => items.filterMap fun item =>
      match item with
      | .bulk word => some word
      | _ => none
  | _ => []

end Command

end RateLimit
