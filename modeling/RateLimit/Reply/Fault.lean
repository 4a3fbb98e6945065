import RateLimit.Decimal.Integer
import RateLimit.Reply.Basic
import RateLimit.Text.Utf8

/-!
# Faults in the exchange of replies

The ways in which bytes fail to be a reply, a command fails to be sendable, and a reply fails to
hold what was asked of it, with the wording of each.
-/

namespace RateLimit

/-- A departure from the wire protocol. -/
inductive ProtocolFault
  /-- A reply begins with a byte that marks no kind of reply. -/
  | unknownMarker (marker : UInt8)
  /-- A line that should hold a whole number holds something else. -/
  | badInteger (line : Bytes)
  /-- A byte string announces a length out of range. -/
  | bulkLength (length : Int64)
  /-- A byte string is not followed by the end of a line. -/
  | unterminatedBulk
  /-- An array announces a number of elements out of range. -/
  | arrayCount (count : Int64)
  /-- Arrays are nested too deeply. -/
  | tooDeep
  /-- The input ends within a reply. -/
  | truncated
  /-- A command has no words. -/
  | emptyCommand
  /-- The server ended the stream within a reply. -/
  | closedInReply
  /-- Something other than an array came in the place of an array. -/
  | notArray (kind : Reply.Kind)
  /-- Something other than a number came in the place of a number. -/
  | notInteger (kind : Reply.Kind)
  /-- Something other than a text came in the place of a text. -/
  | notText (kind : Reply.Kind)
  /-- A negative number came in the place of a natural number. -/
  | negative (value : Int64)
  /-- A text that spells no natural number came in the place of a number. -/
  | notNumeric (text : String)
  /-- A byte string that is not UTF-8 came in the place of a text. -/
  | notUtf8 (fault : Utf8.Fault)
  /-- The answer of the script has too few elements. -/
  | tooFewElements (count : Nat)
  deriving DecidableEq, Repr

/-- The wording of a protocol fault. -/
def ProtocolFault.message : ProtocolFault → String
  | .unknownMarker marker =>
      "invalid reply type marker: " ++ Text.quoteChar (Char.ofNat marker.toNat)
  | .badInteger line => "invalid integer: " ++ Text.quote (Utf8.lossy line)
  | .bulkLength length => s!"invalid bulk string length: {length.toInt}"
  | .unterminatedBulk => "bulk string missing CRLF terminator"
  | .arrayCount count => s!"invalid array size: {count.toInt}"
  | .tooDeep => "maximum array nesting depth exceeded"
  | .truncated => "truncated reply"
  | .emptyCommand => "cannot encode an empty command"
  | .closedInReply => "connection closed in the middle of a reply"
  | .notArray kind => "expected array reply, got " ++ kind.name
  | .notInteger kind => "expected integer reply, got " ++ kind.name
  | .notText kind => "expected string reply, got " ++ kind.name
  | .negative value => s!"negative integer reply: {value.toInt}"
  | .notNumeric text => "non-numeric reply: " ++ Text.quote text
  | .notUtf8 fault => "invalid UTF-8: " ++ fault.message
  | .tooFewElements count => s!"expected 3 elements in script reply, got {count}"

end RateLimit
