import RateLimit.Reply.Fault

/-!
# What a reply holds

A caller that expects an array, a text or a natural number asks a reply for it and gets a
`ProtocolFault` if the reply holds something else.  Numbers may come as integers or as text.
-/

namespace RateLimit.Reply

/-- The elements of an array. -/
def elements? : Reply → Except ProtocolFault (List Reply)
  | .array items => .ok items
  | reply => .error (.notArray reply.kind)

/-- The text of a status line or of a byte string that is UTF-8. -/
def text? : Reply → Except ProtocolFault String
  | .status text => .ok text
  | .bulk data =>
      match Utf8.decode data with
      | .ok text => .ok text
      | .error fault => .error (.notUtf8 fault)
  | reply => .error (.notText reply.kind)

/-- The number below `2 ^ 64` that a text spells. -/
def spelled? (text : String) : Except ProtocolFault Nat :=
  match Decimal.unsigned? UInt64.size text.toList with
  | some n => .ok n
  | none => .error (.notNumeric text)

/-- The natural number that a reply holds: an integer that is not negative, or a text that spells
a number below `2 ^ 64`. -/
def natural? : Reply → Except ProtocolFault Nat
  | .integer value => if value < 0 then .error (.negative value) else .ok value.toInt.toNat
  | .status text => spelled? text
  | .bulk data => do spelled? (← (Reply.bulk data).text?)
  | reply => .error (.notInteger reply.kind)

end RateLimit.Reply
