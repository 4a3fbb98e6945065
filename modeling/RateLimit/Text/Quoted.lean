import RateLimit.Text.Utf8
import RateLimit.Text.Extending

/-!
# Quoted text

Messages show foreign text in quotes, so that it can be told from the words around it and every
character of it can be seen.  Quotes and backslashes are escaped, tabs, line ends and the null
character have letters of their own, and a character that is invisible or would join the one
before it is shown by its number.  Byte strings are quoted alike, with two hexadecimal digits for
every byte that is not printable ASCII.
-/

namespace RateLimit.Text

/-- The lower-case hexadecimal digits of a number. -/
def hex (n : Nat) : String :=
  String.ofList (Nat.toDigits 16 n)

/-- The two lower-case hexadecimal digits of a byte. -/
def hexByte (b : UInt8) : String :=
  if b < 16 then "0" ++ hex b.toNat else hex b.toNat

/-- How a character is written between the given quotation marks. -/
def escaped (mark : Char) (c : Char) : String :=
  if c = '\x00' then "\\0"
  else if c = '\t' then "\\t"
  else if c = '\r' then "\\r"
  else if c = '\n' then "\\n"
  else if c = '\\' then "\\\\"
  else if c = mark then String.ofList ['\\', mark]
  else if isExtending c || isInvisible c then "\\u\x7b" ++ hex c.toNat ++ "\x7d"
  else c.toString

/-- A text in double quotation marks. -/
def quote (text : String) : String :=
  "\"" ++ String.join (text.toList.map (escaped '"')) ++ "\""

/-- A character in single quotation marks. -/
def quoteChar (c : Char) : String :=
  "'" ++ escaped '\'' c ++ "'"

/-- How a byte is written between double quotation marks. -/
def escapedByte (b : UInt8) : String :=
  if b = 0 then "\\0"
  else if b = 9 then "\\t"
  else if b = 13 then "\\r"
  else if b = 10 then "\\n"
  else if b = 92 then "\\\\"
  else if b = 34 then "\\\""
  else if 0x20 ≤ b ∧ b < 0x7F then (Char.ofNat b.toNat).toString
  else "\\x" ++ hexByte b

/-- A byte string in double quotation marks, marked as bytes by a `b` in front. -/
def quoteBytes (bytes : Bytes) : String :=
  "b\"" ++ String.join (bytes.map escapedByte) ++ "\""

end RateLimit.Text
