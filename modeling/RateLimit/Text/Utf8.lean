/-!
# Byte strings and UTF-8

Everything that travels between a client and its server is a string of bytes.  Texts enter it
as UTF-8 (`Bytes.ofString`); the lines of the wire format end in `crlf`.

To be read as a text, a byte string is cut into pieces (`Utf8.pieces`): characters, and stretches
that belong to no character.  A stretch that is not UTF-8 is as long as it could still have begun a
character, so it ends at the first byte that rules one out.  Strict reading (`Utf8.decode`) refuses
the first such stretch and says where it is; lenient reading (`Utf8.lossy`) puts the replacement
character in the place of each.

## Main definitions

* `Bytes` : a string of bytes.
* `Utf8.pieces` : the pieces of a byte string, in order.
* `Utf8.decode` : the text of a byte string that is UTF-8 throughout.
* `Utf8.lossy` : the text of any byte string, with replacement characters.
-/

namespace RateLimit

/-- A string of bytes. -/
abbrev Bytes := List UInt8

/-- The UTF-8 encoding of a text. -/
def Bytes.ofString (text : String) : Bytes :=
  text.toList.flatMap String.utf8EncodeChar

/-- Carriage return and line feed, the end of a line on the wire. -/
def crlf : Bytes := [13, 10]

namespace Utf8

/-- The beginning of a character of several bytes. -/
structure Opened where
  /-- The number that the bytes read so far spell. -/
  bits : Nat
  /-- How many bytes have been read. -/
  taken : Nat
  /-- How many bytes are still owed, at least one. -/
  owed : Nat
  /-- The least byte that may come next. -/
  low : UInt8
  /-- The greatest byte that may come next. -/
  high : UInt8

/-- A piece of a byte string read as UTF-8. -/
inductive Piece
  /-- A character. -/
  | char (c : Char)
  /-- Bytes that no character can begin with. -/
  | malformed (length : Nat)
  /-- The beginning of a character, cut off by the end of the input. -/
  | truncated (length : Nat)

/-- Reads the first byte of a character.

The bounds on the second byte leave out overlong forms, surrogates and numbers above the last
code point. -/
def first (b : UInt8) : Piece ⊕ Opened :=
  if b < 0x80 then .inl (.char (Char.ofNat b.toNat))
  else if b < 0xC2 then .inl (.malformed 1)
  else if b < 0xE0 then .inr ⟨b.toNat - 0xC0, 1, 1, 0x80, 0xBF⟩
  else if b = 0xE0 then .inr ⟨0, 1, 2, 0xA0, 0xBF⟩
  else if b = 0xED then .inr ⟨0xD, 1, 2, 0x80, 0x9F⟩
  else if b < 0xF0 then .inr ⟨b.toNat - 0xE0, 1, 2, 0x80, 0xBF⟩
  else if b = 0xF0 then .inr ⟨0, 1, 3, 0x90, 0xBF⟩
  else if b < 0xF4 then .inr ⟨b.toNat - 0xF0, 1, 3, 0x80, 0xBF⟩
  else if b = 0xF4 then .inr ⟨4, 1, 3, 0x80, 0x8F⟩
  else .inl (.malformed 1)

/-- Reads a further byte of a character; `none` if the byte cannot be one. -/
def Opened.next (p : Opened) (b : UInt8) : Option (Piece ⊕ Opened) :=
  if p.low ≤ b ∧ b ≤ p.high then
    let bits := p.bits * 64 + (b.toNat - 0x80)
    if p.owed ≤ 1 then some (.inl (.char (Char.ofNat bits)))
    else some (.inr ⟨bits, p.taken + 1, p.owed - 1, 0x80, 0xBF⟩)
  else none

/-- The pieces of a byte string that continues an opened character, if there is one. -/
def piecesFrom : Option Opened → Bytes → List Piece
  | none, [] => []
  | some p, [] => [.truncated p.taken]
  | none, b :: bs =>
      match first b with
      | .inl piece => piece :: piecesFrom none bs
      | .inr p => piecesFrom (some p) bs
  | some p, b :: bs =>
      match p.next b with
      | some (.inl piece) => piece :: piecesFrom none bs
      | some (.inr p) => piecesFrom (some p) bs
      | none =>
          .malformed p.taken ::
            match first b with
            | .inl piece => piece :: piecesFrom none bs
            | .inr p => piecesFrom (some p) bs

/-- The pieces of a byte string, in order. -/
def pieces (bytes : Bytes) : List Piece :=
  piecesFrom none bytes

/-- The character that stands for a piece in a lenient reading. -/
def Piece.lossy : Piece → Char
  | .char c => c
  | .malformed _ | .truncated _ => '\uFFFD'

/-- The text of any byte string, with a replacement character for each piece that is not UTF-8. -/
def lossy (bytes : Bytes) : String :=
  String.ofList ((pieces bytes).map Piece.lossy)

/-- Where a byte string stops being UTF-8. -/
structure Fault where
  /-- The number of bytes that are UTF-8. -/
  index : Nat
  /-- The length of the malformed stretch; `none` if the input ends within a character. -/
  length : Option Nat
  deriving DecidableEq, Repr

/-- The wording of a fault. -/
def Fault.message (f : Fault) : String :=
  match f.length with
  | some n => s!"invalid utf-8 sequence of {n} bytes from index {f.index}"
  | none => s!"incomplete utf-8 byte sequence from index {f.index}"

/-- The characters of pieces that start at a byte index. -/
def chars? : Nat → List Piece → Except Fault (List Char)
  | _, [] => .ok []
  | index, .char c :: rest =>
      match chars? (index + (String.utf8EncodeChar c).length) rest with
      | .ok cs => .ok (c :: cs)
      | .error f => .error f
  | index, .malformed n :: _ => .error ⟨index, some n⟩
  | index, .truncated _ :: _ => .error ⟨index, none⟩

/-- The text of a byte string that is UTF-8 throughout. -/
def decode (bytes : Bytes) : Except Fault String :=
  (chars? 0 (pieces bytes)).map String.ofList

end Utf8

end RateLimit
