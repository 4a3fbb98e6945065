import RateLimit.Text.Quoted

/-!
# Replies

A reply of the server is a status line, an error line, an integer, a string of bytes, nothing, or
an array of replies.  On the wire (`Reply.encode`) its first byte tells which; lines end in
carriage return and line feed, and byte strings and arrays announce their length.

## Main definitions

* `Reply` : the replies.
* `Reply.encode` : the wire form of a reply.
* `Reply.text` : the form in which messages show a reply.
-/

namespace RateLimit

/-- A reply of the server. -/
inductive Reply
  /-- A status line. -/
  | status (text : String)
  /-- An error line. -/
  | error (text : String)
  /-- An integer. -/
  | integer (value : Int64)
  /-- A string of bytes. -/
  | bulk (data : Bytes)
  /-- The absence of a string. -/
  | null
  /-- An array of replies. -/
  | array (items : List Reply)
  deriving Inhabited

namespace Reply

/-- What a reply is, without its content. -/
inductive Kind
  | status
  | error
  | integer
  | bulk
  | null
  | array
  deriving DecidableEq, Repr

/-- The name of a kind of reply. -/
def Kind.name : Kind → String
  | .status => "status"
  | .error => "error"
  | .integer => "integer"
  | .bulk => "bulk string"
  | .null => "null"
  | .array => "array"

/-- What a reply is. -/
def kind : Reply → Kind
  | .status _ => .status
  | .error _ => .error
  | .integer _ => .integer
  | .bulk _ => .bulk
  | .null => .null
  | .array _ => .array

mutual

/-- Equality of replies is decidable. -/
def decEq : (a b : Reply) → Decidable (a = b)
  | .status s, .status t => decidable_of_iff (s = t) (by simp)
  | .error s, .error t => decidable_of_iff (s = t) (by simp)
  | .integer m, .integer n => decidable_of_iff (m = n) (by simp)
  | .bulk x, .bulk y => decidable_of_iff (x = y) (by simp)
  | .null, .null => isTrue rfl
  | .array xs, .array ys =>
      match decEqAll xs ys with
      | isTrue h => isTrue (by rw [h])
      | isFalse h => isFalse (by simpa using h)
  | .status _, .error _ | .status _, .integer _ | .status _, .bulk _ | .status _, .null
  | .status _, .array _ | .error _, .status _ | .error _, .integer _ | .error _, .bulk _
  | .error _, .null | .error _, .array _ | .integer _, .status _ | .integer _, .error _
  | .integer _, .bulk _ | .integer _, .null | .integer _, .array _ | .bulk _, .status _
  | .bulk _, .error _ | .bulk _, .integer _ | .bulk _, .null | .bulk _, .array _
  | .null, .status _ | .null, .error _ | .null, .integer _ | .null, .bulk _ | .null, .array _
  | .array _, .status _ | .array _, .error _ | .array _, .integer _ | .array _, .bulk _
  | .array _, .null => isFalse (by simp)

/-- Equality of lists of replies is decidable. -/
def decEqAll : (xs ys : List Reply) → Decidable (xs = ys)
  | [], [] => isTrue rfl
  | [], _ :: _ => isFalse (by simp)
  | _ :: _, [] => isFalse (by simp)
  | x :: xs, y :: ys =>
      match decEq x y, decEqAll xs ys with
      | isTrue h, isTrue hs => isTrue (by rw [h, hs])
      | isFalse h, _ => isFalse (by simp [h])
      | _, isFalse hs => isFalse (by simp [hs])

end

instance : DecidableEq Reply := decEq

/-- A line on the wire: a marker, a text and the end of the line. -/
def line (marker : UInt8) (text : Bytes) : Bytes :=
  marker :: text ++ crlf

/-- A line that holds a whole number. -/
def numberLine (marker : UInt8) (n : Int) : Bytes :=
  line marker (Bytes.ofString (toString n))

/-- A byte string on the wire: a line with its length, its bytes, and the end of a line. -/
def encodeBulk (data : Bytes) : Bytes :=
  numberLine 36 data.length ++ data ++ crlf

mutual

/-- The wire form of a reply. -/
def encode : Reply → Bytes
  | .status text => line 43 (Bytes.ofString text)
  | .error text => line 45 (Bytes.ofString text)
  | .integer value => numberLine 58 value.toInt
  | .bulk data => encodeBulk data
  | .null => numberLine 36 (-1)
  | .array items => numberLine 42 items.length ++ encodeAll items

/-- The wire forms of replies, one after the other. -/
def encodeAll : List Reply → Bytes
  | [] => []
  | item :: items => encode item ++ encodeAll items

end

mutual

/-- The form in which messages show a reply. -/
def text : Reply → String
  | .status text => "Status(" ++ Text.quote text ++ ")"
  | .error text => "Error(" ++ Text.quote text ++ ")"
  | .integer value => "Integer(" ++ toString value.toInt ++ ")"
  | .bulk data => "Bulk(Some(" ++ Text.quoteBytes data ++ "))"
  | .null => "Bulk(None)"
  | .array items => "Array([" ++ ", ".intercalate (texts items) ++ "])"

/-- The forms in which messages show replies. -/
def texts : List Reply → List String
  | [] => []
  | item :: items => text item :: texts items

end

end Reply

end RateLimit
