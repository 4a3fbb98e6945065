import RateLimit.Reply.Fault

/-!
# Reading replies off a stream

A reader takes one reply off the front of the bytes that have arrived.  Either more bytes are
needed, or a reply is complete and the rest of the bytes is kept, or the bytes can no longer
become a reply.  Nothing is remembered between two attempts but the number of arrays the reader
stands in, and that number is the same after every attempt as before it.

Lengths are bounded: a byte string has at most `maxBulk` bytes, an array at most `maxElements`
elements, and arrays are nested at most `maxDepth` deep.

## Main definitions

* `Reading` : what an attempt to read comes to.
* `Reader.read` : reads one reply.
* `Reader.drain` : reads replies until more bytes are needed or the input is refused.
* `Reader.feed` : reads replies off a stream that arrives in pieces.
* `Reply.decode` : the reply at the front of a complete input.

## Main results

* `Reader.length_lt_of_read` : a complete reply takes at least one byte off the input.
-/

namespace RateLimit

/-- What an attempt to read a value off the front of a byte string comes to. -/
inductive Reading (α : Type)
  /-- The input ends before the value does. -/
  | needMore
  /-- The value, and the bytes behind it. -/
  | complete (value : α) (rest : Bytes)
  /-- The input cannot be continued to a value. -/
  | invalid (fault : ProtocolFault)
  deriving DecidableEq

/-- Reads a further value behind a complete one. -/
def Reading.bind {α β : Type} (x : Reading α) (f : α → Bytes → Reading β) : Reading β :=
  match x with
  | .needMore => .needMore
  | .complete value rest => f value rest
  | .invalid fault => .invalid fault

/-- The state of a reader between attempts: the number of arrays it stands in. -/
structure Reader where
  /-- The number of arrays entered and not left. -/
  depth : Nat := 0
  deriving DecidableEq, Repr

namespace Reader

/-- The greatest length of a byte string: 512 MiB. -/
def maxBulk : Nat := 512 * 1024 * 1024

/-- The greatest number of elements of an array. -/
def maxElements : Nat := 1024 * 1024

/-- The greatest number of arrays inside one another. -/
def maxDepth : Nat := 128

/-- The reader inside one more array. -/
def enter (r : Reader) : Reader := { r with depth := r.depth + 1 }

/-- The reader outside the innermost array. -/
def leave (r : Reader) : Reader := { r with depth := r.depth - 1 }

/-- The line at the front of a byte string and the bytes behind its end, where `taken` are the
bytes of the line that have been passed, the last one first. -/
def lineFrom (taken : Bytes) : Bytes → Option (Bytes × Bytes)
  | 13 :: 10 :: rest => some (taken.reverse, rest)
  | b :: rest => lineFrom (b :: taken) rest
  | [] => none

/-- Reads a line, up to the first carriage return that a line feed follows. -/
def line (input : Bytes) : Reading Bytes :=
  match lineFrom [] input with
  | some (text, rest) => .complete text rest
  | none => .needMore

/-- Reads a line that holds a whole number. -/
def number (input : Bytes) : Reading Int64 :=
  (line input).bind fun text rest =>
    match Decimal.int64? (Decimal.asciiChars text) with
    | some n => .complete n rest
    | none => .invalid (.badInteger text)

/-- Reads a byte string behind its marker. -/
def bulk (input : Bytes) : Reading Reply :=
  (number input).bind fun length rest =>
    if length = -1 then .complete .null rest
    else if length < 0 ∨ Int64.ofNat maxBulk < length then .invalid (.bulkLength length)
    else
      let n := length.toInt.toNat
      if rest.length < n + 2 then .needMore
      else if (rest.drop n).take 2 = crlf then
        .complete (.bulk (rest.take n)) (rest.drop (n + 2))
      else .invalid .unterminatedBulk

/-- Reads a number of replies one after the other, where `found` are those already read, the last
one first. -/
def elements (one : Reader → Bytes → Reading Reply × Reader) (found : List Reply) :
    Nat → Reader → Bytes → Reading (List Reply) × Reader
  | 0, r, input => (.complete found.reverse input, r)
  | n + 1, r, input =>
      match one r input with
      | (.complete reply rest, r) => elements one (reply :: found) n r rest
      | (.needMore, r) => (.needMore, r)
      | (.invalid fault, r) => (.invalid fault, r)

/-- Reads an array behind its marker.  The absence of an array is an empty array. -/
def array (one : Reader → Bytes → Reading Reply × Reader) (r : Reader) (input : Bytes) :
    Reading Reply × Reader :=
  if maxDepth ≤ r.depth then (.invalid .tooDeep, r)
  else
    match number input with
    | .needMore => (.needMore, r)
    | .invalid fault => (.invalid fault, r)
    | .complete count rest =>
        if count = -1 then (.complete (.array []) rest, r)
        else if count < 0 ∨ Int64.ofNat maxElements < count then
          (.invalid (.arrayCount count), r)
        else
          match elements one [] count.toInt.toNat r.enter rest with
          | (.complete items rest, r) => (.complete (.array items) rest, r.leave)
          | (.needMore, r) => (.needMore, r.leave)
          | (.invalid fault, r) => (.invalid fault, r.leave)

/-- Reads a reply that is not an array, behind its marker. -/
def flat (marker : UInt8) (input : Bytes) : Reading Reply :=
  if marker = 43 then
    (line input).bind fun text rest => .complete (.status (Utf8.lossy text)) rest
  else if marker = 45 then
    (line input).bind fun text rest => .complete (.error (Utf8.lossy text)) rest
  else if marker = 58 then
    (number input).bind fun value rest => .complete (.integer value) rest
  else if marker = 36 then bulk input
  else .invalid (.unknownMarker marker)

/-- Reads one reply that has at most `levels` arrays inside one another. -/
def readWithin : Nat → Reader → Bytes → Reading Reply × Reader
  | _, r, [] => (.needMore, r)
  | levels, r, marker :: input =>
      if marker = 42 then
        match levels with
        | 0 => (.invalid .tooDeep, r)
        | levels + 1 => array (readWithin levels) r input
      else (flat marker input, r)

/-- Reads one reply off the front of a byte string. -/
def read (r : Reader) (input : Bytes) : Reading Reply × Reader :=
  readWithin (maxDepth - r.depth) r input

/-! ### A complete reply takes bytes off the input -/

theorem length_lt_of_lineFrom {taken input text rest : Bytes}
    (h : lineFrom taken input = some (text, rest)) : rest.length < input.length := by
  fun_induction lineFrom taken input with
  | case1 taken rest' =>
      simp only [Option.some.injEq, Prod.mk.injEq] at h
      simp only [← h.2, List.length_cons]
      omega
  | case2 taken b input hb ih => exact Nat.lt_succ_of_lt (ih h)
  | case3 => simp at h

theorem length_lt_of_line {input text rest : Bytes} (h : line input = .complete text rest) :
    rest.length < input.length := by
  unfold line at h
  split at h
  · rename_i hl
    cases h
    exact length_lt_of_lineFrom hl
  · cases h

theorem Reading.bind_eq_complete {α β : Type} {x : Reading α} {f : α → Bytes → Reading β}
    {v : β} {rest : Bytes} (h : x.bind f = .complete v rest) :
    ∃ u mid, x = .complete u mid ∧ f u mid = .complete v rest := by
  cases x with
  | needMore => cases h
  | complete u mid => exact ⟨u, mid, rfl, h⟩
  | invalid e => cases h

theorem length_lt_of_number {input rest : Bytes} {n : Int64}
    (h : number input = .complete n rest) : rest.length < input.length := by
  obtain ⟨text, mid, hl, h⟩ := Reading.bind_eq_complete h
  split at h
  · cases h
    exact length_lt_of_line hl
  · cases h

theorem length_lt_of_bulk {input rest : Bytes} {reply : Reply}
    (h : bulk input = .complete reply rest) : rest.length < input.length := by
  obtain ⟨n, mid, hn, h⟩ := Reading.bind_eq_complete h
  have hmid := length_lt_of_number hn
  split at h
  · cases h
    exact hmid
  split at h
  · cases h
  dsimp only at h
  split at h
  · cases h
  split at h
  · cases h
    simp only [List.length_drop]
    omega
  · cases h

theorem length_le_of_elements {one : Reader → Bytes → Reading Reply × Reader}
    (hone : ∀ r input reply rest r', one r input = (.complete reply rest, r') →
      rest.length < input.length)
    {found items : List Reply} {n : Nat} {r r' : Reader} {input rest : Bytes}
    (h : elements one found n r input = (.complete items rest, r')) :
    rest.length ≤ input.length := by
  fun_induction elements one found n r input with
  | case1 => cases h; exact Nat.le_refl _
  | case2 found n r input reply mid r'' heq ih =>
      exact Nat.le_trans (ih h) (Nat.le_of_lt (hone _ _ _ _ _ heq))
  | case3 => cases h
  | case4 => cases h

theorem length_lt_of_array {one : Reader → Bytes → Reading Reply × Reader}
    (hone : ∀ r input reply rest r', one r input = (.complete reply rest, r') →
      rest.length < input.length)
    {r r' : Reader} {input rest : Bytes} {reply : Reply}
    (h : array one r input = (.complete reply rest, r')) : rest.length < input.length := by
  unfold array at h
  split at h
  · cases h
  split at h
  · cases h
  · cases h
  · rename_i hn
    have hmid := length_lt_of_number hn
    split at h
    · cases h
      exact hmid
    split at h
    · cases h
    split at h
    · rename_i he
      cases h
      exact Nat.lt_of_le_of_lt (length_le_of_elements hone he) hmid
    · cases h
    · cases h

theorem length_lt_of_flat {marker : UInt8} {input rest : Bytes} {reply : Reply}
    (h : flat marker input = .complete reply rest) : rest.length < input.length := by
  unfold flat at h
  split at h
  · obtain ⟨text, mid, hl, h⟩ := Reading.bind_eq_complete h
    cases h
    exact length_lt_of_line hl
  split at h
  · obtain ⟨text, mid, hl, h⟩ := Reading.bind_eq_complete h
    cases h
    exact length_lt_of_line hl
  split at h
  · obtain ⟨n, mid, hn, h⟩ := Reading.bind_eq_complete h
    cases h
    exact length_lt_of_number hn
  split at h
  · exact length_lt_of_bulk h
  · cases h

theorem length_lt_of_readWithin {levels : Nat} {r r' : Reader} {input rest : Bytes} {reply : Reply}
    (h : readWithin levels r input = (.complete reply rest, r')) :
    rest.length < input.length := by
  induction levels generalizing r r' input rest reply with
  | zero =>
      cases input with
      | nil => cases h
      | cons marker input =>
          unfold readWithin at h
          split at h
          · cases h
          · exact Nat.lt_succ_of_lt (length_lt_of_flat (congrArg Prod.fst h))
  | succ levels ih =>
      cases input with
      | nil => cases h
      | cons marker input =>
          unfold readWithin at h
          split at h
          · exact Nat.lt_succ_of_lt (length_lt_of_array (fun _ _ _ _ _ => ih) h)
          · exact Nat.lt_succ_of_lt (length_lt_of_flat (congrArg Prod.fst h))

/-- A complete reply takes at least one byte off the input. -/
theorem length_lt_of_read {r r' : Reader} {input rest : Bytes} {reply : Reply}
    (h : r.read input = (.complete reply rest, r')) : rest.length < input.length :=
  length_lt_of_readWithin h

/-! ### Reading all replies of a buffer -/

/-- How a reader stops on a buffer. -/
inductive Stop
  /-- The buffer holds the beginning of a reply at most. -/
  | needMore
  /-- The buffer is refused. -/
  | invalid (fault : ProtocolFault)
  deriving DecidableEq

/-- What a reader takes off a buffer. -/
structure Drained where
  /-- The replies, each with the number of bytes it took. -/
  replies : List (Reply × Nat)
  /-- Why there are no more. -/
  stop : Stop
  /-- The bytes that are left. -/
  left : Bytes
  /-- The reader afterwards. -/
  reader : Reader
  deriving DecidableEq

/-- Reads replies off the front of a buffer until more bytes are needed or the buffer is
refused.  The bytes of a refused reply stay in the buffer. -/
def drain (r : Reader) (buffer : Bytes) : Drained :=
  match _h : r.read buffer with
  | (.needMore, r) => ⟨[], .needMore, buffer, r⟩
  | (.invalid fault, r) => ⟨[], .invalid fault, buffer, r⟩
  | (.complete reply rest, r) =>
      let later := drain r rest
      { later with replies := (reply, buffer.length - rest.length) :: later.replies }
termination_by buffer.length
decreasing_by exact length_lt_of_read _h

/-- Appends pieces of a stream to a buffer one after the other, and reads replies off the front of
the buffer after each. -/
def feed (r : Reader) (buffer : Bytes) : List Bytes → List Drained
  | [] => []
  | piece :: pieces =>
      let drained := r.drain (buffer ++ piece)
      drained :: feed drained.reader drained.left pieces

end Reader

/-- The reply at the front of a complete input, whatever follows it. -/
def Reply.decode (input : Bytes) : Except ProtocolFault Reply :=
  match (Reader.read {} input).1 with
  | .needMore => .error .truncated
  | .complete reply _ => .ok reply
  | .invalid fault => .error fault

end RateLimit
