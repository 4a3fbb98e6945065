import RateLimit.Proofs.Reply.Progress

/-!
# Reading by positions

A reader has the bytes that have arrived in one piece, and goes by positions in them.  It looks for
the end of a line, cuts out the text of the line, or the bytes of a string and the end behind them,
and in an array it goes on with what is behind an element.  The lengths come from the server.  A
part that began behind its own end, or that ended behind the bytes there are, could not be cut out,
and reading would break off; and reading would not end if an element of an array were looked for in
as many bytes as the array itself.

Here reading is told with both dangers in it: only a part that there is can be cut out, and only so
many calls may be inside one another.  Reading by positions never breaks off for the first reason,
and for the second only if fewer calls are allowed than a quarter of the bytes; and it finds what a
reader finds.

## Main definitions

* `Slicing` : a computation that cuts parts out of an input, and may break off.
* `Slicing.Within` : what a computation comes to, and where the parts lie that it cuts out.
* `Reader.sliceReply`, `Reader.sliceArray`, `Reader.sliceElements` : reading by positions.

## Main results

* `Reader.within_sliceReply` : reading by positions does not break off, stays inside of its input,
  and finds what the reader finds.
* `Reader.slices_within_input` : reading stays inside of its input and makes progress.
-/

namespace RateLimit

/-- A part of a byte string, from one position up to another. -/
structure Span where
  /-- The position of its first byte. -/
  start : Nat
  /-- The position behind its last byte. -/
  stop : Nat
  deriving DecidableEq

/-- A part does not begin behind its end, and lies between two positions. -/
def Span.Within (first last : Nat) (span : Span) : Prop :=
  first ≤ span.start ∧ span.start ≤ span.stop ∧ span.stop ≤ last

/-- A computation that cuts parts out of an input and keeps a list of them, the last one first.  It
breaks off, without a result, if it asks for a part that there is not. -/
abbrev Slicing := StateT (List Span) Option

/-- What stands at the front of a byte string: a value and the number of bytes that it takes, or
nothing yet, or a fault. -/
abbrev Found (α : Type) := Except ProtocolFault (Option (α × Nat))

/-- Goes on behind a value that was found. -/
def Found.andThen {α β : Type} (found : Found α) (f : α → Nat → Slicing (Found β)) :
    Slicing (Found β) :=
  match found with
  | .ok (some (value, consumed)) => f value consumed
  | .ok none => return .ok none
  | .error fault => return .error fault

/-- What was read off an input of some length, with the number of bytes that it takes. -/
def Reading.found {α : Type} (length : Nat) : Reading α → Found α
  | .needMore => .ok none
  | .complete value rest => .ok (some (value, length - rest.length))
  | .invalid fault => .error fault

/-! ### Parts of an input -/

namespace Slicing

variable {α β : Type} {base bound : Nat} {x : Slicing α} {value : α}

/-- Cuts out the bytes from `start` up to `stop` of the bytes `data`, which begin at the position
`base` of the input. -/
def cut (base : Nat) (data : Bytes) (start stop : Nat) : Slicing Bytes :=
  if start ≤ stop ∧ stop ≤ data.length then do
    modify (⟨base + start, base + stop⟩ :: ·)
    return (data.drop start).take (stop - start)
  else failure

/-- A computation comes to a value, and the parts that it cuts out lie between two positions of the
input. -/
def Within (base bound : Nat) (x : Slicing α) (value : α) : Prop :=
  ∀ before, ∃ spans, x.run before = some (value, spans ++ before) ∧
    ∀ span ∈ spans, span.Within base bound

namespace Within

theorem pure (base bound : Nat) (value : α) : Within base bound (pure value) value :=
  fun _ => ⟨[], rfl, fun _ h => absurd h List.not_mem_nil⟩

theorem bind {f : α → Slicing β} {result : β} (hx : Within base bound x value)
    (hf : Within base bound (f value) result) : Within base bound (x >>= f) result := by
  intro before
  obtain ⟨spans, hrun, hspans⟩ := hx before
  obtain ⟨later, hlater, hlaters⟩ := hf (spans ++ before)
  refine ⟨later ++ spans, ?_, fun span hspan => ?_⟩
  · rw [StateT.run_bind, hrun, List.append_assoc]
    exact hlater
  · exact (List.mem_append.mp hspan).elim (hlaters span) (hspans span)

theorem mono {base' bound' : Nat} (hx : Within base bound x value) (hbase : base' ≤ base)
    (hbound : bound ≤ bound') : Within base' bound' x value := by
  intro before
  obtain ⟨spans, hrun, hspans⟩ := hx before
  refine ⟨spans, hrun, fun span hspan => ?_⟩
  obtain ⟨hfirst, hordered, hlast⟩ := hspans span hspan
  exact ⟨Nat.le_trans hbase hfirst, hordered, Nat.le_trans hlast hbound⟩

/-- A part that there is can be cut out. -/
theorem cut {start stop : Nat} (base : Nat) (data : Bytes) (hstart : start ≤ stop)
    (hstop : stop ≤ data.length) :
    Within base (base + data.length) (cut base data start stop)
      ((data.drop start).take (stop - start)) := by
  intro before
  refine ⟨[⟨base + start, base + stop⟩], ?_, fun span hspan => ?_⟩
  · rw [Slicing.cut, if_pos ⟨hstart, hstop⟩]
    rfl
  · rw [List.mem_singleton.mp hspan]
    exact ⟨Nat.le_add_right .., Nat.add_le_add_left hstart _, Nat.add_le_add_left hstop _⟩

/-- To go on behind a value that was found is to read a further value behind it. -/
theorem andThen {x : Slicing (Found α)} {reading : Reading α} {length : Nat}
    {f : α → Nat → Slicing (Found β)} {g : α → Bytes → Reading β}
    (hx : Within base bound x (reading.found length))
    (hf : ∀ value rest, reading = .complete value rest →
      Within base bound (f value (length - rest.length)) ((g value rest).found length)) :
    Within base bound (x >>= fun found => found.andThen f) ((reading.bind g).found length) := by
  refine hx.bind ?_
  cases reading with
  | needMore => exact pure base bound _
  | complete value rest => exact hf value rest rfl
  | invalid fault => exact pure base bound _

end Within

/-! ### Parts behind a position -/

variable {data rest : Bytes}

/-- What is behind a position can be cut out. -/
theorem within_cut_rest (h : rest <:+ data) (base : Nat) :
    Within base (base + data.length) (cut base data (data.length - rest.length) data.length)
      rest := by
  have hcut := Within.cut base data (Nat.sub_le data.length rest.length) (Nat.le_refl _)
  rwa [← List.suffix_iff_eq_drop.mp h, Nat.sub_sub_self h.length_le, List.take_length] at hcut

/-- A part of what is behind a position can be cut out. -/
theorem within_cut_behind (h : rest <:+ data) (base : Nat) {n m : Nat}
    (hle : n + m ≤ rest.length) :
    Within base (base + data.length)
      (cut base data (data.length - rest.length + n) (data.length - rest.length + n + m))
      ((rest.drop n).take m) := by
  have hlength := h.length_le
  have hcut := Within.cut base data (Nat.le_add_right (data.length - rest.length + n) m)
    (by omega)
  rwa [← List.drop_drop, ← List.suffix_iff_eq_drop.mp h, Nat.add_sub_cancel_left] at hcut

end Slicing

namespace Reader

open Reply Slicing

variable {r r' : Reader} {data input rest : Bytes} {reply : Reply}

/-! ### Reading by positions -/

/-- The position of the first end of a line. -/
def endOfLine? : Bytes → Option Nat
  | 13 :: 10 :: _ => some 0
  | _ :: data => (endOfLine? data).map (· + 1)
  | [] => none

/-- The line at the front, without its marker. -/
def sliceLine (base : Nat) (data : Bytes) : Slicing (Found Bytes) :=
  match endOfLine? data with
  | some i => do return .ok (some (← cut base data 1 i, i + 2))
  | none => return .ok none

/-- The number on the line at the front. -/
def sliceNumber (base : Nat) (data : Bytes) : Slicing (Found Int64) := do
  (← sliceLine base data).andThen fun text consumed =>
    match Decimal.int64? (Decimal.asciiChars text) with
    | some value => return .ok (some (value, consumed))
    | none => return .error (.badInteger text)

/-- The byte string at the front. -/
def sliceBulk (base : Nat) (data : Bytes) : Slicing (Found Reply) := do
  (← sliceNumber base data).andThen fun length consumed =>
    if length = -1 then return .ok (some (.null, consumed))
    else if length < 0 ∨ Int64.ofNat maxBulk < length then return .error (.bulkLength length)
    else do
      let n := length.toInt.toNat
      if data.length < consumed + n + 2 then return .ok none
      else if (← cut base data (consumed + n) (consumed + n + 2)) = crlf then
        return .ok (some (.bulk (← cut base data consumed (consumed + n)), consumed + n + 2))
      else return .error .unterminatedBulk

/-- The reply at the front, where that is not an array. -/
def sliceFlat (base : Nat) (marker : UInt8) (data : Bytes) : Slicing (Found Reply) := do
  if marker = 43 then
    (← sliceLine base data).andThen fun text consumed =>
      return .ok (some (.status (Utf8.lossy text), consumed))
  else if marker = 45 then
    (← sliceLine base data).andThen fun text consumed =>
      return .ok (some (.error (Utf8.lossy text), consumed))
  else if marker = 58 then
    (← sliceNumber base data).andThen fun value consumed =>
      return .ok (some (.integer value, consumed))
  else if marker = 36 then sliceBulk base data
  else return .error (.unknownMarker marker)

/-- A way to read by positions: a reader reads off the bytes at hand, which begin at a position of
the input. -/
abbrev Slicer := Reader → Nat → Bytes → Slicing (Found Reply × Reader)

/-- A number of replies behind the first `consumed` bytes, each read by `one`, where `found` are
those that stand before them, the last one first. -/
def sliceElements (one : Slicer) (base : Nat) (data : Bytes) (found : List Reply)
    (consumed : Nat) : Nat → Reader → Slicing (Found (List Reply) × Reader)
  | 0, r => return (.ok (some (found.reverse, consumed)), r)
  | n + 1, r => do
      match ← one r (base + consumed) (← cut base data consumed data.length) with
      | (.ok (some (reply, m)), r) =>
          sliceElements one base data (reply :: found) (consumed + m) n r
      | (.ok none, r) => return (.ok none, r)
      | (.error fault, r) => return (.error fault, r)

/-- The array at the front, with its elements read by `one`. -/
def sliceArray (one : Slicer) : Slicer := fun r base data => do
  if maxDepth ≤ r.depth then return (.error .tooDeep, r)
  else
    match ← sliceNumber base data with
    | .ok none => return (.ok none, r)
    | .error fault => return (.error fault, r)
    | .ok (some (count, consumed)) =>
        if count = -1 then return (.ok (some (.array [], consumed)), r)
        else if count < 0 ∨ Int64.ofNat maxElements < count then
          return (.error (.arrayCount count), r)
        else
          match ← sliceElements one base data [] consumed count.toInt.toNat r.enter with
          | (.ok (some (items, consumed)), r) =>
              return (.ok (some (.array items, consumed)), r.leave)
          | (.ok none, r) => return (.ok none, r.leave)
          | (.error fault, r) => return (.error fault, r.leave)

/-- The reply at the front.  It breaks off where more than so many calls would be inside one
another. -/
def sliceReply : (calls : Nat) → Slicer
  | 0, _, _, _ => failure
  | _ + 1, r, _, [] => return (.ok none, r)
  | calls + 1, r, base, marker :: input => do
      if marker = 42 then sliceArray (sliceReply calls) r base (marker :: input)
      else return (← sliceFlat base marker (marker :: input), r)

/-! ### Lines and numbers -/

/-- The bytes that are passed on the way to the end of a line are those before its position. -/
theorem lineFrom_eq_map_endOfLine? (taken input : Bytes) :
    lineFrom taken input =
      (endOfLine? input).map fun i => (taken.reverse ++ input.take i, input.drop (i + 2)) := by
  fun_induction lineFrom taken input with
  | case1 taken rest => simp [endOfLine?]
  | case2 taken b input hb ih =>
      rw [ih, endOfLine?]
      · cases endOfLine? input <;> simp
      · exact hb
  | case3 => rfl

theorem endOfLine?_le {i : Nat} (h : endOfLine? input = some i) : i + 2 ≤ input.length := by
  fun_induction endOfLine? input generalizing i with
  | case1 rest =>
      cases h
      exact Nat.le_add_left 2 rest.length
  | case2 b input hb ih =>
      obtain ⟨j, hj, rfl⟩ := Option.map_eq_some_iff.mp h
      exact Nat.succ_le_succ (ih hj)
  | case3 => cases h

/-- A marker is no carriage return, so that the end of a line lies behind it. -/
theorem within_sliceLine (base : Nat) {marker : UInt8} (hmarker : marker ≠ 13) (input : Bytes) :
    Within base (base + (marker :: input).length) (sliceLine base (marker :: input))
      ((line input).found (marker :: input).length) := by
  have hend : endOfLine? (marker :: input) = (endOfLine? input).map (· + 1) := by
    rw [endOfLine?]
    exact fun rest hreturn => absurd hreturn hmarker
  rw [sliceLine, line, lineFrom_eq_map_endOfLine?, hend]
  cases hi : endOfLine? input with
  | none => exact .pure _ _ _
  | some i =>
      have hle := endOfLine?_le hi
      have hcut : Within base (base + (marker :: input).length)
          (cut base (marker :: input) 1 (i + 1)) (input.take i) :=
        .cut base _ (Nat.le_add_left 1 i) (by rw [List.length_cons]; omega)
      have hconsumed : (marker :: input).length - (input.drop (i + 2)).length = i + 1 + 2 := by
        rw [List.length_cons, List.length_drop]
        omega
      refine hcut.bind ?_
      simp only [Option.map_some, List.reverse_nil, List.nil_append, Reading.found, hconsumed]
      exact .pure _ _ _

theorem within_sliceNumber (base : Nat) {marker : UInt8} (hmarker : marker ≠ 13) (input : Bytes) :
    Within base (base + (marker :: input).length) (sliceNumber base (marker :: input))
      ((number input).found (marker :: input).length) := by
  refine (within_sliceLine base hmarker input).andThen fun text rest _ => ?_
  cases Decimal.int64? (Decimal.asciiChars text) <;> exact .pure _ _ _

/-! ### Replies -/

theorem within_sliceBulk (base : Nat) {marker : UInt8} (hmarker : marker ≠ 13) (input : Bytes) :
    Within base (base + (marker :: input).length) (sliceBulk base (marker :: input))
      ((bulk input).found (marker :: input).length) := by
  refine (within_sliceNumber base hmarker input).andThen fun length rest hnumber => ?_
  obtain ⟨w, rfl, -⟩ := exists_append_of_number hnumber
  have hsuffix : rest <:+ marker :: (w ++ rest) := List.suffix_append (marker :: w) rest
  have hlength := hsuffix.length_le
  split_ifs with hnull hrange
  · exact .pure _ _ _
  · exact .pure _ _ _
  · dsimp only
    generalize length.toInt.toNat = n
    -- Both parts are asked for only if the string and its end have arrived.
    by_cases hshort : rest.length < n + 2
    · rw [if_pos hshort, if_pos (by omega)]
      exact .pure _ _ _
    · rw [if_neg hshort, if_neg (by omega)]
      refine (within_cut_behind hsuffix base (by omega)).bind ?_
      split_ifs with hend
      · refine (within_cut_behind (n := 0) hsuffix base (by omega)).bind ?_
        have hconsumed : (marker :: (w ++ rest)).length - (rest.drop (n + 2)).length =
            (marker :: (w ++ rest)).length - rest.length + n + 2 := by
          rw [List.length_drop]
          omega
        rw [Reading.found, hconsumed]
        exact .pure _ _ _
      · exact .pure _ _ _

theorem within_sliceFlat (base : Nat) (marker : UInt8) (input : Bytes) :
    Within base (base + (marker :: input).length) (sliceFlat base marker (marker :: input))
      ((flat marker input).found (marker :: input).length) := by
  unfold sliceFlat flat
  split_ifs with hstatus herror hinteger hbulk
  · exact (within_sliceLine base (hstatus ▸ by decide) input).andThen fun _ _ _ => .pure _ _ _
  · exact (within_sliceLine base (herror ▸ by decide) input).andThen fun _ _ _ => .pure _ _ _
  · exact (within_sliceNumber base (hinteger ▸ by decide) input).andThen fun _ _ _ => .pure _ _ _
  · exact within_sliceBulk base (hbulk ▸ by decide) input
  · exact .pure _ _ _

/-! ### Arrays -/

theorem front_eq_found (r : Reader) (input : Bytes) :
    r.front input = (r.read input).1.found input.length := by
  rw [front]
  cases (r.read input).1 <;> rfl

variable {one : Slicer}

/-- Elements are found by positions if each reply among the bytes that are left is. -/
theorem within_sliceElements (base : Nat) (found : List Reply) (n : Nat) (hrest : rest <:+ data)
    (hone : ∀ base behind, behind.length ≤ rest.length →
      Within base (base + behind.length) (one r base behind) (r.front behind, r)) :
    Within base (base + data.length)
      (sliceElements one base data found (data.length - rest.length) n r)
      ((elements read found n r rest).1.found data.length, r) := by
  induction n generalizing found rest with
  | zero =>
      rw [sliceElements, elements]
      exact .pure _ _ _
  | succ n ih =>
      have hr := r.read_snd rest
      have hfront := r.front_eq_found rest
      have hlength := hrest.length_le
      rw [sliceElements, elements]
      refine (within_cut_rest hrest base).bind ?_
      refine ((hone _ rest (Nat.le_refl _)).mono (Nat.le_add_right ..) (by omega)).bind ?_
      rcases hread : r.read rest with ⟨_ | ⟨reply, behind⟩ | fault, r'⟩ <;> rw [hread] at hr hfront
      · rw [hfront]
        exact .pure _ _ _
      · obtain ⟨w, rfl, -⟩ := exists_append_of_read (congrArg Prod.fst hread)
        obtain rfl : r' = r := hr
        have hbehind : behind <:+ w ++ behind := List.suffix_append w behind
        have hconsumed : data.length - (w ++ behind).length +
            ((w ++ behind).length - behind.length) = data.length - behind.length := by
          have hle := hbehind.length_le
          omega
        rw [hfront]
        simp only [Reading.found, hconsumed]
        exact ih (reply :: found) (hbehind.trans hrest) fun base later hlater =>
          hone base later (Nat.le_trans hlater hbehind.length_le)
      · rw [hfront]
        exact .pure _ _ _

/-- An array is found by positions if each reply in four bytes less is. -/
theorem within_sliceArray (base : Nat)
    (hone : ∀ base behind, 4 + behind.length ≤ (42 :: input).length →
      Within base (base + behind.length) (one r.enter base behind)
        (r.enter.front behind, r.enter)) :
    Within base (base + (42 :: input).length) (sliceArray one r base (42 :: input))
      (r.front (42 :: input), r) := by
  rw [front_eq_found, read_eq_readBy, readBy, if_pos rfl, sliceArray, array]
  split_ifs with hdeep
  · exact .pure _ _ _
  refine (within_sliceNumber base (by decide) input).bind ?_
  cases hnumber : number input with
  | needMore => exact .pure _ _ _
  | invalid fault => exact .pure _ _ _
  | complete count rest =>
      dsimp only [Reading.found]
      split_ifs with hnull hrange
      · exact .pure _ _ _
      · exact .pure _ _ _
      · obtain ⟨w, rfl, hw⟩ := exists_append_of_number hnumber
        have hsuffix : rest <:+ 42 :: (w ++ rest) := List.suffix_append (42 :: w) rest
        have hlength : 4 + rest.length ≤ (42 :: (w ++ rest)).length := by
          rw [List.length_cons, List.length_append]
          omega
        refine (within_sliceElements base [] count.toInt.toNat hsuffix fun base behind hbehind =>
          hone base behind (by omega)).bind ?_
        rcases elements read [] count.toInt.toNat r.enter rest with
          ⟨_ | ⟨items, behind⟩ | fault, r'⟩ <;> exact .pure _ _ _

/-- Reading by positions does not break off where one call inside of another is left for every four
bytes, cuts out nothing that is not there, and finds what the reader finds. -/
theorem within_sliceReply {calls : Nat} (r : Reader) (base : Nat) (data : Bytes)
    (h : data.length < 4 * calls) :
    Within base (base + data.length) (sliceReply calls r base data) (r.front data, r) := by
  induction calls generalizing r base data with
  | zero => exact absurd h (Nat.not_lt_zero _)
  | succ calls ih =>
      cases data with
      | nil =>
          rw [sliceReply, front_eq_found, read_eq_readBy]
          exact .pure _ _ _
      | cons marker input =>
          rw [sliceReply]
          split_ifs with hmarker
          · subst hmarker
            exact within_sliceArray base fun base behind hbehind => ih _ base behind (by omega)
          · refine (within_sliceFlat base marker input).bind ?_
            rw [front_eq_found, read_eq_readBy, readBy, if_neg hmarker]
            exact .pure _ _ _

-- The number of elements, what is behind it, the length of the string, its end and its text.
example :
    ((sliceReply 2 {} 0 (Bytes.ofString "*1\r\n$3\r\nabc\r\n")).run []).map (·.2.reverse) =
      some [⟨1, 2⟩, ⟨4, 13⟩, ⟨5, 6⟩, ⟨11, 13⟩, ⟨8, 11⟩] := by
  decide +kernel

/-! ### The bounds -/

/-- **Reading stays inside of its input and makes progress.** In however many arrays a reader
stands, reading by positions does not break off where one call inside of another is left for every
four bytes of the input.  It finds what the reader finds, and every part that it cuts out of the
input does not begin behind its end and ends within the input.  A reply takes at least three bytes
and no more than there are; a place that the reader comes to inside of some arrays has four bytes
before it for each of them.  Replies can be taken off the front of the input only as often as it has
three bytes for each of them, and the reader takes them off until there is none at the front. -/
theorem slices_within_input (r : Reader) (input : Bytes) :
    (∀ calls, input.length < 4 * calls →
      ∃ spans, (sliceReply calls r 0 input).run [] = some ((r.front input, r), spans) ∧
        ∀ span ∈ spans, span.start ≤ span.stop ∧ span.stop ≤ input.length) ∧
    (∀ reply n, r.front input = .ok (some (reply, n)) → 3 ≤ n ∧ n ≤ input.length) ∧
    (∀ k r' rest, r.Meets input k r' rest → 4 * k + rest.length ≤ input.length) ∧
    (∀ k rest, Drops input k rest → 3 * k + rest.length ≤ input.length) ∧
    Drops input (r.drain input).replies.length (r.drain input).left ∧
    ∀ reply n, r.front (r.drain input).left ≠ .ok (some (reply, n)) := by
  refine ⟨fun calls hcalls => ?_, fun _ _ => length_of_front, fun _ _ _ => Meets.length_le,
    fun _ _ => Drops.length_le, r.drops_drain input⟩
  obtain ⟨spans, hrun, hspans⟩ := within_sliceReply r 0 input hcalls []
  rw [List.append_nil] at hrun
  refine ⟨spans, hrun, fun span hspan => ?_⟩
  obtain ⟨-, hordered, hlast⟩ := hspans span hspan
  rw [Nat.zero_add] at hlast
  exact ⟨hordered, hlast⟩

end Reader

end RateLimit
