import RateLimit.Proofs.Reply.Stream

/-!
# The arrays that a reader stands in

A reader counts the arrays that it has entered and not left.  The count bounds the recursion: an
array is entered only from fewer than `maxDepth` arrays, and every array that is entered is left
again, however reading it ends.  So the count never exceeds `maxDepth`, reading fails because of the
nesting exactly where an array begins inside `maxDepth` others, and a reader can be used any number
of times.

## Main definitions

* `Reader.readBy` : one step of the recursion, with the elements of arrays read in a given way.
* `Reader.Enters` : a reader enters the array at the front of a byte string.
* `Reader.Meets` : a place that a reader comes to, inside some arrays that it has entered.
* `Reader.readEach` : the use of one reader for byte strings one after the other.

## Main results

* `Reader.read_eq_readBy` : the recursion of reading.
* `Reader.readBy_congr` : reading depends on nothing but what is read at the places that are met.
* `Reader.read_eq_tooDeep_iff` : when reading fails because of the nesting.
* `Reader.nesting_restored` : the arrays that a reader stands in, before, during and after reading.
-/

namespace RateLimit.Reader

open Reply

variable {r r' r'' : Reader} {input body rest rest' : Bytes} {n k k' : Nat}

/-! ### The recursion -/

/-- Reads one reply, with the elements of an array read by `one`. -/
def readBy (one : Reader → Bytes → Reading Reply × Reader) (r : Reader) :
    Bytes → Reading Reply × Reader
  | [] => (.needMore, r)
  | marker :: input => if marker = 42 then array one r input else (flat marker input, r)

/-- The elements of an array as the array, seen from outside of it. -/
def close (found : Reading (List Reply) × Reader) : Reading Reply × Reader :=
  (found.1.bind fun items rest => .complete (.array items) rest, found.2.leave)

/-- A reader enters the array at the front of a byte string, which announces a number of elements,
and stands in front of them. -/
inductive Enters (r : Reader) : Bytes → Nat → Bytes → Prop
  | intro {input body : Bytes} {count : Int64} {n : Nat} (hdepth : r.depth < maxDepth)
      (hnumber : number input = .complete count body) (hcount : count.toInt = n)
      (hmax : n ≤ maxElements) : r.Enters (42 :: input) n body

namespace Enters

theorem depth_lt (h : r.Enters input n body) : r.depth < maxDepth := by
  cases h
  assumption

theorem unique {n' : Nat} {body' : Bytes} (h : r.Enters input n body)
    (h' : r.Enters input n' body') : n = n' ∧ body = body' := by
  obtain ⟨-, hnumber, hcount, -⟩ := h
  obtain ⟨-, hnumber', hcount', -⟩ := h'
  rw [hnumber] at hnumber'
  cases hnumber'
  exact ⟨by omega, rfl⟩

theorem readBy_eq (h : r.Enters input n body)
    (one : Reader → Bytes → Reading Reply × Reader) :
    readBy one r input = close (elements one [] n r.enter body) := by
  obtain ⟨hdepth, hnumber, hcount, hmax⟩ := h
  have hn := congrArg Int.toNat hcount
  rw [Int.toNat_natCast] at hn
  rw [readBy, if_pos rfl, array, if_neg (Nat.not_le_of_lt hdepth), hnumber]
  dsimp only
  rw [if_neg (ne_neg_one_of_toInt_eq hcount),
    if_neg (not_outOfRange_of_toInt_eq hcount hmax toInt_ofNat_maxElements), hn]
  rcases elements one [] n r.enter body with ⟨_ | ⟨items, rest⟩ | fault, r'⟩ <;> rfl

end Enters

/-! ### Faults other than the nesting -/

theorem bind_ne_invalid {α β : Type} {x : Reading α} {f : α → Bytes → Reading β}
    {fault : ProtocolFault} (hx : x ≠ .invalid fault)
    (hf : ∀ value rest, f value rest ≠ .invalid fault) : x.bind f ≠ .invalid fault := by
  cases x with
  | needMore => exact fun h => by cases h
  | complete value rest => exact hf value rest
  | invalid fault' => exact fun h => hx (by cases h; rfl)

theorem line_ne_invalid (input : Bytes) (fault : ProtocolFault) : line input ≠ .invalid fault := by
  unfold line
  split <;> exact fun h => by cases h

theorem number_ne_tooDeep (input : Bytes) : number input ≠ .invalid .tooDeep := by
  refine bind_ne_invalid (line_ne_invalid input _) fun text rest => ?_
  split <;> exact fun h => by cases h

theorem bulk_ne_tooDeep (input : Bytes) : bulk input ≠ .invalid .tooDeep := by
  refine bind_ne_invalid (number_ne_tooDeep input) fun length rest => ?_
  dsimp only
  split_ifs <;> exact fun h => by cases h

/-- Only an array is refused because of the nesting. -/
theorem flat_ne_tooDeep (marker : UInt8) (input : Bytes) :
    flat marker input ≠ .invalid .tooDeep := by
  unfold flat
  split_ifs
  · exact bind_ne_invalid (line_ne_invalid input _) fun _ _ h => by cases h
  · exact bind_ne_invalid (line_ne_invalid input _) fun _ _ h => by cases h
  · exact bind_ne_invalid (number_ne_tooDeep input) fun _ _ h => by cases h
  · exact bulk_ne_tooDeep input
  · exact fun h => by cases h

/-- Where no array is entered, reading does not depend on how elements are read. -/
theorem readBy_of_not_enters (h : ∀ n body, ¬ r.Enters input n body) :
    ∃ reading, (reading = .invalid .tooDeep ↔ maxDepth ≤ r.depth ∧ ∃ rest, input = 42 :: rest) ∧
      ∀ one, readBy one r input = (reading, r) := by
  cases input with
  | nil => exact ⟨.needMore, by simp, fun one => rfl⟩
  | cons marker input =>
      by_cases hmarker : marker = 42
      · subst hmarker
        by_cases hdeep : maxDepth ≤ r.depth
        · exact ⟨.invalid .tooDeep, by simp [hdeep], fun one => by
            rw [readBy, if_pos rfl, array, if_pos hdeep]⟩
        have hiff {reading : Reading Reply} (hreading : reading ≠ .invalid .tooDeep) :
            reading = .invalid .tooDeep ↔
              maxDepth ≤ r.depth ∧ ∃ rest, (42 : UInt8) :: input = 42 :: rest :=
          iff_of_false hreading fun hdeep' => hdeep hdeep'.1
        have harray (one : Reader → Bytes → Reading Reply × Reader) :
            readBy one r (42 :: input) = array one r input := rfl
        simp only [harray, array, if_neg hdeep]
        cases hnumber : number input with
        | needMore => exact ⟨.needMore, hiff (by simp), fun one => rfl⟩
        | invalid fault =>
            have hne := number_ne_tooDeep input
            rw [hnumber] at hne
            exact ⟨.invalid fault, hiff (by simpa using hne), fun one => rfl⟩
        | complete count body =>
            dsimp only
            split_ifs with hnull hrange
            · exact ⟨.complete (.array []) body, hiff (by simp), fun one => rfl⟩
            · exact ⟨.invalid (.arrayCount count), hiff (by simp), fun one => rfl⟩
            · obtain ⟨hcount, hmax⟩ := toInt_of_not_outOfRange hrange toInt_ofNat_maxElements
              exact absurd (.intro (Nat.lt_of_not_le hdeep) hnumber hcount hmax) (h _ body)
      · refine ⟨flat marker input, iff_of_false (flat_ne_tooDeep marker input) ?_, fun one => ?_⟩
        · rintro ⟨-, rest, hrest⟩
          exact hmarker (List.cons.inj hrest).1
        · rw [readBy, if_neg hmarker]

/-! ### The recursion of reading -/

/-- Elements are read alike in two ways that agree on what the reader comes to. -/
theorem elements_congr {one : Reader → Bytes → Reading Reply × Reader} {found : List Reply}
    (h : ∀ before behind, r.Yields input before behind → before.length < n →
      one r behind = r.read behind) :
    elements one found n r input = elements read found n r input := by
  induction n generalizing found input with
  | zero => rfl
  | succ n ih =>
      have hr := r.read_snd input
      rw [elements, elements, h [] input (.nil input) (Nat.succ_pos n)]
      rcases hread : r.read input with ⟨_ | ⟨reply, behind⟩ | fault, r'⟩
      · rfl
      · rw [hread] at hr
        obtain rfl : r' = r := hr
        refine ih fun before rest hbefore hlength => ?_
        exact h (reply :: before) rest (.cons (congrArg Prod.fst hread) hbefore)
          (Nat.succ_lt_succ hlength)
      · rfl

theorem readWithin_succ (levels : Nat) (r : Reader) (input : Bytes) :
    readWithin (levels + 1) r input = readBy (readWithin levels) r input := by
  cases input <;> rfl

/-- **The recursion of reading.** The elements of an array are read by the reader itself, inside of
the array. -/
theorem read_eq_readBy (r : Reader) (input : Bytes) : r.read input = readBy read r input := by
  rw [read]
  cases hlevels : maxDepth - r.depth with
  | zero =>
      have hdeep : maxDepth ≤ r.depth := Nat.le_of_sub_eq_zero hlevels
      cases input with
      | nil => rfl
      | cons marker input => rw [readWithin, readBy, array, if_pos hdeep]
  | succ levels =>
      rw [readWithin_succ]
      by_cases henters : ∃ n body, r.Enters input n body
      · obtain ⟨n, body, h⟩ := henters
        have hinner : maxDepth - r.enter.depth = levels := by
          rw [enter_depth]
          omega
        rw [h.readBy_eq, h.readBy_eq, elements_congr]
        intro before behind _ _
        rw [read, hinner]
      · obtain ⟨reading, -, hreading⟩ :=
          readBy_of_not_enters fun n body h => henters ⟨n, body, h⟩
        rw [hreading, hreading]

/-! ### The places that a reader comes to -/

/-- A reader comes to a place in a byte string, inside some arrays that it has entered: it stands
there as another reader, in front of the bytes from there on, which it is to read. -/
inductive Meets : Reader → Bytes → Nat → Reader → Bytes → Prop
  | front (r : Reader) (input : Bytes) : Meets r input 0 r input
  | element {r r' : Reader} {input body behind rest : Bytes} {n k : Nat} {before : List Reply}
      (henters : r.Enters input n body) (hbefore : r.enter.Yields body before behind)
      (hcount : before.length < n) (h : Meets r.enter behind k r' rest) :
      Meets r input (k + 1) r' rest

namespace Meets

/-- The arrays that were entered are counted. -/
theorem depth_eq (h : r.Meets input k r' rest) : r'.depth = r.depth + k := by
  induction h with
  | front => rfl
  | element henters hbefore hcount h ih =>
      rw [ih, enter_depth]
      omega

/-- No reader comes to stand in more than `maxDepth` arrays. -/
theorem depth_le (h : r.Meets input k r' rest) (hr : r.depth ≤ maxDepth) : r'.depth ≤ maxDepth := by
  induction h with
  | front => exact hr
  | element henters hbefore hcount h ih => exact ih henters.depth_lt

theorem trans (h : r.Meets input k r' rest) (h' : r'.Meets rest k' r'' rest') :
    r.Meets input (k + k') r'' rest' := by
  induction h with
  | front => rwa [Nat.zero_add]
  | element henters hbefore hcount h ih =>
      rw [Nat.add_right_comm]
      exact .element henters hbefore hcount (ih h')

end Meets

/-- What is read depends on nothing but what is read at the places that the reader comes to inside
of one array. -/
theorem readBy_congr {one : Reader → Bytes → Reading Reply × Reader}
    (h : ∀ r' rest, r.Meets input 1 r' rest → one r' rest = r'.read rest) :
    readBy one r input = r.read input := by
  rw [read_eq_readBy]
  by_cases henters : ∃ n body, r.Enters input n body
  · obtain ⟨n, body, henters⟩ := henters
    rw [henters.readBy_eq, henters.readBy_eq, elements_congr]
    intro before behind hbefore hcount
    exact h r.enter behind (.element henters hbefore hcount (.front _ _))
  · obtain ⟨reading, -, hreading⟩ := readBy_of_not_enters fun n body h => henters ⟨n, body, h⟩
    rw [hreading, hreading]

/-! ### Too many arrays -/

theorem close_eq_invalid_iff {found : Reading (List Reply) × Reader} {fault : ProtocolFault} :
    (close found).1 = .invalid fault ↔ found.1 = .invalid fault := by
  obtain ⟨_ | ⟨items, rest⟩ | fault', r⟩ := found <;> simp [close, Reading.bind]

/-- Elements are refused where one of them is. -/
theorem elements_eq_invalid_iff {found : List Reply} {fault : ProtocolFault} :
    (elements read found n r input).1 = .invalid fault ↔
      ∃ before behind, r.Yields input before behind ∧ before.length < n ∧
        (r.read behind).1 = .invalid fault := by
  induction n generalizing found input with
  | zero => simp [elements]
  | succ n ih =>
      have hr := r.read_snd input
      rw [elements]
      rcases hread : r.read input with ⟨_ | ⟨reply, behind⟩ | fault', r'⟩
      · have hfirst : (r.read input).1 = .needMore := congrArg Prod.fst hread
        constructor
        · intro h
          cases h
        · rintro ⟨before, rest, hbefore, -, hinvalid⟩
          cases hbefore with
          | nil => cases hfirst.symm.trans hinvalid
          | cons hread' _ => cases hfirst.symm.trans hread'
      · have hfirst : (r.read input).1 = .complete reply behind := congrArg Prod.fst hread
        rw [hread] at hr
        obtain rfl : r' = r := hr
        refine ih.trans ⟨?_, ?_⟩
        · rintro ⟨before, rest, hbefore, hlength, hinvalid⟩
          exact ⟨reply :: before, rest, .cons hfirst hbefore, Nat.succ_lt_succ hlength, hinvalid⟩
        · rintro ⟨before, rest, hbefore, hlength, hinvalid⟩
          cases hbefore with
          | nil => cases hfirst.symm.trans hinvalid
          | cons hread' later =>
              cases hfirst.symm.trans hread'
              exact ⟨_, rest, later, Nat.lt_of_succ_lt_succ hlength, hinvalid⟩
      · have hfirst : (r.read input).1 = .invalid fault' := congrArg Prod.fst hread
        change Reading.invalid fault' = .invalid fault ↔ _
        constructor
        · intro h
          cases h
          exact ⟨[], input, .nil input, Nat.succ_pos n, hfirst⟩
        · rintro ⟨before, rest, hbefore, -, hinvalid⟩
          cases hbefore with
          | nil =>
              cases hfirst.symm.trans hinvalid
              rfl
          | cons hread' _ => cases hfirst.symm.trans hread'

/-- Reading fails because of the nesting exactly where the reader comes to an array inside as many
arrays as it may stand in. -/
theorem read_eq_tooDeep_iff (r : Reader) (input : Bytes) :
    (r.read input).1 = .invalid .tooDeep ↔
      ∃ r' rest, r.Meets input (maxDepth - r.depth) r' (42 :: rest) := by
  induction hk : maxDepth - r.depth generalizing r input with
  | zero =>
      have hdeep : maxDepth ≤ r.depth := Nat.le_of_sub_eq_zero hk
      have hnone : ∀ n body, ¬ r.Enters input n body := fun n body h =>
        Nat.not_lt_of_le hdeep h.depth_lt
      obtain ⟨reading, hiff, hreading⟩ := readBy_of_not_enters hnone
      rw [read_eq_readBy, hreading, hiff]
      constructor
      · rintro ⟨-, rest, rfl⟩
        exact ⟨r, rest, .front r _⟩
      · rintro ⟨r', rest, hmeets⟩
        cases hmeets
        exact ⟨hdeep, rest, rfl⟩
  | succ k ih =>
      have hshallow : ¬ maxDepth ≤ r.depth := by omega
      have hinner : maxDepth - r.enter.depth = k := by
        rw [enter_depth]
        omega
      rw [read_eq_readBy]
      by_cases henters : ∃ n body, r.Enters input n body
      · obtain ⟨n, body, henters⟩ := henters
        rw [henters.readBy_eq, close_eq_invalid_iff, elements_eq_invalid_iff]
        constructor
        · rintro ⟨before, behind, hbefore, hcount, hinvalid⟩
          obtain ⟨r', rest, hmeets⟩ := (ih r.enter behind hinner).mp hinvalid
          exact ⟨r', rest, .element henters hbefore hcount hmeets⟩
        · rintro ⟨r', rest, hmeets⟩
          cases hmeets with
          | element henters' hbefore hcount hmeets =>
              obtain ⟨rfl, rfl⟩ := henters.unique henters'
              exact ⟨_, _, hbefore, hcount, (ih r.enter _ hinner).mpr ⟨r', rest, hmeets⟩⟩
      · obtain ⟨reading, hiff, hreading⟩ :=
          readBy_of_not_enters fun n body h => henters ⟨n, body, h⟩
        rw [hreading]
        refine iff_of_false (fun h => hshallow (hiff.mp h).1) ?_
        rintro ⟨r', rest, hmeets⟩
        cases hmeets with
        | element henters' _ _ _ => exact henters ⟨_, _, henters'⟩

/-! ### One reader for many byte strings -/

/-- Reads the reply at the front of each of some byte strings, one after the other, with one
reader. -/
def readEach (r : Reader) : List Bytes → List (Reading Reply)
  | [] => []
  | input :: inputs =>
      let (reading, r') := r.read input
      reading :: r'.readEach inputs

/-- A reader that has been used reads like a new one. -/
theorem readEach_eq_map (r : Reader) (inputs : List Bytes) :
    r.readEach inputs = inputs.map fun input => (r.read input).1 := by
  induction inputs with
  | nil => rfl
  | cons input inputs ih =>
      change (r.read input).1 :: (r.read input).2.readEach inputs = _
      rw [read_snd, ih, List.map_cons]

/-- **The arrays that a reader stands in.** Whatever reading comes to, a reader stands in as many
arrays afterwards as before.  On the way it stands in one more for each array that it has entered,
and never in more than 128; to read on from a place it reads at places inside of one more array, and
at no others.  Reading fails because of the nesting if and only if the reader comes to an array
inside as many arrays as make 128 with those that it stands in.  So a reader that is used for any
byte strings one after the other reads each like a new one. -/
theorem nesting_restored (r : Reader) (hr : r.depth ≤ 128) :
    (∀ input, (r.read input).2 = r) ∧
    (∀ input k r' rest, r.Meets input k r' rest → r'.depth = r.depth + k ∧ r'.depth ≤ 128 ∧
      (∀ n body, r'.Enters rest n body → r'.enter.depth ≤ 128) ∧
      ∀ one, (∀ r'' rest', r.Meets input (k + 1) r'' rest' → one r'' rest' = r''.read rest') →
        readBy one r' rest = r'.read rest) ∧
    (∀ input, (r.read input).1 = .invalid .tooDeep ↔
      ∃ r' rest, r.Meets input (128 - r.depth) r' (42 :: rest)) ∧
    ∀ inputs, r.readEach inputs = inputs.map fun input => (r.read input).1 := by
  refine ⟨r.read_snd, fun input k r' rest hmeets => ⟨hmeets.depth_eq, hmeets.depth_le hr, ?_, ?_⟩,
    r.read_eq_tooDeep_iff, r.readEach_eq_map⟩
  · exact fun n body henters => henters.depth_lt
  · exact fun one hone => readBy_congr fun r'' rest' h => hone r'' rest' (hmeets.trans h)

/-- A reader in all arrays but one that it may stand in, in front of an array in an array, and of
one array afterwards. -/
theorem nesting_restored_innermost :
    let r : Reader := ⟨127⟩
    let nested := Bytes.ofString "*1\r\n*1\r\n:1\r\n"
    let alone := Bytes.ofString "*1\r\n:1\r\n"
    r.depth ≤ 128 ∧ (r.read nested).2 = r ∧
      (∃ r' rest, r.Meets nested 1 r' (42 :: rest) ∧ r'.depth = 128) ∧
      r.readEach [nested, alone] =
        [.invalid .tooDeep, .complete (.array [.integer 1]) []] := by
  have hr : (⟨127⟩ : Reader).depth ≤ 128 := by decide
  have hnested : ((⟨127⟩ : Reader).read (Bytes.ofString "*1\r\n*1\r\n:1\r\n")).1 =
      .invalid .tooDeep := by decide +kernel
  have halone : ((⟨127⟩ : Reader).read (Bytes.ofString "*1\r\n:1\r\n")).1 =
      .complete (.array [.integer 1]) [] := by decide +kernel
  obtain ⟨hsnd, hmeets, hdeep, heach⟩ := nesting_restored ⟨127⟩ hr
  obtain ⟨r', rest, hmeet⟩ := (hdeep _).mp hnested
  refine ⟨hr, hsnd _, ⟨r', rest, hmeet, (hmeets _ _ _ _ hmeet).1⟩, ?_⟩
  rw [heach, List.map_cons, List.map_cons, List.map_nil, hnested, halone]

end RateLimit.Reader
