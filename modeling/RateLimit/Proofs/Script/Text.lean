import RateLimit.Network.BucketServer
import RateLimit.Proofs.Decimal.Spelling

/-!
# The text of the script

The parameters are written into the script by four replacements, one after the other, over the
whole text.  They do not get into each other's way: no placeholder reaches over the end of a line,
a line without two opening braces in a row is left alone, and so are the decimals that have been
written before.  So the text is known line by line, and a server that looks for the parameters
finds the limits that the script was made for.

## Main results

* `Script.substituteAfter_lines` : a replacement works line by line.
* `Script.bodyWith_eq_lines` : the lines of the script.
* `Script.valuesOf_bodyLines` : the values of the parameters in the lines of the script.
* `Script.limits?_textOf` : the limits can be read off the text of their script.
-/

namespace RateLimit

/-! ### Decimals -/

namespace Decimal

/-- A character that may stand in the decimal of a number, or in the name of one that has no
decimal. -/
def isNumeral (c : Char) : Bool :=
  c.isDigit || c ∈ ['.', '-', 'N', 'a', 'i', 'n', 'f']

theorem isNumeral_of_isDigit {c : Char} (h : c.isDigit = true) : isNumeral c = true :=
  Bool.or_eq_true_iff.mpr (.inl h)

theorem ne_of_isNumeral {c d : Char} (h : isNumeral c = true) (hd : isNumeral d = false) :
    c ≠ d := by
  rintro rfl
  rw [h] at hd
  cases hd

theorem isNumeral_toString (n : Nat) : ∀ c ∈ (toString n).toList, isNumeral c = true := by
  intro c hc
  rw [Nat.toString_eq_repr, Nat.toList_repr] at hc
  exact isNumeral_of_isDigit (isDigit_of_mem_toDigits hc)

theorem Grid.isNumeral_text (g : Grid) : ∀ c ∈ g.text.toList, isNumeral c = true := by
  have hzeros (n : Nat) : ∀ c ∈ List.replicate n '0', isNumeral c = true := by
    intro c hc
    rw [List.eq_of_mem_replicate hc]
    decide
  have hdigits : ∀ c ∈ Nat.toDigits 10 g.digits, isNumeral c = true := fun c hc =>
    isNumeral_of_isDigit (isDigit_of_mem_toDigits hc)
  have hpadded (n : Nat) :
      ∀ c ∈ List.replicate n '0' ++ Nat.toDigits 10 g.digits, isNumeral c = true := fun c hc =>
    (List.mem_append.mp hc).elim (hzeros n c) (hdigits c)
  intro c hc
  unfold Grid.text at hc
  split at hc
  · rw [String.toList_ofList] at hc
    exact (List.mem_append.mp hc).elim (hdigits c) (hzeros _ c)
  · rw [String.toList_ofList] at hc
    rcases List.mem_append.mp hc with hc | hc
    · exact hpadded _ c (List.mem_of_mem_take hc)
    rcases List.mem_cons.mp hc with rfl | hc
    · decide
    · exact hpadded _ c (List.mem_of_mem_drop hc)

/-- The text of a double is made of the characters of numerals. -/
theorem isNumeral_ofFloat (x : Float) : ∀ c ∈ (ofFloat x).toList, isNumeral c = true := by
  have hsigned (negative : Prop) [Decidable negative] (text : String)
      (htext : ∀ c ∈ text.toList, isNumeral c = true) :
      ∀ c ∈ ((if negative then "-" else "") ++ text).toList, isNumeral c = true := by
    intro c hc
    rw [String.toList_append] at hc
    rcases List.mem_append.mp hc with hc | hc
    · split at hc
      · obtain rfl : c = '-' := by simpa using hc
        decide
      · simp at hc
    · exact htext c hc
  unfold ofFloat
  dsimp only
  split
  · simp [isNumeral]
  split
  · exact hsigned _ _ (by simp [isNumeral])
  split
  · exact hsigned _ _ (by simp [isNumeral])
  · exact hsigned _ _ (Grid.isNumeral_text _)

end Decimal

namespace Script

/-! ### Lines -/

theorem lines_append {line : List Char} (h : '\n' ∉ line) (rest : List Char) :
    lines (line ++ '\n' :: rest) = line :: lines rest := by
  induction line with
  | nil => rfl
  | cons c line ih =>
      have hc : c ≠ '\n' := fun heq => h (heq ▸ List.mem_cons_self)
      rw [List.cons_append, lines, if_neg hc, ih fun hin => h (List.mem_cons_of_mem _ hin)]

/-- A text that is made of lines has these lines, and nothing behind the last one. -/
theorem lines_flatMap {ls : List (List Char)} (h : ∀ line ∈ ls, '\n' ∉ line) :
    lines (ls.flatMap fun line => line ++ ['\n']) = ls ++ [[]] := by
  induction ls with
  | nil => rfl
  | cons line ls ih =>
      rw [List.flatMap_cons, List.append_assoc, List.singleton_append,
        lines_append (h line List.mem_cons_self), ih fun l hl => h l (List.mem_cons_of_mem _ hl)]
      rfl

/-! ### Replacements -/

section Substitute

variable {pattern value : List Char}

theorem isPrefixOf_iff {text : List Char} : pattern.isPrefixOf text = true ↔ pattern <+: text :=
  List.isPrefixOf_iff_prefix

theorem isPrefixOf_append_newline (h : '\n' ∉ pattern) (line rest : List Char) :
    pattern.isPrefixOf (line ++ '\n' :: rest) = pattern.isPrefixOf line := by
  induction pattern generalizing line with
  | nil => rfl
  | cons p pattern ih =>
      have hp : (p == '\n') = false := beq_false_of_ne fun heq => h (heq ▸ List.mem_cons_self)
      cases line with
      | nil => simp [List.isPrefixOf, hp]
      | cons c line =>
          rw [List.cons_append, List.isPrefixOf, List.isPrefixOf,
            ih fun hin => h (List.mem_cons_of_mem _ hin)]

theorem length_le_of_isPrefixOf {text : List Char} (h : pattern.isPrefixOf text = true) :
    pattern.length ≤ text.length :=
  (isPrefixOf_iff.mp h).length_le

theorem substituteAfter_zero_cons (c : Char) (cs : List Char) :
    substituteAfter pattern value 0 (c :: cs) =
      if pattern.isPrefixOf (c :: cs) then
        value ++ substituteAfter pattern value (pattern.length - 1) cs
      else c :: substituteAfter pattern value 0 cs := rfl

/-- A replacement does not reach over the end of a line. -/
theorem substituteAfter_append_newline (hne : pattern ≠ []) (h : '\n' ∉ pattern) {skip : Nat}
    {line : List Char} (hskip : skip ≤ line.length) (rest : List Char) :
    substituteAfter pattern value skip (line ++ '\n' :: rest) =
      substituteAfter pattern value skip line ++ '\n' :: substituteAfter pattern value 0 rest := by
  induction line generalizing skip with
  | nil =>
      obtain rfl : skip = 0 := Nat.le_zero.mp hskip
      have hnot : pattern.isPrefixOf ('\n' :: rest) = false := by
        rw [← List.nil_append ('\n' :: rest), isPrefixOf_append_newline h]
        exact Bool.eq_false_iff.mpr fun heq =>
          hne (List.length_eq_zero_iff.mp (Nat.le_zero.mp (length_le_of_isPrefixOf heq)))
      rw [List.nil_append, substituteAfter_zero_cons, if_neg (Bool.eq_false_iff.mp hnot)]
      rfl
  | cons c line ih =>
      cases skip with
      | succ skip => exact ih (Nat.le_of_succ_le_succ hskip)
      | zero =>
          have hmatch := isPrefixOf_append_newline h (c :: line) rest
          rw [List.cons_append] at hmatch
          rw [List.cons_append, substituteAfter_zero_cons, substituteAfter_zero_cons, hmatch]
          split
          · rename_i hmatches
            have hlength := length_le_of_isPrefixOf hmatches
            rw [List.length_cons] at hlength
            rw [ih (by omega), List.append_assoc]
          · rw [ih (Nat.zero_le _), List.cons_append]

/-- A replacement works line by line. -/
theorem substituteAfter_lines (hne : pattern ≠ []) (h : '\n' ∉ pattern)
    (ls : List (List Char)) :
    substituteAfter pattern value 0 (ls.flatMap fun line => line ++ ['\n']) =
      (ls.map (substituteAfter pattern value 0)).flatMap fun line => line ++ ['\n'] := by
  induction ls with
  | nil => rfl
  | cons line ls ih =>
      rw [List.flatMap_cons, List.append_assoc, List.singleton_append,
        substituteAfter_append_newline hne h (Nat.zero_le _), ih, List.map_cons, List.flatMap_cons,
        List.append_assoc]
      rfl

end Substitute

/-! ### Places -/

/-- Whether two opening braces stand next to each other in a text. -/
def opensPlace : List Char → Bool
  | [] => false
  | c :: cs => ['{', '{'].isPrefixOf (c :: cs) || opensPlace cs

/-- The place of a parameter. -/
def place (name : String) : List Char :=
  '{' :: '{' :: name.toList ++ ['}', '}']

/-- A text with the place of a parameter filled. -/
def fill (name : String) (value text : List Char) : List Char :=
  substituteAfter (place name) value 0 text

section Fill

variable (name : String) (value : List Char)

/-- A text without two opening braces in a row is left alone. -/
theorem fill_of_not_opensPlace {text : List Char} (h : opensPlace text = false) :
    fill name value text = text := by
  induction text with
  | nil => rfl
  | cons c cs ih =>
      obtain ⟨hnot, hcs⟩ := Bool.or_eq_false_iff.mp h
      rw [fill, substituteAfter_zero_cons, if_neg, ← fill, ih hcs]
      intro hmatches
      have hbraces : ['{', '{'] <+: c :: cs :=
        (List.prefix_append ['{', '{'] (name.toList ++ ['}', '}'])).trans
          (isPrefixOf_iff.mp hmatches)
      rw [isPrefixOf_iff.mpr hbraces] at hnot
      cases hnot

/-- Characters that are no braces are left alone. -/
theorem fill_append {before : List Char} (h : '{' ∉ before) (text : List Char) :
    fill name value (before ++ text) = before ++ fill name value text := by
  induction before with
  | nil => rfl
  | cons c before ih =>
      have hc : ('{' == c) = false := beq_false_of_ne fun heq => h (heq ▸ List.mem_cons_self)
      have hnot : (place name).isPrefixOf (c :: (before ++ text)) = false := by
        rw [place, List.cons_append, List.isPrefixOf, hc, Bool.false_and]
      rw [List.cons_append, fill, substituteAfter_zero_cons, if_neg (Bool.eq_false_iff.mp hnot),
        ← fill, ih fun hin => h (List.mem_cons_of_mem _ hin)]
      rfl

theorem fill_of_no_brace {text : List Char} (h : '{' ∉ text) : fill name value text = text := by
  have hnil : fill name value [] = [] := rfl
  have hleft := fill_append name value h []
  rwa [hnil, List.append_nil] at hleft

theorem substituteAfter_skip (pattern skipped rest : List Char) :
    substituteAfter pattern value skipped.length (skipped ++ rest) =
      substituteAfter pattern value 0 rest := by
  induction skipped with
  | nil => rfl
  | cons c skipped ih => exact ih

/-- The place of the parameter is filled. -/
theorem fill_place_self : fill name value (place name) = value := by
  let behind : List Char := '{' :: (name.toList ++ ['}', '}'])
  have hself : (place name).isPrefixOf ('{' :: behind) = true :=
    isPrefixOf_iff.mpr (List.prefix_refl (place name))
  have hskip := substituteAfter_skip value (place name) behind []
  have hlength : (place name).length - 1 = behind.length := rfl
  rw [List.append_nil] at hskip
  change substituteAfter (place name) value 0 ('{' :: behind) = _
  rw [substituteAfter_zero_cons, if_pos hself, hlength, hskip, substituteAfter, List.append_nil]

/-- The place of another parameter is left alone. -/
theorem fill_place_of_ne {name other : String}
    (h : ¬ name.toList ++ ['}', '}'] <+: other.toList ++ ['}', '}'])
    (hother : '{' ∉ other.toList) (value : List Char) :
    fill name value (place other) = place other := by
  have hbrace : '{' ∉ other.toList ++ ['}', '}'] := by simpa using hother
  have houter : ¬ (place name).isPrefixOf ('{' :: '{' :: (other.toList ++ ['}', '}'])) = true := by
    rw [isPrefixOf_iff, place, List.cons_append, List.cons_append,
      List.cons_prefix_cons, List.cons_prefix_cons]
    exact fun heq => h heq.2.2
  have hinner : ¬ (place name).isPrefixOf ('{' :: (other.toList ++ ['}', '}'])) = true := by
    rw [isPrefixOf_iff, place, List.cons_append, List.cons_append,
      List.cons_prefix_cons]
    exact fun heq => hbrace (heq.2.subset List.mem_cons_self)
  change substituteAfter (place name) value 0 ('{' :: '{' :: (other.toList ++ ['}', '}'])) = _
  rw [substituteAfter_zero_cons, if_neg houter, substituteAfter_zero_cons, if_neg hinner, ← fill,
    fill_of_no_brace name value hbrace]
  rfl

end Fill

/-! ### The lines of the script -/

/-- The line that gives a parameter its value. -/
def parameterLine (name : String) (value : List Char) : List Char :=
  ("local " ++ name ++ " = ").toList ++ value

theorem not_mem_parameterLine {c : Char} {name : String} {value : List Char}
    (hname : c ∉ ("local " ++ name ++ " = ").toList) (hvalue : c ∉ value) :
    c ∉ parameterLine name value := fun hin =>
  (List.mem_append.mp hin).elim hname hvalue

/-- The lines that have no place for a parameter. -/
def fixedLines : List String :=
  templateLines.take 5 ++ templateLines.drop 9

theorem fixedLines_all : (fixedLines.all fun line =>
    !opensPlace line.toList && !line.toList.contains '\n') = true := by
  simp only [fixedLines, templateLines, List.take_succ_cons, List.take_zero, List.drop_succ_cons,
    List.drop_zero, List.cons_append, List.nil_append, List.all_cons, List.all_nil]
  -- A literal is the text of its characters; to evaluate it would be to decode its bytes.
  repeat rw [String.toList_ofList]
  decide +kernel

theorem fixedLines_fixed {line : String} (h : line ∈ fixedLines) :
    opensPlace line.toList = false ∧ '\n' ∉ line.toList := by
  have hline := List.all_eq_true.mp fixedLines_all line h
  rw [Bool.and_eq_true, Bool.not_eq_true', Bool.not_eq_true'] at hline
  exact ⟨hline.1, fun hin => by simp [hin] at hline⟩

/-- The lines of the script, given the decimals of its parameters. -/
def bodyLines (tokens interval rate ttl : List Char) : List (List Char) :=
  (templateLines.take 5).map String.toList ++
    [parameterLine "tokens" tokens, parameterLine "interval" interval, parameterLine "rate" rate,
      parameterLine "ttl" ttl] ++
    (templateLines.drop 9).map String.toList

variable {tokens interval rate ttl : List Char}

/-- What holds of the lines without a place, and of those of the parameters, holds of every line of
the script. -/
theorem forall_mem_bodyLines {P : List Char → Prop} (hfixed : ∀ line ∈ fixedLines, P line.toList)
    (htokens : P (parameterLine "tokens" tokens))
    (hinterval : P (parameterLine "interval" interval)) (hrate : P (parameterLine "rate" rate))
    (httl : P (parameterLine "ttl" ttl)) : ∀ line ∈ bodyLines tokens interval rate ttl, P line := by
  have hmap {lines : List String} (hlines : ∀ line ∈ lines, line ∈ fixedLines) :
      ∀ line ∈ lines.map String.toList, P line := by
    intro line hline
    obtain ⟨text, htext, rfl⟩ := List.mem_map.mp hline
    exact hfixed text (hlines text htext)
  intro line hline
  rcases List.mem_append.mp hline with hline | hline
  · rcases List.mem_append.mp hline with hline | hline
    · exact hmap (fun line => List.mem_append_left _) line hline
    · simp only [List.mem_cons, List.not_mem_nil, or_false] at hline
      rcases hline with rfl | rfl | rfl | rfl
      · exact htokens
      · exact hinterval
      · exact hrate
      · exact httl
  · exact hmap (fun line => List.mem_append_right _) line hline

theorem toList_templateLines : templateLines.map String.toList =
    bodyLines (place "TOKENS") (place "INTERVAL") (place "RATE") (place "TTL") := by
  have hsplit : templateLines = templateLines.take 5 ++
      ["local tokens = \x7b\x7bTOKENS\x7d\x7d", "local interval = \x7b\x7bINTERVAL\x7d\x7d",
        "local rate = \x7b\x7bRATE\x7d\x7d", "local ttl = \x7b\x7bTTL\x7d\x7d"] ++
      templateLines.drop 9 := rfl
  have hmap := congrArg (List.map String.toList) hsplit
  rw [hmap, List.map_append, List.map_append, bodyLines]
  congr 2

theorem template_eq_flatMap : template =
    (bodyLines (place "TOKENS") (place "INTERVAL") (place "RATE") (place "TTL")).flatMap
      fun line => line ++ ['\n'] := by
  rw [← toList_templateLines, template, List.flatMap_map]

theorem map_fill_bodyLines (name : String) (value : List Char) :
    (bodyLines tokens interval rate ttl).map (fill name value) =
      bodyLines (fill name value tokens) (fill name value interval) (fill name value rate)
        (fill name value ttl) := by
  have hfixed : ∀ lines : List String, (∀ line ∈ lines, line ∈ fixedLines) →
      (lines.map String.toList).map (fill name value) = lines.map String.toList := by
    intro lines hlines
    rw [List.map_map]
    refine List.map_congr_left fun line hline => ?_
    exact fill_of_not_opensPlace name value (fixedLines_fixed (hlines line hline)).1
  have hparameter (parameter : String) (text : List Char)
      (h : '{' ∉ ("local " ++ parameter ++ " = ").toList) :
      fill name value (parameterLine parameter text) =
        parameterLine parameter (fill name value text) := fill_append name value h text
  rw [bodyLines, List.map_append, List.map_append, hfixed _ fun line => List.mem_append_left _,
    hfixed _ fun line => List.mem_append_right _, List.map_cons, List.map_cons, List.map_cons,
    List.map_cons, List.map_nil, hparameter "tokens" _ (by simp), hparameter "interval" _ (by simp),
    hparameter "rate" _ (by simp), hparameter "ttl" _ (by simp), bodyLines]

/-- A place is filled line by line. -/
theorem fill_bodyLines {name : String} (hname : '\n' ∉ name.toList) (value : List Char) :
    fill name value ((bodyLines tokens interval rate ttl).flatMap fun line => line ++ ['\n']) =
      (bodyLines (fill name value tokens) (fill name value interval) (fill name value rate)
        (fill name value ttl)).flatMap fun line => line ++ ['\n'] := by
  have hne : place name ≠ [] := List.cons_ne_nil _ _
  have hnewline : '\n' ∉ place name := by simp [place, hname]
  rw [← map_fill_bodyLines]
  exact substituteAfter_lines hne hnewline _

/-- **The lines of the script.** Every parameter stands in its line, and nothing else is changed. -/
theorem bodyWith_eq_lines {tokens interval rate ttl : String} (htokens : '{' ∉ tokens.toList)
    (hinterval : '{' ∉ interval.toList) (hrate : '{' ∉ rate.toList) :
    bodyWith tokens interval rate ttl =
      (bodyLines tokens.toList interval.toList rate.toList ttl.toList).flatMap
        fun line => line ++ ['\n'] := by
  have hfills : bodyWith tokens interval rate ttl =
      fill "TTL" ttl.toList (fill "RATE" rate.toList (fill "INTERVAL" interval.toList
        (fill "TOKENS" tokens.toList template))) := by
    simp [bodyWith, substitute, fill, place]
  -- The place of one parameter is not taken for the place of a later one.
  have hinterval' (value : List Char) : fill "TOKENS" value (place "INTERVAL") = place "INTERVAL" :=
    fill_place_of_ne (by simp) (by simp) value
  have hrate' (value : List Char) : fill "TOKENS" value (place "RATE") = place "RATE" :=
    fill_place_of_ne (by simp) (by simp) value
  have hrate'' (value : List Char) : fill "INTERVAL" value (place "RATE") = place "RATE" :=
    fill_place_of_ne (by simp) (by simp) value
  have httl (value : List Char) : fill "TOKENS" value (place "TTL") = place "TTL" :=
    fill_place_of_ne (by simp) (by simp) value
  have httl' (value : List Char) : fill "INTERVAL" value (place "TTL") = place "TTL" :=
    fill_place_of_ne (by simp) (by simp) value
  have httl'' (value : List Char) : fill "RATE" value (place "TTL") = place "TTL" :=
    fill_place_of_ne (by simp) (by simp) value
  rw [hfills, template_eq_flatMap, fill_bodyLines (by simp), fill_bodyLines (by simp),
    fill_bodyLines (by simp), fill_bodyLines (by simp)]
  simp only [fill_place_self, fill_of_no_brace _ _ htokens, fill_of_no_brace _ _ hinterval,
    fill_of_no_brace _ _ hrate, hinterval', hrate', hrate'', httl, httl', httl'']

/-! ### Reading the parameters -/

theorem newline_not_mem_bodyLines (htokens : '\n' ∉ tokens) (hinterval : '\n' ∉ interval)
    (hrate : '\n' ∉ rate) (httl : '\n' ∉ ttl) :
    ∀ line ∈ bodyLines tokens interval rate ttl, '\n' ∉ line :=
  forall_mem_bodyLines (fun line hline => (fixedLines_fixed hline).2)
    (not_mem_parameterLine (by simp) htokens) (not_mem_parameterLine (by simp) hinterval)
    (not_mem_parameterLine (by simp) hrate) (not_mem_parameterLine (by simp) httl)

/-- What stands behind the name of a parameter, in the lines that begin with it. -/
def valuesOf (name : String) (lines : List (List Char)) : List (List Char) :=
  let start := ("local " ++ name ++ " = ").toList
  (lines.filter start.isPrefixOf).map (List.drop start.length)

section Values

variable {name : String} {line : List Char}

theorem valuesOf_append (name : String) (before after : List (List Char)) :
    valuesOf name (before ++ after) = valuesOf name before ++ valuesOf name after := by
  rw [valuesOf, List.filter_append, List.map_append]
  rfl

theorem valuesOf_cons_of_not_begins
    (h : ¬ ("local " ++ name ++ " = ").toList.isPrefixOf line = true)
    (lines : List (List Char)) : valuesOf name (line :: lines) = valuesOf name lines := by
  rw [valuesOf, List.filter_cons_of_neg h]
  rfl

theorem valuesOf_cons_parameterLine (name : String) (value : List Char)
    (lines : List (List Char)) :
    valuesOf name (parameterLine name value :: lines) = value :: valuesOf name lines := by
  rw [valuesOf, parameterLine,
    List.filter_cons_of_pos (isPrefixOf_iff.mpr (List.prefix_append _ _)), List.map_cons,
    List.drop_left]
  rfl

/-- The number of a parameter is the first of its values that is one. -/
theorem parameter?_eq_findSome?_valuesOf (name : String) (lines : List (List Char)) :
    parameter? name lines = (valuesOf name lines).findSome? Decimal.natural? := by
  induction lines with
  | nil => rfl
  | cons line lines ih =>
      rw [parameter?, List.findSome?_cons]
      by_cases h : ("local " ++ name ++ " = ").toList.isPrefixOf line = true
      · rw [valuesOf, List.filter_cons_of_pos h, List.map_cons, List.findSome?_cons, if_pos h]
        cases Decimal.natural? (line.drop ("local " ++ name ++ " = ").toList.length) with
        | none => exact ih
        | some n => rfl
      · rw [valuesOf_cons_of_not_begins h, if_neg h]
        exact ih

/-- The lines without a place give no value to a parameter. -/
theorem valuesOf_fixedLines (hname : name ∈ ["tokens", "interval", "ttl"])
    {lines : List String} (hlines : ∀ line ∈ lines, line ∈ fixedLines) :
    valuesOf name (lines.map String.toList) = [] := by
  have hall : (fixedLines.all fun line => ["tokens", "interval", "ttl"].all fun name =>
      !("local " ++ name ++ " = ").toList.isPrefixOf line.toList) = true := by
    simp only [fixedLines, templateLines, List.take_succ_cons, List.take_zero,
      List.drop_succ_cons, List.drop_zero, List.cons_append, List.nil_append, List.all_cons,
      List.all_nil, String.toList_append]
    repeat rw [String.toList_ofList]
    decide +kernel
  rw [valuesOf, List.map_eq_nil_iff, List.filter_eq_nil_iff]
  intro line hline
  obtain ⟨text, htext, rfl⟩ := List.mem_map.mp hline
  have hnot := List.all_eq_true.mp (List.all_eq_true.mp hall text (hlines text htext)) name hname
  rw [Bool.not_eq_true'] at hnot
  rw [hnot]
  exact Bool.false_ne_true

end Values

/-- Every parameter that the server looks for has one value in the lines of the script. -/
theorem valuesOf_bodyLines (tokens interval rate ttl : List Char) :
    valuesOf "tokens" (bodyLines tokens interval rate ttl ++ [[]]) = [tokens] ∧
      valuesOf "interval" (bodyLines tokens interval rate ttl ++ [[]]) = [interval] ∧
      valuesOf "ttl" (bodyLines tokens interval rate ttl ++ [[]]) = [ttl] := by
  have hparameters {name : String} (hname : name ∈ ["tokens", "interval", "ttl"]) :
      valuesOf name (bodyLines tokens interval rate ttl ++ [[]]) =
        valuesOf name [parameterLine "tokens" tokens, parameterLine "interval" interval,
          parameterLine "rate" rate, parameterLine "ttl" ttl] := by
    have hempty : valuesOf name [[]] = [] := by
      rw [valuesOf_cons_of_not_begins (by simp)]
      rfl
    rw [bodyLines, valuesOf_append, valuesOf_append, valuesOf_append,
      valuesOf_fixedLines hname fun line => List.mem_append_left _,
      valuesOf_fixedLines hname fun line => List.mem_append_right _, hempty, List.nil_append,
      List.append_nil, List.append_nil]
  have hnil (name : String) : valuesOf name [] = [] := rfl
  refine ⟨(hparameters (by simp)).trans ?_, (hparameters (by simp)).trans ?_,
    (hparameters (by simp)).trans ?_⟩
  · rw [valuesOf_cons_parameterLine, valuesOf_cons_of_not_begins (by simp [parameterLine]),
      valuesOf_cons_of_not_begins (by simp [parameterLine]),
      valuesOf_cons_of_not_begins (by simp [parameterLine]), hnil]
  · rw [valuesOf_cons_of_not_begins (by simp [parameterLine]), valuesOf_cons_parameterLine,
      valuesOf_cons_of_not_begins (by simp [parameterLine]),
      valuesOf_cons_of_not_begins (by simp [parameterLine]), hnil]
  · rw [valuesOf_cons_of_not_begins (by simp [parameterLine]),
      valuesOf_cons_of_not_begins (by simp [parameterLine]),
      valuesOf_cons_of_not_begins (by simp [parameterLine]), valuesOf_cons_parameterLine, hnil]

/-! ### The text for limits -/

section Limits

variable (limits : Limits)

/-- The lines of the script for limits. -/
def linesOf : List (List Char) :=
  bodyLines (toString limits.tokens).toList (toString limits.interval.toNanos).toList
    (Decimal.ofFloat limits.rate).toList (toString limits.ttl).toList

/-- A character that no numeral has stands in none of the decimals of the limits. -/
theorem not_mem_decimals {d : Char} (hd : Decimal.isNumeral d = false) :
    d ∉ (toString limits.tokens).toList ∧ d ∉ (toString limits.interval.toNanos).toList ∧
      d ∉ (Decimal.ofFloat limits.rate).toList ∧ d ∉ (toString limits.ttl).toList := by
  have hnumeral {text : String} (h : ∀ c ∈ text.toList, Decimal.isNumeral c = true) :
      d ∉ text.toList := fun hin => Decimal.ne_of_isNumeral (h d hin) hd rfl
  exact ⟨hnumeral (Decimal.isNumeral_toString _), hnumeral (Decimal.isNumeral_toString _),
    hnumeral (Decimal.isNumeral_ofFloat _), hnumeral (Decimal.isNumeral_toString _)⟩

theorem toList_textOf :
    (textOf limits).toList = (linesOf limits).flatMap fun line => line ++ ['\n'] := by
  obtain ⟨htokens, hinterval, hrate, -⟩ := not_mem_decimals limits (d := '{') (by decide)
  rw [textOf, String.toList_ofList, bodyWith_eq_lines htokens hinterval hrate, linesOf]

theorem lines_textOf : lines (textOf limits).toList = linesOf limits ++ [[]] := by
  obtain ⟨htokens, hinterval, hrate, httl⟩ := not_mem_decimals limits (d := '\n') (by decide)
  rw [toList_textOf]
  exact lines_flatMap (newline_not_mem_bodyLines htokens hinterval hrate httl)

theorem valuesOf_linesOf :
    valuesOf "tokens" (linesOf limits ++ [[]]) = [(toString limits.tokens).toList] ∧
      valuesOf "interval" (linesOf limits ++ [[]]) = [(toString limits.interval.toNanos).toList] ∧
      valuesOf "ttl" (linesOf limits ++ [[]]) = [(toString limits.ttl).toList] :=
  valuesOf_bodyLines _ _ _ _

/-- **The limits of a script.** The limits can be read off the text of their script. -/
theorem limits?_textOf : limits? (textOf limits) = some limits := by
  obtain ⟨htokens, hinterval, httl⟩ := valuesOf_linesOf limits
  simp only [limits?, lines_textOf, parameter?_eq_findSome?_valuesOf, htokens, hinterval, httl,
    List.findSome?_singleton, Decimal.natural?_toString, Option.bind_eq_bind, Option.bind_some,
    Duration.ofNanos_toNanos]
  rw [dif_pos ⟨limits.tokens_pos, limits.interval_pos, limits.ttl_pos⟩, if_pos trivial]

end Limits

end Script

end RateLimit
