import RateLimit.Proofs.Script.Text

/-!
# The parameters of the script

The script is its template with the four places filled: every other character stays as it is, and
no place is left over.  Each parameter that the server looks for stands behind its name in one line
and in no other, so the text of a script tells the number of tokens, the interval and the time to
live that it was made for.

## Main results

* `Script.exists_flatMap_bodyLines_eq` : the text of the script around its four parameters.
* `Script.not_opensPlace_textOf` : no place is left over.
* `Script.body_carries_limits` : the text of the script carries the limits, and nothing else.
-/

namespace RateLimit.Script

/-! ### Two braces in a row -/

/-- A place is opened where two opening braces stand next to each other. -/
theorem opensPlace_iff {text : List Char} : opensPlace text = true ↔ ['{', '{'] <:+: text := by
  induction text with
  | nil => simp [opensPlace]
  | cons c text ih =>
      rw [opensPlace, Bool.or_eq_true, ih, isPrefixOf_iff, List.infix_cons_iff]

theorem not_opensPlace_of_no_brace {text : List Char} (h : '{' ∉ text) :
    opensPlace text = false :=
  Bool.eq_false_iff.mpr fun hopens => h ((opensPlace_iff.mp hopens).subset List.mem_cons_self)

/-- No place reaches over the end of a line. -/
theorem opensPlace_append_newline (line rest : List Char) :
    opensPlace (line ++ '\n' :: rest) = (opensPlace line || opensPlace rest) := by
  have hnewline : '\n' ∉ ['{', '{'] := by decide
  induction line with
  | nil => rfl
  | cons c line ih =>
      have hmatch := isPrefixOf_append_newline hnewline (c :: line) rest
      rw [List.cons_append] at hmatch
      rw [List.cons_append, opensPlace, hmatch, ih, opensPlace, Bool.or_assoc]

/-- Lines that open no place make a text that opens none. -/
theorem not_opensPlace_flatMap {ls : List (List Char)}
    (h : ∀ line ∈ ls, opensPlace line = false) :
    opensPlace (ls.flatMap fun line => line ++ ['\n']) = false := by
  induction ls with
  | nil => rfl
  | cons line ls ih =>
      rw [List.flatMap_cons, List.append_assoc, List.singleton_append, opensPlace_append_newline,
        h line List.mem_cons_self, ih fun l hl => h l (List.mem_cons_of_mem _ hl)]
      rfl

/-! ### The text around the parameters -/

variable {tokens interval rate ttl : List Char}

/-- The text of the script is the same around the parameters, whatever stands in their places. -/
theorem exists_flatMap_bodyLines_eq :
    ∃ before afterTokens afterInterval afterRate afterTtl : List Char,
      ∀ tokens interval rate ttl : List Char,
        (bodyLines tokens interval rate ttl).flatMap (fun line => line ++ ['\n']) =
          before ++ tokens ++ afterTokens ++ interval ++ afterInterval ++ rate ++ afterRate ++
            ttl ++ afterTtl := by
  refine ⟨((templateLines.take 5).map String.toList).flatMap (fun line => line ++ ['\n']) ++
      ("local " ++ "tokens" ++ " = ").toList,
    '\n' :: ("local " ++ "interval" ++ " = ").toList,
    '\n' :: ("local " ++ "rate" ++ " = ").toList,
    '\n' :: ("local " ++ "ttl" ++ " = ").toList,
    '\n' :: ((templateLines.drop 9).map String.toList).flatMap (fun line => line ++ ['\n']), ?_⟩
  intro tokens interval rate ttl
  simp only [bodyLines, parameterLine, List.flatMap_append, List.flatMap_cons,
    List.append_assoc, List.cons_append, List.nil_append]

theorem not_opensPlace_bodyLines (htokens : '{' ∉ tokens) (hinterval : '{' ∉ interval)
    (hrate : '{' ∉ rate) (httl : '{' ∉ ttl) :
    ∀ line ∈ bodyLines tokens interval rate ttl, opensPlace line = false :=
  forall_mem_bodyLines (fun line hline => (fixedLines_fixed hline).1)
    (not_opensPlace_of_no_brace (not_mem_parameterLine (by simp) htokens))
    (not_opensPlace_of_no_brace (not_mem_parameterLine (by simp) hinterval))
    (not_opensPlace_of_no_brace (not_mem_parameterLine (by simp) hrate))
    (not_opensPlace_of_no_brace (not_mem_parameterLine (by simp) httl))

/-! ### The text for limits -/

/-- No place is left over. -/
theorem not_opensPlace_textOf (limits : Limits) : opensPlace (textOf limits).toList = false := by
  obtain ⟨htokens, hinterval, hrate, httl⟩ := not_mem_decimals limits (d := '{') (by decide)
  rw [toList_textOf]
  exact not_opensPlace_flatMap (not_opensPlace_bodyLines htokens hinterval hrate httl)

/-- **The text of the script carries the limits.** The text for limits is the template with the
decimals of the tokens, of the interval in nanoseconds, of the rate and of the time to live in the
four places, and every other character of the template.  No place is left over.  One line begins
with the name of the tokens, one with that of the interval and one with that of the time to live,
and the rest of the line spells the number.  So limits that differ in one of the three have
different texts. -/
theorem body_carries_limits :
    (∃ before afterTokens afterInterval afterRate afterTtl : List Char,
      template = before ++ place "TOKENS" ++ afterTokens ++ place "INTERVAL" ++ afterInterval ++
        place "RATE" ++ afterRate ++ place "TTL" ++ afterTtl ∧
      ∀ limits : Limits, (ofLimits limits).body.toList =
        before ++ (toString limits.tokens).toList ++ afterTokens ++
          (toString limits.interval.toNanos).toList ++ afterInterval ++
          (Decimal.ofFloat limits.rate).toList ++ afterRate ++ (toString limits.ttl).toList ++
          afterTtl) ∧
    (∀ limits : Limits, ¬ ['{', '{'] <:+: (ofLimits limits).body.toList) ∧
    (∀ limits : Limits,
      let numbers name :=
        (valuesOf name (lines (ofLimits limits).body.toList)).map Decimal.natural?
      numbers "tokens" = [some limits.tokens] ∧
        numbers "interval" = [some limits.interval.toNanos] ∧
        numbers "ttl" = [some limits.ttl]) ∧
    ∀ limits limits' : Limits,
      limits.tokens ≠ limits'.tokens ∨ limits.interval ≠ limits'.interval ∨
        limits.ttl ≠ limits'.ttl →
      (ofLimits limits).body ≠ (ofLimits limits').body := by
  refine ⟨?_, fun limits hopens => ?_, fun limits => ?_, fun limits limits' hdiffer heq => ?_⟩
  · obtain ⟨before, afterTokens, afterInterval, afterRate, afterTtl, htext⟩ :=
      exists_flatMap_bodyLines_eq
    refine ⟨before, afterTokens, afterInterval, afterRate, afterTtl, ?_, fun limits => ?_⟩
    · exact template_eq_flatMap.trans (htext _ _ _ _)
    · exact (toList_textOf limits).trans (htext _ _ _ _)
  · exact Bool.eq_false_iff.mp (not_opensPlace_textOf limits) (opensPlace_iff.mpr hopens)
  · obtain ⟨htokens, hinterval, httl⟩ := valuesOf_linesOf limits
    simp only [ofLimits, lines_textOf, htokens, hinterval, httl, List.map_cons, List.map_nil,
      Decimal.natural?_toString, and_self]
  · have hlimits : some limits = some limits' := by
      rw [← limits?_textOf, ← limits?_textOf]
      exact congrArg limits? heq
    cases hlimits
    rcases hdiffer with h | h | h <;> exact h rfl

/-- Four tokens every two seconds, kept for twenty seconds and for twenty-one. -/
theorem body_carries_limits_expiry :
    let limits : Limits := ⟨4, .ofSecs 2, 20, by decide, by decide, by decide⟩
    let longer : Limits := ⟨4, .ofSecs 2, 21, by decide, by decide, by decide⟩
    limits.ttl ≠ longer.ttl ∧ (ofLimits limits).body ≠ (ofLimits longer).body := by
  have hdiffer : (20 : Nat) ≠ 21 := by decide
  exact ⟨hdiffer, body_carries_limits.2.2.2 _ _ (.inr (.inr hdiffer))⟩

end RateLimit.Script
