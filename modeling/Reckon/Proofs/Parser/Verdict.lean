import Reckon.Proofs.Viability

/-!
Contract: the one error that a token list without a tree is answered with.

The parser's errors are justified. Here the converse: at most one error of a token
list is justified, and a token list with a justified error has no tree. What is
answered can thus be read off the tokens, without the parser.

Owns:
- the errors of a token list are its justified errors;
- the nesting limit is reported exactly where the peak of the tokens exceeds it;
- what more tokens, or more levels, leave of a justified error.
-/

set_option autoImplicit false

namespace Reckon

variable {tokens rest : List Token} {limit larger position : Nat} {fault : SyntaxFault}

theorem Viable.of_append {left right : List Token} (viable : Viable (left ++ right)) :
    Viable left := by
  obtain ⟨rest, expression⟩ := viable
  refine ⟨right ++ rest, ?_⟩
  rwa [← List.append_assoc]

theorem Viable.of_prefix {front : List Token} (viable : Viable tokens)
    (isPrefix : front <+: tokens) : Viable front := by
  obtain ⟨back, rfl⟩ := isPrefix
  exact viable.of_append

/-! ### One error at most -/

/-- Tokens are refused at one place only: no course leads beyond the first. -/
theorem Outlook.not_lt_of_refuses {one other : Outlook} {first second : Nat}
    (inRange : second ≤ tokens.length)
    (reached : start.over? (tokens.take first) = some one)
    (refuses : one.Refuses tokens[first]?)
    (alsoReached : start.over? (tokens.take second) = some other) : ¬ first < second := by
  intro before
  have viable : Viable (tokens.take second) := viable_iff.mpr ⟨other, alsoReached⟩
  have isPrefix : tokens.take (first + 1) <+: tokens.take second :=
    List.take_prefix_take_left before
  have notViable := not_viable_of_refuses reached (Nat.lt_of_lt_of_le before inRange) refuses
  exact notViable (viable.of_prefix isPrefix)

namespace Justified

theorem eq_limit {bound : Nat} (justified : Justified tokens limit (.nestedTooDeep bound)) :
    bound = limit := by
  cases justified
  rfl

theorem lt_peak {bound : Nat} (justified : Justified tokens limit (.nestedTooDeep bound)) :
    limit < Outlook.start.peak tokens := by
  cases justified with
  | nestedTooDeep reached found opens exceeds step =>
      exact Outlook.lt_peak_of_reach reached found opens exceeds step

theorem peak_le (justified : Justified tokens limit (.malformed position fault)) :
    Outlook.start.peak tokens ≤ limit := by
  cases justified with
  | malformed reached inRange refuses names within isFault =>
      rw [Outlook.peak_eq_peak_take reached refuses]
      exact within

theorem of_lt_peak (exceeds : limit < Outlook.start.peak tokens) :
    Justified tokens limit (.nestedTooDeep limit) := by
  obtain ⟨left, token, right, reached, next, rfl, course, step, beyond⟩ :=
    Outlook.exists_of_lt_peak exceeds
  obtain ⟨takes, exceedsHere⟩ := Outlook.lt_rise_iff.mp beyond
  have courseHere : Outlook.start.over? ((left ++ token :: right).take left.length) =
      some reached := by
    rw [List.take_left]
    exact course
  exact .nestedTooDeep courseHere (by simp) takes exceedsHere step

theorem malformed_unique {other : Nat} {otherFault : SyntaxFault} (notEmpty : tokens ≠ [])
    (one : Justified tokens limit (.malformed position fault))
    (two : Justified tokens limit (.malformed other otherFault)) :
    position = other ∧ fault = otherFault := by
  cases one with
  | malformed reached inRange refuses names within isFault =>
      cases two with
      | malformed otherReached otherInRange otherRefuses otherNames otherWithin isOtherFault =>
          have notBefore :=
            Outlook.not_lt_of_refuses otherInRange reached refuses otherReached
          have notBehind :=
            Outlook.not_lt_of_refuses inRange otherReached otherRefuses reached
          obtain rfl : position = other := by omega
          obtain rfl := Option.some.inj (reached.symm.trans otherReached)
          exact ⟨rfl, (isFault notEmpty).trans (isOtherFault notEmpty).symm⟩

/-- A nesting limit is reported or a fault is found, never both. -/
theorem unique {one other : ParseError} (notEmpty : tokens ≠ [])
    (oneJustified : Justified tokens limit one) (otherJustified : Justified tokens limit other) :
    one = other := by
  cases one with
  | invalidLexeme lexeme => cases oneJustified
  | malformed position fault =>
      cases other with
      | invalidLexeme lexeme => cases otherJustified
      | malformed otherPosition otherFault =>
          obtain ⟨rfl, rfl⟩ := malformed_unique notEmpty oneJustified otherJustified
          rfl
      | nestedTooDeep bound =>
          exact absurd otherJustified.lt_peak (Nat.not_lt.mpr oneJustified.peak_le)
  | nestedTooDeep bound =>
      cases other with
      | invalidLexeme lexeme => cases otherJustified
      | malformed otherPosition otherFault =>
          exact absurd oneJustified.lt_peak (Nat.not_lt.mpr otherJustified.peak_le)
      | nestedTooDeep otherBound => rw [oneJustified.eq_limit, otherJustified.eq_limit]

/-! ### More tokens and more levels -/

/-- A fault before the end of the tokens stays where it is, whatever follows. -/
theorem append (inRange : position < tokens.length)
    (justified : Justified tokens limit (.malformed position fault)) :
    Justified (tokens ++ rest) limit (.malformed position fault) := by
  have notEmpty : tokens ≠ [] := List.ne_nil_of_length_pos (Nat.zero_lt_of_lt inRange)
  have sameTake : (tokens ++ rest).take position = tokens.take position :=
    List.take_append_of_le_length (Nat.le_of_lt inRange)
  have sameFound : (tokens ++ rest)[position]? = tokens[position]? :=
    List.getElem?_append_left inRange
  cases justified with
  | malformed reached atMost refuses names within isFault =>
      rw [← sameTake] at reached within
      rw [← sameFound] at refuses names isFault
      refine .malformed reached ?_ refuses names within fun _ => isFault notEmpty
      rw [List.length_append]
      omega

/-- More levels take nothing from the justification of a fault. -/
theorem mono (more : limit ≤ larger)
    (justified : Justified tokens limit (.malformed position fault)) :
    Justified tokens larger (.malformed position fault) := by
  cases justified with
  | malformed reached inRange refuses names within isFault =>
      exact .malformed reached inRange refuses names (Nat.le_trans within more) isFault

end Justified

/-! ### The verdict on a token list -/

namespace Tree

variable {settings : Settings}

/-- A token list with a tree stays within the nesting limit all the way. -/
theorem peak_le_of_ofTokens {tree : Tree} (parsed : ofTokens settings tokens = .ok tree) :
    Outlook.start.peak tokens ≤ settings.nestingLimit := by
  obtain ⟨derived, rfl, withinLimit⟩ := derives_of_ofTokens parsed
  exact Nat.le_trans (Outlook.peak_start_yield_le derived) withinLimit

/-- A token list with a justified error has no tree. -/
theorem not_justified_of_ofTokens {tree : Tree} {error : ParseError}
    (parsed : ofTokens settings tokens = .ok tree) :
    ¬ Justified tokens settings.nestingLimit error := by
  obtain ⟨derived, yield_eq, -⟩ := derives_of_ofTokens parsed
  obtain ⟨final, course, complete⟩ := isExpression_iff.mp ⟨tree, derived, yield_eq⟩
  exact not_justified_of_complete course complete (peak_le_of_ofTokens parsed)

theorem ofTokens_eq_error_iff_justified (notEmpty : tokens ≠ []) {error : ParseError} :
    ofTokens settings tokens = .error error ↔
      Justified tokens settings.nestingLimit error := by
  constructor
  · exact justified_of_ofTokens
  · intro justified
    cases parsed : ofTokens settings tokens with
    | ok tree => exact absurd justified (not_justified_of_ofTokens parsed)
    | error found =>
        have foundJustified := justified_of_ofTokens parsed
        rw [foundJustified.unique notEmpty justified]

/-- The limit is reported exactly where the tokens nest deeper than it. -/
theorem ofTokens_eq_nestedTooDeep_iff {bound : Nat} :
    ofTokens settings tokens = .error (.nestedTooDeep bound) ↔
      bound = settings.nestingLimit ∧ settings.nestingLimit < Outlook.start.peak tokens := by
  constructor
  · intro failed
    have justified := justified_of_ofTokens failed
    exact ⟨justified.eq_limit, justified.lt_peak⟩
  · intro parts
    obtain ⟨rfl, exceeds⟩ := parts
    have notEmpty : tokens ≠ [] := by
      rintro rfl
      exact Nat.not_lt_zero _ exceeds
    exact (ofTokens_eq_error_iff_justified notEmpty).mpr (.of_lt_peak exceeds)

end Tree

end Reckon
