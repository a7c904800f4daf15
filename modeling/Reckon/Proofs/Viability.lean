import Reckon.Proofs.Parser.Language
import Reckon.Proofs.Parser.Refusal

/-!
Contract: the token lists that are expressions, and those that can become one.

The outlook decides both. A token list is an expression when its course ends with an
operator due and no group open: the parser, given a limit that the tokens stay within,
has no justified error left. A token list can become an expression when it has a course at
all, since every outlook can be completed.

Owns:
- the two decisions;
- a syntax error stands at the first token that nothing can follow up to.

Does not own: which nesting limits a token list exceeds.
-/

set_option autoImplicit false

namespace Reckon

variable {tokens : List Token}

/-! ### Expressions -/

/-- A refusal anywhere keeps the tokens from being an expression. -/
theorem Outlook.not_complete_of_refuses {outlook final : Outlook} {position : Nat}
    (reached : start.over? (tokens.take position) = some outlook)
    (refuses : outlook.Refuses tokens[position]?) (course : start.over? tokens = some final) :
    ¬ final.IsComplete := by
  have split : tokens.take position ++ tokens.drop position = tokens :=
    List.take_append_drop position tokens
  rw [← split, over?_append, reached, Option.bind_some] at course
  cases found : tokens[position]? with
  | none =>
      rw [List.drop_eq_nil_of_le (List.getElem?_eq_none_iff.mp found)] at course
      cases course
      rwa [found] at refuses
  | some token =>
      obtain ⟨inRange, rfl⟩ := List.getElem?_eq_some_iff.mp found
      rw [found] at refuses
      have noStep : outlook.next? tokens[position] = none := refuses
      rw [List.drop_eq_getElem_cons inRange, over?_cons, noStep] at course
      cases course

/-- An expression that stays within the limit has no justified error. -/
theorem not_justified_of_complete {final : Outlook} {limit : Nat} {error : ParseError}
    (course : Outlook.start.over? tokens = some final) (complete : final.IsComplete)
    (within : Outlook.start.peak tokens ≤ limit) : ¬ Justified tokens limit error := by
  intro justified
  cases justified with
  | malformed reached inRange refuses names =>
      exact Outlook.not_complete_of_refuses reached refuses course complete
  | nestedTooDeep reached found opens exceeds step =>
      have beyond := Outlook.lt_peak_of_reach reached found opens exceeds step
      omega

/-- A complete course that stays within the limit is an expression that does. -/
theorem isExpressionWithin_of_complete {final : Outlook} {limit : Nat}
    (course : Outlook.start.over? tokens = some final) (complete : final.IsComplete)
    (within : Outlook.start.peak tokens ≤ limit) : IsExpressionWithin limit tokens := by
  cases parsed : Tree.ofTokens ⟨limit⟩ tokens with
  | ok tree => exact ⟨tree, Tree.derives_of_ofTokens parsed⟩
  | error error =>
      have justified := Tree.justified_of_ofTokens parsed
      exact absurd justified (not_justified_of_complete course complete within)

theorem isExpression_iff :
    IsExpression tokens ↔ ∃ final, Outlook.start.over? tokens = some final ∧ final.IsComplete := by
  constructor
  · intro parts
    obtain ⟨tree, derived, rfl⟩ := parts
    exact ⟨_, Outlook.over?_yield derived [], rfl⟩
  · intro parts
    obtain ⟨final, course, complete⟩ := parts
    obtain ⟨tree, derived, yield_eq, -⟩ :=
      isExpressionWithin_of_complete course complete (Nat.le_refl _)
    exact ⟨tree, derived, yield_eq⟩

/-! ### Beginnings of expressions -/

theorem viable_iff :
    Viable tokens ↔ ∃ outlook, Outlook.start.over? tokens = some outlook := by
  constructor
  · intro parts
    obtain ⟨rest, expression⟩ := parts
    obtain ⟨final, course, -⟩ := isExpression_iff.mp expression
    obtain ⟨outlook, reached, -⟩ := Outlook.over?_of_append course
    exact ⟨outlook, reached⟩
  · intro parts
    obtain ⟨outlook, reached⟩ := parts
    obtain ⟨rest, final, course, complete, -⟩ := outlook.exists_completion
    refine ⟨rest, isExpression_iff.mpr ⟨final, ?_, complete⟩⟩
    rw [Outlook.over?_append, reached, Option.bind_some, course]

/-- A token that the outlook refuses ends the beginnings of expressions. -/
theorem not_viable_of_refuses {outlook : Outlook} {position : Nat}
    (reached : Outlook.start.over? (tokens.take position) = some outlook)
    (inRange : position < tokens.length) (refuses : outlook.Refuses tokens[position]?) :
    ¬ Viable (tokens.take (position + 1)) := by
  rw [List.getElem?_eq_getElem inRange] at refuses
  have noStep : outlook.next? tokens[position] = none := refuses
  rw [viable_iff, List.take_succ_eq_append_getElem inRange, Outlook.over?_append, reached,
    Option.bind_some, Outlook.over?_singleton, noStep]
  intro parts
  obtain ⟨_, course⟩ := parts
  cases course

/-! ### Syntax errors -/

/-- A syntax error stands at the first token that cannot go on with an expression, or
at the end of tokens that are none yet, and its message names no other token. -/
theorem malformed_at_first_unviable {settings : Settings} {position : Nat}
    {fault : SyntaxFault}
    (failed : Tree.ofTokens settings tokens = .error (.malformed position fault)) :
    position ≤ tokens.length ∧ Viable (tokens.take position) ∧
      (position < tokens.length ∧ ¬ Viable (tokens.take (position + 1)) ∨
        position = tokens.length ∧ ¬ IsExpression tokens) ∧
      (fault.message ∈ SyntaxFault.plainMessages ∨
        ∃ token, tokens[position]? = some token ∧
          ∃ words ∈ SyntaxFault.namingWords, fault.message = words ++ token.text) := by
  cases Tree.justified_of_ofTokens failed with
  | malformed reached inRange refuses names =>
      refine ⟨inRange, viable_iff.mpr ⟨_, reached⟩, ?_, ?_⟩
      · rcases Nat.lt_or_eq_of_le inRange with inside | atEnd
        · exact .inl ⟨inside, not_viable_of_refuses reached inside refuses⟩
        · refine .inr ⟨atEnd, fun expression => ?_⟩
          obtain ⟨final, course, complete⟩ := isExpression_iff.mp expression
          exact Outlook.not_complete_of_refuses reached refuses course complete
      · rcases fault.message_cases with plain | ⟨token, named, worded⟩
        · exact .inl plain
        · exact .inr ⟨token, names token named, worded⟩

/-- A second number where a group should close. -/
theorem malformed_at_second_number :
    let tokens : List Token := [.openParen, .number 1, .number 2]
    let fault : SyntaxFault := .missingClose (some (.number 2))
    Tree.ofTokens {} tokens = .error (.malformed 2 fault) ∧
      2 ≤ tokens.length ∧ Viable (tokens.take 2) ∧
        (2 < tokens.length ∧ ¬ Viable (tokens.take 3) ∨
          2 = tokens.length ∧ ¬ IsExpression tokens) ∧
        (fault.message ∈ SyntaxFault.plainMessages ∨
          ∃ token, tokens[2]? = some token ∧
            ∃ words ∈ SyntaxFault.namingWords, fault.message = words ++ token.text) := by
  intro tokens fault
  have failed : Tree.ofTokens {} tokens = .error (.malformed 2 fault) := rfl
  exact ⟨failed, malformed_at_first_unviable failed⟩

end Reckon
