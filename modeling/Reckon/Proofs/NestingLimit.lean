import Reckon.Proofs.Parser.Verdict

/-!
Contract: what the nesting limit does to the answer for a token list.

Owns:
- the limit is reported where the tokens so far are the beginning of some expression,
  but of none that nests within the limit;
- no other answer depends on the limit.
-/

set_option autoImplicit false

namespace Reckon

variable {tokens : List Token} {limit : Nat}

/-! ### Expressions within a limit -/

theorem isExpressionWithin_iff :
    IsExpressionWithin limit tokens ↔
      IsExpression tokens ∧ Outlook.start.peak tokens ≤ limit := by
  constructor
  · intro parts
    obtain ⟨tree, derived, rfl, nests⟩ := parts
    exact ⟨⟨tree, derived, rfl⟩, Nat.le_trans (Outlook.peak_start_yield_le derived) nests⟩
  · intro parts
    obtain ⟨expression, within⟩ := parts
    obtain ⟨final, course, complete⟩ := isExpression_iff.mp expression
    exact isExpressionWithin_of_complete course complete within

/-- A number or an opening parenthesis shows how deep it stands, and the tokens that
complete an expression behind it need go no deeper. -/
theorem viableWithin_iff {front : List Token} {opening : Token}
    (opens : Parser.takesMinus (some opening) = true) :
    ViableWithin limit (front ++ [opening]) ↔
      Viable (front ++ [opening]) ∧ Outlook.start.peak (front ++ [opening]) ≤ limit := by
  constructor
  · intro parts
    obtain ⟨rest, within⟩ := parts
    obtain ⟨expression, wholePeak⟩ := isExpressionWithin_iff.mp within
    have frontPeak := Outlook.start.peak_le_peak_append (front ++ [opening]) rest
    exact ⟨⟨rest, expression⟩, Nat.le_trans frontPeak wholePeak⟩
  · intro parts
    obtain ⟨viable, frontPeak⟩ := parts
    obtain ⟨next, course⟩ := viable_iff.mp viable
    obtain ⟨reached, frontCourse, lastCourse⟩ := Outlook.over?_of_append course
    have step : reached.next? opening = some next :=
      (Outlook.over?_singleton ..).symm.trans lastCourse
    obtain ⟨rest, final, restCourse, complete, restPeak⟩ := next.exists_completion
    refine ⟨rest, isExpressionWithin_iff.mpr ⟨isExpression_iff.mpr ⟨final, ?_, complete⟩, ?_⟩⟩
    · rw [Outlook.over?_append, course, Option.bind_some, restCourse]
    · -- The completion starts no deeper than the opening reaches.
      have level := Outlook.depth_le_rise opens step
      rw [Outlook.peak_append frontCourse, Outlook.peak_singleton step] at frontPeak
      rw [Outlook.peak_append course, Outlook.peak_append frontCourse,
        Outlook.peak_singleton step]
      omega

theorem takesMinus_iff_kind {token : Token} :
    Parser.takesMinus (some token) = true ↔
      token.kind = .number ∨ token.kind = .openParen := by
  cases token with
  | operator operator => cases operator <;> decide
  | _ => simp [Parser.takesMinus, Token.kind]

/-- The tokens exceed the limit where some beginning of theirs does, up to a number or an
opening parenthesis. -/
theorem lt_peak_iff :
    limit < Outlook.start.peak tokens ↔
      ∃ front opening, front ++ [opening] <+: tokens ∧
        (opening.kind = .number ∨ opening.kind = .openParen) ∧
          Viable (front ++ [opening]) ∧ ¬ ViableWithin limit (front ++ [opening]) := by
  constructor
  · intro exceeds
    obtain ⟨front, opening, rest, reached, next, rfl, course, step, beyond⟩ :=
      Outlook.exists_of_lt_peak exceeds
    obtain ⟨opens, -⟩ := Outlook.lt_rise_iff.mp beyond
    refine ⟨front, opening, ⟨rest, by simp⟩, takesMinus_iff_kind.mp opens, ?_, ?_⟩
    · refine viable_iff.mpr ⟨next, ?_⟩
      rw [Outlook.over?_append, course, Option.bind_some, Outlook.over?_singleton, step]
    · intro within
      obtain ⟨-, frontPeak⟩ := (viableWithin_iff opens).mp within
      rw [Outlook.peak_append course, Outlook.peak_singleton step] at frontPeak
      omega
  · intro parts
    obtain ⟨front, opening, ⟨rest, rfl⟩, kind, viable, notWithin⟩ := parts
    apply Nat.lt_of_not_le
    intro wholePeak
    have frontPeak := Outlook.start.peak_le_peak_append (front ++ [opening]) rest
    exact notWithin ((viableWithin_iff (takesMinus_iff_kind.mpr kind)).mpr
      ⟨viable, Nat.le_trans frontPeak wholePeak⟩)

/-! ### The report of the limit -/

/-- The limit is reported exactly where a beginning of the tokens, up to a number or an
opening parenthesis, begins some expression but none that nests within the limit. A
fault that comes first is answered whatever follows it, and a limit that is exceeded
first is answered whatever follows that. -/
theorem nestingLimit_reported_iff (settings : Settings) (tokens : List Token) :
    (∀ bound, Tree.ofTokens settings tokens = .error (.nestedTooDeep bound) ↔
      bound = settings.nestingLimit ∧
        ∃ front opening, front ++ [opening] <+: tokens ∧
          (opening.kind = .number ∨ opening.kind = .openParen) ∧
            Viable (front ++ [opening]) ∧
              ¬ ViableWithin settings.nestingLimit (front ++ [opening])) ∧
    (∀ position fault rest, position < tokens.length →
      Tree.ofTokens settings tokens = .error (.malformed position fault) →
        Tree.ofTokens settings (tokens ++ rest) = .error (.malformed position fault)) ∧
    ∀ bound rest, Tree.ofTokens settings tokens = .error (.nestedTooDeep bound) →
      Tree.ofTokens settings (tokens ++ rest) = .error (.nestedTooDeep bound) := by
  refine ⟨?_, ?_, ?_⟩
  · intro bound
    rw [Tree.ofTokens_eq_nestedTooDeep_iff, lt_peak_iff]
  · intro position fault rest inRange failed
    have justified := Tree.justified_of_ofTokens failed
    have notEmpty : tokens ++ rest ≠ [] := by
      apply List.ne_nil_of_length_pos
      rw [List.length_append]
      omega
    exact (Tree.ofTokens_eq_error_iff_justified notEmpty).mpr (justified.append inRange)
  · intro bound rest failed
    obtain ⟨rfl, exceeds⟩ := Tree.ofTokens_eq_nestedTooDeep_iff.mp failed
    have longer := Outlook.start.peak_le_peak_append tokens rest
    exact Tree.ofTokens_eq_nestedTooDeep_iff.mpr ⟨rfl, Nat.lt_of_lt_of_le exceeds longer⟩

/-- A group under a minus sign takes two levels. -/
theorem nestingLimit_reported_negated_group :
    let negatedGroup : List Token := [.operator .subtract, .openParen]
    let twoNumbers : List Token := [.number 1, .number 2]
    let fault : SyntaxFault := .trailingToken (.number 2)
    Tree.ofTokens ⟨1⟩ negatedGroup = .error (.nestedTooDeep 1) ∧
      (∃ front opening, front ++ [opening] <+: negatedGroup ∧
        (opening.kind = .number ∨ opening.kind = .openParen) ∧
          Viable (front ++ [opening]) ∧ ¬ ViableWithin 1 (front ++ [opening])) ∧
      Tree.ofTokens ⟨1⟩ (twoNumbers ++ negatedGroup) = .error (.malformed 1 fault) ∧
      Tree.ofTokens ⟨1⟩ (negatedGroup ++ twoNumbers) = .error (.nestedTooDeep 1) := by
  intro negatedGroup twoNumbers fault
  have reported : Tree.ofTokens ⟨1⟩ negatedGroup = .error (.nestedTooDeep 1) := rfl
  have faulty : Tree.ofTokens ⟨1⟩ twoNumbers = .error (.malformed 1 fault) := rfl
  obtain ⟨reportedIff, -, reportedFirst⟩ := nestingLimit_reported_iff ⟨1⟩ negatedGroup
  obtain ⟨-, faultFirst, -⟩ := nestingLimit_reported_iff ⟨1⟩ twoNumbers
  refine ⟨reported, ((reportedIff 1).mp reported).2, ?_, ?_⟩
  · exact faultFirst 1 fault negatedGroup (by decide) faulty
  · exact reportedFirst 1 twoNumbers reported

/-! ### Answers that do not depend on the limit -/

theorem Tree.ofTokens_of_larger {settings larger : Settings}
    (more : settings.nestingLimit ≤ larger.nestingLimit)
    (notReported : ∀ bound, ofTokens settings tokens ≠ .error (.nestedTooDeep bound)) :
    ofTokens larger tokens = ofTokens settings tokens := by
  cases parsed : ofTokens settings tokens with
  | ok tree =>
      obtain ⟨derived, rfl, nests⟩ := derives_of_ofTokens parsed
      exact ofTokens_yield derived (Nat.le_trans nests more)
  | error error =>
      cases error with
      | invalidLexeme lexeme => cases justified_of_ofTokens parsed
      | nestedTooDeep bound => exact absurd parsed (notReported bound)
      | malformed position fault =>
          cases tokens with
          | nil =>
              rw [← parsed]
              rfl
          | cons token tokens =>
              have justified := justified_of_ofTokens parsed
              have notEmpty := List.cons_ne_nil token tokens
              exact (ofTokens_eq_error_iff_justified notEmpty).mpr (justified.mono more)

theorem Tree.ofTokens_ne_nestedTooDeep {settings : Settings}
    (enough : tokens.length ≤ settings.nestingLimit) (bound : Nat) :
    ofTokens settings tokens ≠ .error (.nestedTooDeep bound) := by
  intro failed
  obtain ⟨-, exceeds⟩ := ofTokens_eq_nestedTooDeep_iff.mp failed
  have levels := Outlook.peak_start_le_length tokens
  omega

/-- The limit decides nothing but whether it is reported. A larger one keeps every other
answer, one of as many levels as there are tokens is never reported, and where one is
reported every smaller one is. -/
theorem ofTokens_eq_of_larger_limit (tokens : List Token) :
    (∀ settings larger : Settings, settings.nestingLimit ≤ larger.nestingLimit →
      (∀ bound, Tree.ofTokens settings tokens ≠ .error (.nestedTooDeep bound)) →
        Tree.ofTokens larger tokens = Tree.ofTokens settings tokens) ∧
    (∀ settings : Settings, tokens.length ≤ settings.nestingLimit →
      ∀ bound, Tree.ofTokens settings tokens ≠ .error (.nestedTooDeep bound)) ∧
    ∀ (settings larger : Settings) (bound : Nat), settings.nestingLimit ≤ larger.nestingLimit →
      Tree.ofTokens larger tokens = .error (.nestedTooDeep bound) →
        Tree.ofTokens settings tokens = .error (.nestedTooDeep settings.nestingLimit) := by
  refine ⟨?_, ?_, ?_⟩
  · intro settings larger more notReported
    exact Tree.ofTokens_of_larger more notReported
  · intro settings enough
    exact Tree.ofTokens_ne_nestedTooDeep enough
  · intro settings larger bound more failed
    obtain ⟨-, exceeds⟩ := Tree.ofTokens_eq_nestedTooDeep_iff.mp failed
    exact Tree.ofTokens_eq_nestedTooDeep_iff.mpr ⟨rfl, Nat.lt_of_le_of_lt more exceeds⟩

/-- Two groups that are never closed: a fault from two levels on, and the limit below. -/
theorem ofTokens_eq_of_larger_limit_open_groups :
    let tokens : List Token := [.openParen, .openParen, .number 1]
    Tree.ofTokens ⟨2⟩ tokens = .error (.malformed 3 (.missingClose none)) ∧
      Tree.ofTokens ⟨7⟩ tokens = Tree.ofTokens ⟨2⟩ tokens ∧
      (∀ bound, Tree.ofTokens ⟨3⟩ tokens ≠ .error (.nestedTooDeep bound)) ∧
      Tree.ofTokens ⟨1⟩ tokens = .error (.nestedTooDeep 1) ∧
      Tree.ofTokens ⟨0⟩ tokens = .error (.nestedTooDeep 0) := by
  intro tokens
  have faulty : Tree.ofTokens ⟨2⟩ tokens = .error (.malformed 3 (.missingClose none)) := rfl
  have reported : Tree.ofTokens ⟨1⟩ tokens = .error (.nestedTooDeep 1) := rfl
  have notReported : ∀ bound, Tree.ofTokens ⟨2⟩ tokens ≠ .error (.nestedTooDeep bound) := by
    intro bound
    rw [faulty]
    nofun
  obtain ⟨sameAnswer, enoughLevels, reportedBelow⟩ := ofTokens_eq_of_larger_limit tokens
  refine ⟨faulty, ?_, ?_, reported, ?_⟩
  · exact sameAnswer ⟨2⟩ ⟨7⟩ (by decide) notReported
  · exact enoughLevels ⟨3⟩ (by decide)
  · exact reportedBelow ⟨0⟩ ⟨1⟩ 1 (by decide) reported

end Reckon
