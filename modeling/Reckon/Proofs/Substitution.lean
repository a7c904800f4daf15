import Reckon.Proofs.Calculation
import Reckon.Proofs.Items
import Reckon.Proofs.NestingLimit

/-!
Contract: a group may be exchanged for the number that it is worth.

The tokens around the exchange are arbitrary. Whether the whole is an expression is
decided by the outlooks, and a group takes every outlook where a number does. What the
whole is worth is decided by its tree: the exchange changes one factor, and the items of
every node above it stay as they were.

Owns:
- the factors that can take the place of a number;
- the tree behind the exchange, with its tokens and its items;
- the outcome of parsing and evaluating before and after the exchange.

Does not own: exchanges inside trees that the grammar does not derive.
-/

set_option autoImplicit false

namespace Reckon

open Evaluation

/-- A factor that is worth the value, and that may follow a minus sign as a number
may. -/
structure Substitute (value : Float) (factor : Tree) : Prop where
  derives : Derives .factor factor
  takesMinus : Parser.takesMinus factor.yield.head? = true
  items_eq : items factor = .ok [.value value]

/-- The second tree has the factor's tokens between `before` and `after`, and the items
of the first tree. -/
structure Replaces (factor : Tree) (symbol : Symbol) (before after : List Token)
    (tree replaced : Tree) : Prop where
  derives : Derives symbol replaced
  yield_eq : replaced.yield = before ++ (factor.yield ++ after)
  items_eq : items replaced = items tree

/-! ### The place of the number -/

section Places

variable {value : Float} {before after : List Token}

/-- Behind a token that is no number, the number is in the rest. -/
theorem exists_cons_of_number {first : Token} {tokens : List Token}
    (other : first.kind ≠ .number)
    (found : first :: tokens = before ++ .number value :: after) :
    ∃ front, before = first :: front ∧ tokens = front ++ .number value :: after := by
  cases before with
  | nil =>
      cases found
      exact absurd rfl other
  | cons token front =>
      cases found
      exact ⟨front, rfl, rfl⟩

/-- In two parts, the number is in the one or in the other. -/
theorem append_eq_around_number {left right : List Token}
    (found : left ++ right = before ++ .number value :: after) :
    (∃ middle, left = before ++ .number value :: middle ∧ after = middle ++ right) ∨
      ∃ front, before = left ++ front ∧ right = front ++ .number value :: after := by
  rcases List.append_eq_append_iff.mp found with
    ⟨front, beforeEq, rightEq⟩ | ⟨middle, leftEq, restEq⟩
  · exact .inr ⟨front, beforeEq, rightEq⟩
  · cases middle with
    | nil =>
        refine .inr ⟨[], ?_, ?_⟩
        · rw [leftEq, List.append_nil, List.append_nil]
        · exact restEq.symm
    | cons token middle =>
        cases restEq
        exact .inl ⟨middle, leftEq, rfl⟩

/-- A number before a closing parenthesis is not the last token. -/
theorem exists_of_number_before_close {tokens : List Token}
    (found : tokens ++ [.closeParen] = before ++ .number value :: after) :
    ∃ rest, tokens = before ++ .number value :: rest ∧ after = rest ++ [.closeParen] := by
  rcases append_eq_around_number found with inFront | ⟨front, -, closeEq⟩
  · exact inFront
  · cases front with
    | nil => cases closeEq
    | cons token front => simp at closeEq

end Places

/-! ### The tree behind an exchange -/

section Replacing

variable {value : Float} {factor : Tree} {before after : List Token}

/-- The second factor replaces the first, and may follow a minus sign. -/
def ReplacesOperand (factor : Tree) (before after : List Token) (tree replaced : Tree) : Prop :=
  Replaces factor .factor before after tree replaced ∧
    Parser.takesMinus replaced.yield.head? = true

theorem Substitute.exists_replaced_number {literal : Float} (substitute : Substitute value factor)
    (found : [Token.number literal] = before ++ .number value :: after) :
    ∃ replaced, ReplacesOperand factor before after
      (.factor (.terminal (.number literal))) replaced := by
  cases before with
  | nil =>
      cases found
      refine ⟨factor, ⟨substitute.derives, by simp, ?_⟩, substitute.takesMinus⟩
      rw [substitute.items_eq, (StandsFor.number value).factor.items]
      rfl
  | cons token front => simp at found

theorem Replaces.exists_group {inside : Tree} (derived : Derives .expression inside)
    (exchange : ∀ front rest, inside.yield = front ++ .number value :: rest →
      ∃ replaced, Replaces factor .expression front rest inside replaced)
    (found : (Tree.factor inside).yield = before ++ .number value :: after) :
    ∃ replaced, ReplacesOperand factor before after (.factor inside) replaced := by
  rw [Tree.yield_group derived.isExpression] at found
  obtain ⟨front, rfl, closed⟩ := exists_cons_of_number (by decide) found
  obtain ⟨rest, insideEq, rfl⟩ := exists_of_number_before_close closed
  obtain ⟨replaced, replaces⟩ := exchange front rest insideEq
  have groupYield := Tree.yield_group replaces.derives.isExpression
  refine ⟨.factor replaced, ⟨.group replaces.derives, ?_, ?_⟩, ?_⟩
  · rw [groupYield, replaces.yield_eq]
    simp
  · exact items_node_congr .factor (forestItems_cons_congr replaces.items_eq rfl)
  · rw [groupYield]
    rfl

/-- Under a minus sign the operand is exchanged. -/
theorem ReplacesOperand.exists_negative {operand : Tree}
    (exchange : ∀ front, operand.yield = front ++ .number value :: after →
      ∃ replaced, ReplacesOperand factor front after operand replaced)
    (found : (Tree.negative (.operator .subtract) operand).yield =
      before ++ .number value :: after) :
    ∃ replaced, Replaces factor .negative before after
      (.negative (.operator .subtract) operand) replaced := by
  rw [Tree.yield_negative] at found
  obtain ⟨front, rfl, operandEq⟩ := exists_cons_of_number (by decide) found
  obtain ⟨replaced, replaces, takes⟩ := exchange front operandEq
  refine ⟨.negative (.operator .subtract) replaced, ?_, ?_, ?_⟩
  · exact Parser.derives_negative_iff.mpr ⟨replaced, rfl, replaces.derives, takes⟩
  · rw [Tree.yield_negative, replaces.yield_eq, List.cons_append]
  · exact items_node_congr .negative
      (forestItems_cons_congr rfl (forestItems_cons_congr replaces.items_eq rfl))

variable {symbol operand : Symbol} {precedence : Precedence}

/-- In one of the operands behind an operator the number is exchanged. -/
theorem Replaces.exists_links {links : List (Token × Tree)} {front : List Token}
    (operators : ∀ link ∈ links, link.1.kind = precedence.kind)
    (operands : ∀ link ∈ links, Derives operand link.2)
    (exchange : ∀ link ∈ links, ∀ before after,
      link.2.yield = before ++ .number value :: after →
        ∃ replaced, Replaces factor operand before after link.2 replaced)
    (found : Tree.linksYield links = front ++ .number value :: after) :
    ∃ others, (∀ link ∈ others, link.1.kind = precedence.kind) ∧
      (∀ link ∈ others, Derives operand link.2) ∧
        Tree.linksYield others = front ++ (factor.yield ++ after) ∧
          forestItems (linkTrees others) = forestItems (linkTrees links) := by
  induction links generalizing front with
  | nil => simp at found
  | cons link links inductionHypothesis =>
      obtain ⟨operator, right⟩ := link
      obtain ⟨isOperator, laterOperators⟩ := List.forall_mem_cons.mp operators
      obtain ⟨rightDerived, laterOperands⟩ := List.forall_mem_cons.mp operands
      obtain ⟨rightExchange, laterExchange⟩ := List.forall_mem_cons.mp exchange
      have notNumber : operator.kind ≠ .number := by
        rw [isOperator]
        cases precedence <;> simp [Precedence.kind]
      rw [Tree.linksYield_cons] at found
      obtain ⟨rest, rfl, restEq⟩ := exists_cons_of_number notNumber found
      rcases append_eq_around_number restEq with ⟨middle, rightEq, rfl⟩ | ⟨later, rfl, laterEq⟩
      · obtain ⟨replaced, replaces⟩ := rightExchange rest middle rightEq
        refine ⟨(operator, replaced) :: links,
          List.forall_mem_cons.mpr ⟨isOperator, laterOperators⟩,
          List.forall_mem_cons.mpr ⟨replaces.derives, laterOperands⟩, ?_, ?_⟩
        · rw [Tree.linksYield_cons, replaces.yield_eq]
          simp
        · rw [linkTrees_cons, linkTrees_cons]
          exact forestItems_cons_congr rfl (forestItems_cons_congr replaces.items_eq rfl)
      · obtain ⟨others, otherOperators, otherOperands, othersYield, othersItems⟩ :=
          inductionHypothesis laterOperators laterOperands laterExchange laterEq
        refine ⟨(operator, right) :: others,
          List.forall_mem_cons.mpr ⟨isOperator, otherOperators⟩,
          List.forall_mem_cons.mpr ⟨rightDerived, otherOperands⟩, ?_, ?_⟩
        · rw [Tree.linksYield_cons, othersYield]
          simp
        · rw [linkTrees_cons, linkTrees_cons]
          exact forestItems_cons_congr rfl (forestItems_cons_congr rfl othersItems)

theorem Replaces.exists_chain {first : Tree} {links : List (Token × Tree)}
    (rule : ChainRule symbol operand precedence) (firstDerived : Derives operand first)
    (operators : ∀ link ∈ links, link.1.kind = precedence.kind)
    (operands : ∀ link ∈ links, Derives operand link.2)
    (firstExchange : ∀ before after, first.yield = before ++ .number value :: after →
      ∃ replaced, Replaces factor operand before after first replaced)
    (exchange : ∀ link ∈ links, ∀ before after,
      link.2.yield = before ++ .number value :: after →
        ∃ replaced, Replaces factor operand before after link.2 replaced)
    (found : (Tree.chain symbol first links).yield = before ++ .number value :: after) :
    ∃ replaced, Replaces factor symbol before after (.chain symbol first links) replaced := by
  rw [Tree.yield_chain rule.isChain.1] at found
  rcases append_eq_around_number found with ⟨middle, firstEq, rfl⟩ | ⟨front, rfl, linksEq⟩
  · obtain ⟨replaced, replaces⟩ := firstExchange before middle firstEq
    refine ⟨.chain symbol replaced links, rule.derives replaces.derives operators operands, ?_, ?_⟩
    · rw [Tree.yield_chain rule.isChain.1, replaces.yield_eq]
      simp
    · exact items_node_congr symbol (forestItems_cons_congr replaces.items_eq rfl)
  · obtain ⟨others, otherOperators, otherOperands, othersYield, othersItems⟩ :=
      exists_links operators operands exchange linksEq
    refine ⟨.chain symbol first others, rule.derives firstDerived otherOperators otherOperands,
      ?_, ?_⟩
    · rw [Tree.yield_chain rule.isChain.1, othersYield, List.append_assoc]
    · exact items_node_congr symbol (forestItems_cons_congr rfl othersItems)

/-- Induction on the derivation: wherever a tree has the number among its tokens, there
is a tree with the factor in its place. -/
theorem Derives.exists_replaced {tree : Tree} (substitute : Substitute value factor)
    (derived : Derives symbol tree) :
    ∀ before after, tree.yield = before ++ .number value :: after →
      ∃ replaced, Replaces factor symbol before after tree replaced := by
  induction derived with
  | number literal =>
      intro before after found
      rw [Tree.yield_number] at found
      obtain ⟨replaced, replaces, -⟩ := substitute.exists_replaced_number found
      exact ⟨replaced, replaces⟩
  | group inside exchange =>
      intro before after found
      obtain ⟨replaced, replaces, -⟩ := Replaces.exists_group inside exchange found
      exact ⟨replaced, replaces⟩
  | negated content exchange =>
      intro before after found
      rw [content.yield_factor] at found
      obtain ⟨replaced, replaces⟩ := exchange before after found
      refine ⟨.factor replaced, .negated replaces.derives, ?_, ?_⟩
      · rw [replaces.derives.yield_factor, replaces.yield_eq]
      · exact items_node_congr .factor (forestItems_cons_congr replaces.items_eq rfl)
  | negativeNumber literal =>
      intro before after found
      refine ReplacesOperand.exists_negative (fun front operandEq => ?_) found
      rw [Tree.yield_number] at operandEq
      exact substitute.exists_replaced_number operandEq
  | negativeGroup inside exchange =>
      intro before after found
      exact ReplacesOperand.exists_negative
        (fun front operandEq => Replaces.exists_group inside exchange operandEq) found
  | term first operators operands firstExchange exchange =>
      intro before after found
      exact Replaces.exists_chain .term first operators operands firstExchange exchange found
  | expression first operators operands firstExchange exchange =>
      intro before after found
      exact Replaces.exists_chain .expression first operators operands firstExchange exchange found

end Replacing

/-! ### The outlooks around an exchange -/

namespace Substitute

variable {value : Float} {factor inside : Tree}

theorem group (derived : Derives .expression inside)
    (worth : items inside = .ok [.value value]) : Substitute value (.factor inside) where
  derives := .group derived
  takesMinus := by
    rw [Tree.yield_group derived.isExpression]
    rfl
  items_eq := by
    rw [Tree.factor, Evaluation.items, forestItems, worth]
    rfl

/-- From every outlook the factor leads where the number leads, or both have no
place. -/
theorem over?_eq (substitute : Substitute value factor) (outlook : Outlook) :
    outlook.over? factor.yield = outlook.over? [.number value] := by
  rcases outlook with ⟨expected, groups⟩
  cases expected with
  | operand => exact Outlook.over?_yield substitute.derives groups
  | negatedOperand =>
      have negative : Derives .negative (.negative (.operator .subtract) factor) :=
        Parser.derives_negative_iff.mpr ⟨factor, rfl, substitute.derives, substitute.takesMinus⟩
      have course := Outlook.over?_yield negative groups
      rw [Tree.yield_negative] at course
      exact course
  | operator =>
      have takes := substitute.takesMinus
      cases tokens : factor.yield with
      | nil =>
          rw [tokens] at takes
          cases takes
      | cons first rest =>
          rw [tokens] at takes
          cases first with
          | number literal => rfl
          | openParen => rfl
          | _ => cases takes

theorem isExpression_iff (substitute : Substitute value factor) (before after : List Token) :
    IsExpression (before ++ (factor.yield ++ after)) ↔
      IsExpression (before ++ .number value :: after) := by
  have sameCourse : Outlook.start.over? (before ++ (factor.yield ++ after)) =
      Outlook.start.over? (before ++ .number value :: after) := by
    rw [List.append_cons before, List.append_assoc, Outlook.over?_append, Outlook.over?_append]
    refine Option.bind_congr fun outlook _ => ?_
    rw [Outlook.over?_append, Outlook.over?_append, substitute.over?_eq]
  rw [Reckon.isExpression_iff, Reckon.isExpression_iff, sameCourse]

end Substitute

/-! ### Outcomes -/

/-- How parsing and then evaluating a token list ends. -/
def evaluateTokens (settings : Settings) (tokens : List Token) : Except CalculationError Float :=
  match Tree.ofTokens settings tokens with
  | .error error => .error (.parse error)
  | .ok tree => (evaluate tree).outcome.mapError .eval

/-- Both are unparsable, both divide by zero, or both have the same value. -/
inductive SameOutcome : Except CalculationError Float → Except CalculationError Float → Prop where
  | unparsable (left right : ParseError) :
      SameOutcome (.error (.parse left)) (.error (.parse right))
  | divisionByZero :
      SameOutcome (.error (.eval .divisionByZero)) (.error (.eval .divisionByZero))
  | value (value : Float) : SameOutcome (.ok value) (.ok value)

theorem evaluateTokens_of_ok {settings : Settings} {tokens : List Token} {tree : Tree}
    (parsed : Tree.ofTokens settings tokens = .ok tree) :
    evaluateTokens settings tokens = tree.value.mapError .eval := by
  rw [evaluateTokens, parsed]
  exact congrArg (Except.mapError CalculationError.eval) (outcome_evaluate tree)

/-- With as many levels allowed as there are tokens, every expression has a tree. -/
theorem IsExpression.exists_tree {settings : Settings} {tokens : List Token}
    (expression : IsExpression tokens) (enough : tokens.length ≤ settings.nestingLimit) :
    ∃ tree, Tree.ofTokens settings tokens = .ok tree := by
  have within : Outlook.start.peak tokens ≤ settings.nestingLimit :=
    Nat.le_trans (Outlook.peak_start_le_length tokens) enough
  obtain ⟨tree, derived, rfl, nests⟩ := isExpressionWithin_iff.mpr ⟨expression, within⟩
  exact ⟨tree, Tree.ofTokens_yield derived nests⟩

/-- A derived tree has a value or divides by zero. -/
theorem Derives.sameOutcome_self {tree : Tree} (derived : Derives .expression tree) :
    SameOutcome (tree.value.mapError .eval) (tree.value.mapError .eval) := by
  obtain ⟨expression, stands⟩ := derived.exists_standsFor
  rw [stands.value_eq, expression.value_eq]
  by_cases divides : expression.DividesByZero
  · rw [if_pos divides]
    exact .divisionByZero
  · rw [if_neg divides]
    exact .value expression.quantity

/-- The items of an expression are its value alone. -/
theorem Derives.items_of_value {tree : Tree} {value : Float} (derived : Derives .expression tree)
    (worth : tree.value = .ok value) : items tree = .ok [.value value] := by
  obtain ⟨expression, stands⟩ := derived.exists_standsFor
  rw [stands.items, ← stands.value_eq, worth]
  rfl

theorem Derives.label_eq {tree : Tree} (derived : Derives .expression tree) :
    tree.label = .inner .expression := by
  cases derived
  rfl

theorem Substitute.sameOutcome {settings : Settings} {value : Float} {factor : Tree}
    {before after : List Token} (substitute : Substitute value factor)
    (enough : (before ++ (factor.yield ++ after)).length ≤ settings.nestingLimit)
    (enoughPlain : (before ++ .number value :: after).length ≤ settings.nestingLimit) :
    SameOutcome (evaluateTokens settings (before ++ (factor.yield ++ after)))
      (evaluateTokens settings (before ++ .number value :: after)) := by
  cases plainParsed : Tree.ofTokens settings (before ++ .number value :: after) with
  | ok plain =>
      obtain ⟨plainDerived, plainYield, -⟩ := Tree.derives_of_ofTokens plainParsed
      obtain ⟨replaced, replaces⟩ := plainDerived.exists_replaced substitute before after plainYield
      obtain ⟨tree, parsed⟩ :=
        IsExpression.exists_tree ⟨replaced, replaces.derives, replaces.yield_eq⟩ enough
      obtain ⟨derived, yieldEq, -⟩ := Tree.derives_of_ofTokens parsed
      obtain rfl : tree = replaced :=
        derived.eq_of_yield_eq replaces.derives (yieldEq.trans replaces.yield_eq.symm)
      have sameValue : tree.value = plain.value :=
        Tree.value_congr (derived.label_eq.trans plainDerived.label_eq.symm) replaces.items_eq
      rw [evaluateTokens_of_ok parsed, evaluateTokens_of_ok plainParsed, sameValue]
      exact plainDerived.sameOutcome_self
  | error plainError =>
      cases parsed : Tree.ofTokens settings (before ++ (factor.yield ++ after)) with
      | ok tree =>
          -- The number would complete an expression just as the factor does.
          obtain ⟨derived, yieldEq, -⟩ := Tree.derives_of_ofTokens parsed
          have expression := (substitute.isExpression_iff before after).mp ⟨tree, derived, yieldEq⟩
          obtain ⟨plain, found⟩ := expression.exists_tree enoughPlain
          rw [found] at plainParsed
          cases plainParsed
      | error error =>
          rw [evaluateTokens, evaluateTokens, parsed, plainParsed]
          exact .unparsable error plainError

/-- A group and the number that it is worth are equals in every context, provided that
the limit allows as many levels as there are tokens. -/
theorem sameOutcome_group_number {own settings : Settings} {before inside after : List Token}
    {tree : Tree} {value : Float} (parsed : Tree.ofTokens own inside = .ok tree)
    (worth : (evaluate tree).outcome = .ok value)
    (enough : (before ++ [Token.openParen] ++ inside ++ [Token.closeParen] ++ after).length ≤
      settings.nestingLimit) :
    SameOutcome
      (evaluateTokens settings (before ++ [.openParen] ++ inside ++ [.closeParen] ++ after))
      (evaluateTokens settings (before ++ [.number value] ++ after)) := by
  obtain ⟨derived, rfl, -⟩ := Tree.derives_of_ofTokens parsed
  rw [outcome_evaluate] at worth
  have substitute := Substitute.group derived (derived.items_of_value worth)
  have groupTokens : before ++ [Token.openParen] ++ tree.yield ++ [Token.closeParen] ++ after =
      before ++ ((Tree.factor tree).yield ++ after) := by
    rw [Tree.yield_group derived.isExpression]
    simp
  have plainTokens : before ++ [.number value] ++ after = before ++ .number value :: after :=
    (List.append_cons ..).symm
  rw [groupTokens] at enough ⊢
  rw [plainTokens]
  apply substitute.sameOutcome enough
  rw [Tree.yield_group derived.isExpression] at enough
  simp only [List.length_append, List.length_cons] at enough ⊢
  omega

/-- The group in `8 / -(2 - 5) + 1` stands under a minus sign and behind a division. -/
theorem sameOutcome_group_number_negated :
    let before : List Token := [.number 8, .operator .divide, .operator .subtract]
    let inside : List Token := [.number 2, .operator .subtract, .number 5]
    let after : List Token := [.operator .add, .number 1]
    ∃ tree, Tree.ofTokens ⟨0⟩ inside = .ok tree ∧ (evaluate tree).outcome = .ok (2 - 5) ∧
      SameOutcome
        (evaluateTokens {} (before ++ [.openParen] ++ inside ++ [.closeParen] ++ after))
        (evaluateTokens {} (before ++ [.number (2 - 5)] ++ after)) := by
  intro before inside after
  have parsed : Tree.ofTokens ⟨0⟩ inside = .ok _ := rfl
  exact ⟨_, parsed, rfl, sameOutcome_group_number parsed rfl (by decide)⟩

end Reckon
