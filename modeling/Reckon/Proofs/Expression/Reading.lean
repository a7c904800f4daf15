import Reckon.Calculation
import Reckon.Proofs.Derivation
import Reckon.Proofs.Expression.Quantity

/-!
Contract: a derived tree is worth what the expression it stands for is worth.

The items of a node are collected before they are folded, so a division by zero in a
later operand is met before one that joins earlier operands. Division by zero is the
only error either way, which makes the order unobservable.

Owns:
- the reading of each builder;
- every derived tree has a reading, and its only item is the value of the reading.

Does not own: trees that the grammar does not derive.
-/

set_option autoImplicit false

namespace Reckon

open Evaluation

/-- The tree stands for the expression, and its items are the expression's value. -/
structure StandsFor (tree : Tree) (expression : Expression) : Prop where
  reading : Expression.ofTree? tree = some expression
  items : Evaluation.items tree = expression.value.map fun value => [Item.value value]

namespace StandsFor

variable {tree operand : Tree} {expression : Expression}

theorem number (literal : Float) :
    StandsFor (.terminal (.number literal)) (.number literal) where
  reading := by simp [Tree.terminal, Expression.ofTree?]
  items := by
    simp [Tree.terminal, Evaluation.items, tokenItem, Expression.value, Except.map, bind,
      Except.bind, pure, Except.pure]

/-- A factor is worth what it holds. -/
theorem factor (content : StandsFor tree expression) :
    StandsFor (.factor tree) expression where
  reading := by
    rw [Tree.factor, Expression.ofTree?]
    exact content.reading
  items := by
    rw [Tree.factor, Evaluation.items, forestItems, content.items]
    cases expression.value <;>
      simp [forestItems, fold, Symbol.foldRule, Except.map, bind, Except.bind, pure,
        Except.pure]

theorem negative (content : StandsFor operand expression) :
    StandsFor (.negative (.operator .subtract) operand) (.negation expression) where
  reading := by
    rw [Tree.negative, Expression.ofTree?, content.reading]
    rfl
  items := by
    rw [Tree.negative, Evaluation.items, forestItems, forestItems, content.items,
      Expression.value]
    cases expression.value <;>
      simp [Tree.terminal, Evaluation.items, forestItems, tokenItem, fold, Symbol.foldRule,
        Except.map, bind, Except.bind, pure, Except.pure]

end StandsFor

/-! ### Chains -/

/-- The children of a chain behind its first operand. -/
def linkTrees (links : List (Token × Tree)) : List Tree :=
  links.flatMap fun link => [Tree.terminal link.1, link.2]

theorem chain_eq_node (symbol : Symbol) (first : Tree) (links : List (Token × Tree)) :
    Tree.chain symbol first links = .node (.inner symbol) (first :: linkTrees links) := rfl

theorem linkTrees_cons (link : Token × Tree) (links : List (Token × Tree)) :
    linkTrees (link :: links) = .terminal link.1 :: link.2 :: linkTrees links := by
  simp [linkTrees]

theorem forestItems_linkTrees_cons {operator : Operator} {right : Tree}
    {rightExpression : Expression} (links : List (Token × Tree))
    (content : StandsFor right rightExpression) :
    forestItems (linkTrees ((.operator operator, right) :: links)) = do
      let value ← rightExpression.value
      let found ← forestItems (linkTrees links)
      return .operator operator :: .value value :: found := by
  rw [linkTrees_cons, forestItems, forestItems, content.items]
  cases rightExpression.value with
  | error error =>
      simp [Tree.terminal, Evaluation.items, tokenItem, Except.map, bind, Except.bind, pure,
        Except.pure]
  | ok value =>
      cases forestItems (linkTrees links) <;>
        simp [Tree.terminal, Evaluation.items, tokenItem, Except.map, bind, Except.bind, pure,
          Except.pure]

/-- Operators of one precedence, each with an operand that has a reading. -/
structure LinksStand (precedence : Precedence) (links : List (Token × Tree)) : Prop where
  operators : ∀ link ∈ links, link.1.kind = precedence.kind
  operands : ∀ link ∈ links, ∃ expression, StandsFor link.2 expression

namespace LinksStand

variable {precedence : Precedence} {link : Token × Tree} {links : List (Token × Tree)}

theorem head (stand : LinksStand precedence (link :: links)) :
    ∃ operator right expression, link = (.operator operator, right) ∧
      operator.precedence = precedence ∧ StandsFor right expression := by
  obtain ⟨operator, isOperator, ofPrecedence⟩ :=
    Token.kind_eq_precedence_kind_iff.mp (stand.operators link (by simp))
  obtain ⟨expression, content⟩ := stand.operands link (by simp)
  exact ⟨operator, link.2, expression, Prod.ext isOperator rfl, ofPrecedence, content⟩

theorem tail (stand : LinksStand precedence (link :: links)) : LinksStand precedence links where
  operators other member := stand.operators other (by simp [member])
  operands other member := stand.operands other (by simp [member])

/-- Links have a reading with every total before them. -/
theorem exists_ofLinks? (stand : LinksStand precedence links) (total : Expression) :
    ∃ expression, Expression.ofLinks? total (linkTrees links) = some expression := by
  induction links generalizing total with
  | nil => exact ⟨total, by simp [linkTrees, Expression.ofLinks?]⟩
  | cons link links inductionHypothesis =>
      obtain ⟨operator, right, rightExpression, rfl, -, content⟩ := stand.head
      obtain ⟨expression, rest⟩ :=
        inductionHypothesis stand.tail (.binary operator total rightExpression)
      refine ⟨expression, ?_⟩
      rw [linkTrees_cons, Tree.terminal, Expression.ofLinks?, content.reading]
      exact rest

theorem eq_divisionByZero_of_forestItems (stand : LinksStand precedence links)
    {error : EvalError} (failed : forestItems (linkTrees links) = .error error) :
    error = .divisionByZero := by
  induction links with
  | nil => cases failed
  | cons link links inductionHypothesis =>
      obtain ⟨operator, right, expression, rfl, -, content⟩ := stand.head
      rw [forestItems_linkTrees_cons links content] at failed
      cases rightValue : expression.value with
      | error found =>
          rw [rightValue] at failed
          cases failed
          exact Expression.eq_divisionByZero_of_value rightValue
      | ok value =>
          rw [rightValue] at failed
          cases others : forestItems (linkTrees links) with
          | error found =>
              rw [others] at failed
              cases failed
              exact inductionHypothesis stand.tail others
          | ok found =>
              rw [others] at failed
              cases failed

/-- The links are joined to the total one by one, whatever the misfit would be. -/
theorem value_of_ofLinks? (stand : LinksStand precedence links) (misfit : EvalError)
    {total expression : Expression}
    (reading : Expression.ofLinks? total (linkTrees links) = some expression) :
    expression.value =
      (do
        let value ← total.value
        let found ← forestItems (linkTrees links)
        foldLinks precedence misfit value found) := by
  induction links generalizing total with
  | nil =>
      rw [linkTrees, List.flatMap_nil, Expression.ofLinks?] at reading
      cases reading
      cases expression.value <;> rfl
  | cons link links inductionHypothesis =>
      obtain ⟨operator, right, rightExpression, rfl, ofPrecedence, content⟩ := stand.head
      rw [linkTrees_cons, Tree.terminal, Expression.ofLinks?, content.reading] at reading
      rw [inductionHypothesis stand.tail reading, forestItems_linkTrees_cons links content,
        Expression.value]
      cases totalValue : total.value with
      | error error => rfl
      | ok value =>
          cases rightValue : rightExpression.value with
          | error error => rfl
          | ok rightNumber =>
              cases others : forestItems (linkTrees links) with
              | ok found =>
                  simp only [bind, Except.bind, pure, Except.pure, foldLinks, ofPrecedence,
                    ↓reduceIte]
                  cases operator.apply value rightNumber <;> rfl
              | error error =>
                  -- Here the two orders differ: the operator is applied, or a later
                  -- operand fails first.
                  rw [stand.tail.eq_divisionByZero_of_forestItems others]
                  by_cases zeroDivisor : operator = .divide ∧ (rightNumber == 0) = true <;>
                    simp [Operator.apply_eq, zeroDivisor, bind, Except.bind]

end LinksStand

theorem ChainRule.ofTree?_chain {symbol operand : Symbol} {precedence : Precedence}
    (rule : ChainRule symbol operand precedence) (first : Tree)
    (links : List (Token × Tree)) :
    Expression.ofTree? (.chain symbol first links) =
      (Expression.ofTree? first).bind (Expression.ofLinks? · (linkTrees links)) := by
  rw [chain_eq_node]
  cases rule <;> rw [Expression.ofTree?]

theorem ChainRule.fold_eq {symbol operand : Symbol} {precedence : Precedence}
    (rule : ChainRule symbol operand precedence) (value : Float) (found : List Item) :
    fold symbol (.value value :: found) =
      foldLinks precedence (.incompleteSubtree (.inner symbol) (found.length + 1)) value
        found := by
  cases rule <;> rfl

/-- A chain stands for its operands joined from the left. -/
theorem StandsFor.exists_chain {symbol operand : Symbol} {precedence : Precedence}
    {first : Tree} {firstExpression : Expression} {links : List (Token × Tree)}
    (rule : ChainRule symbol operand precedence) (content : StandsFor first firstExpression)
    (stand : LinksStand precedence links) :
    ∃ expression, StandsFor (.chain symbol first links) expression := by
  obtain ⟨expression, reading⟩ := stand.exists_ofLinks? firstExpression
  refine ⟨expression, ?_, ?_⟩
  · rw [rule.ofTree?_chain, content.reading, Option.bind_some, reading]
  · rw [chain_eq_node, Evaluation.items, forestItems, content.items]
    have joined (misfit : EvalError) := stand.value_of_ofLinks? misfit reading
    cases firstValue : firstExpression.value with
    | error error =>
        rw [joined .divisionByZero, firstValue]
        rfl
    | ok value =>
        cases others : forestItems (linkTrees links) with
        | error error =>
            rw [joined .divisionByZero, firstValue, others]
            rfl
        | ok found =>
            rw [joined (.incompleteSubtree (.inner symbol) (found.length + 1)), firstValue,
              others]
            simp only [Except.map, bind, Except.bind, pure, Except.pure, List.cons_append,
              List.nil_append, rule.fold_eq]

/-! ### Derived trees -/

/-- Induction on the derivation, one case for each rule of the grammar. -/
theorem Derives.exists_standsFor {symbol : Symbol} {tree : Tree}
    (derived : Derives symbol tree) : ∃ expression, StandsFor tree expression := by
  induction derived with
  | number literal => exact ⟨_, (StandsFor.number literal).factor⟩
  | group inside content =>
      obtain ⟨expression, content⟩ := content
      exact ⟨expression, content.factor⟩
  | negated negative content =>
      obtain ⟨expression, content⟩ := content
      exact ⟨expression, content.factor⟩
  | negativeNumber literal => exact ⟨_, (StandsFor.number literal).factor.negative⟩
  | negativeGroup inside content =>
      obtain ⟨expression, content⟩ := content
      exact ⟨_, content.factor.negative⟩
  | term first operators operands content contents =>
      obtain ⟨expression, content⟩ := content
      exact content.exists_chain .term ⟨operators, contents⟩
  | expression first operators operands content contents =>
      obtain ⟨expression, content⟩ := content
      exact content.exists_chain .expression ⟨operators, contents⟩

/-- A tree with a reading is worth what its reading is worth. -/
theorem StandsFor.value_eq {tree : Tree} {expression : Expression}
    (content : StandsFor tree expression) : tree.value = expression.value := by
  rw [Tree.value, content.items]
  cases expression.value <;> rfl

end Reckon
