import Reckon.Proofs.Calculation

/-!
Contract: the fewest parentheses keep the meaning of an expression.

The tokens of an expression are those of a derived tree that stands for the very same
expression. The tree is put together level by level: an operand is written as a
factor, a term or an expression, whichever its operator leaves room for, and a group
takes it from the last of these back to the first.

Which operands are grouped is settled by the convention. The parser's precedences
enter only where they are shown to agree with it.

Owns:
- the parser's two precedences are the two levels of the convention;
- the trees of an expression at each level, with their tokens and their nesting;
- the value of an expression is what its tokens are parsed and evaluated to.
-/

set_option autoImplicit false

namespace Reckon

open Expression

/-! ### Readings of chains -/

theorem Expression.ofLinks?_append (total : Expression) (links : List (Token × Tree))
    (rest : List Tree) :
    ofLinks? total (linkTrees links ++ rest) =
      (ofLinks? total (linkTrees links)).bind (ofLinks? · rest) := by
  induction links generalizing total with
  | nil => simp [linkTrees, ofLinks?]
  | cons link links inductionHypothesis =>
      rw [linkTrees_cons, List.cons_append, List.cons_append, Tree.terminal]
      cases link.1 with
      | operator operator =>
          rw [ofLinks?, ofLinks?]
          cases ofTree? link.2 with
          | none => rfl
          | some right => exact inductionHypothesis (.binary operator total right)
      | _ => simp [ofLinks?]

/-- One more link makes the expression so far the left operand of its operator. -/
theorem ChainRule.ofTree?_chain_append {symbol operand : Symbol} {precedence : Precedence}
    {operator : Operator} {first rightTree : Tree} {links : List (Token × Tree)}
    {left right : Expression} (rule : ChainRule symbol operand precedence)
    (readLeft : ofTree? (.chain symbol first links) = some left)
    (readRight : ofTree? rightTree = some right) :
    ofTree? (.chain symbol first (links ++ [(.operator operator, rightTree)])) =
      some (.binary operator left right) := by
  have last : linkTrees (links ++ [(.operator operator, rightTree)]) =
      linkTrees links ++ [.terminal (.operator operator), rightTree] := by
    simp [linkTrees]
  rw [rule.ofTree?_chain] at readLeft ⊢
  obtain ⟨total, readFirst, readLinks⟩ := Option.bind_eq_some_iff.mp readLeft
  rw [last, readFirst, Option.bind_some, ofLinks?_append, readLinks, Option.bind_some,
    Tree.terminal, ofLinks?, readRight, Option.bind_some, ofLinks?]

/-! ### One level at a time -/

/-- The grammar derives the tree from the symbol. It stands for the expression, and
has just these tokens and this nesting. -/
structure Writes (symbol : Symbol) (expression : Expression) (tokens : List Token)
    (nesting : Nat) (tree : Tree) : Prop where
  derives : Derives symbol tree
  reading : ofTree? tree = some expression
  yield_eq : tree.yield = tokens
  nesting_eq : tree.nesting = nesting

namespace Writes

variable {symbol operand : Symbol} {precedence : Precedence} {expression : Expression}
  {tokens : List Token} {nesting : Nat} {tree : Tree}

theorem number (literal : Float) :
    Writes .factor (.number literal) [.number literal] 0
      (.factor (.terminal (.number literal))) where
  derives := .number literal
  reading := (StandsFor.number literal).factor.reading
  yield_eq := Tree.yield_number literal
  nesting_eq := Tree.nesting_number literal

theorem group (inside : Writes .expression expression tokens nesting tree) :
    Writes .factor expression (enclose true tokens) (deepen true nesting)
      (.factor tree) where
  derives := .group inside.derives
  reading := by
    rw [Tree.factor, ofTree?]
    exact inside.reading
  yield_eq := by
    rw [Tree.yield_group inside.derives.isExpression, inside.yield_eq]
    rfl
  nesting_eq := by
    rw [Tree.nesting_group inside.derives.isExpression, inside.nesting_eq]
    rfl

theorem negated (content : Writes .factor expression tokens nesting tree)
    (takes : Parser.takesMinus tokens.head? = true) :
    Writes .factor (.negation expression) (.operator .subtract :: tokens) (1 + nesting)
      (.factor (.negative (.operator .subtract) tree)) where
  derives := by
    refine .negated (Parser.derives_negative_iff.mpr ⟨tree, rfl, content.derives, ?_⟩)
    rw [content.yield_eq]
    exact takes
  reading := by
    rw [Tree.factor, ofTree?, Tree.negative, ofTree?, content.reading]
    rfl
  yield_eq := by rw [Tree.yield_negated, Tree.yield_negative, content.yield_eq]
  nesting_eq := by
    rw [Tree.nesting_negated, Tree.nesting_negative, content.nesting_eq, Nat.add_comm]

/-- An operand alone is a chain without links. -/
theorem alone (rule : ChainRule symbol operand precedence)
    (content : Writes operand expression tokens nesting tree) :
    Writes symbol expression tokens nesting (.chain symbol tree []) where
  derives := rule.derives content.derives (by simp) (by simp)
  reading := by
    rw [rule.ofTree?_chain, content.reading]
    simp [linkTrees, ofLinks?]
  yield_eq := by
    rw [Tree.yield_chain rule.isChain.1, content.yield_eq, Tree.linksYield_nil,
      List.append_nil]
  nesting_eq := by
    rw [Tree.nesting_chain rule.isChain, ← content.nesting_eq]
    simp [Tree.chainChildren, Tree.forestNesting]

/-- One more operand at the end of a chain is the right operand of the whole. -/
theorem exists_linked {operator : Operator} {left right : Expression}
    {leftTokens rightTokens : List Token} {leftNesting rightNesting : Nat}
    {leftTree rightTree : Tree} (rule : ChainRule symbol operand precedence)
    (ofPrecedence : operator.precedence = precedence)
    (leftWritten : Writes symbol left leftTokens leftNesting leftTree)
    (rightWritten : Writes operand right rightTokens rightNesting rightTree) :
    ∃ tree, Writes symbol (.binary operator left right)
      (leftTokens ++ .operator operator :: rightTokens) (max leftNesting rightNesting)
      tree := by
  obtain ⟨first, links, rfl, firstDerived, operators, operands⟩ :=
    rule.exists_chain leftWritten.derives
  have isOperator : (Token.operator operator).kind = precedence.kind :=
    Token.kind_eq_precedence_kind_iff.mpr ⟨operator, rfl, ofPrecedence⟩
  refine ⟨.chain symbol first (links ++ [(.operator operator, rightTree)]), ?_, ?_, ?_, ?_⟩
  · apply rule.derives firstDerived
    · exact List.forall_mem_append.mpr ⟨operators, List.forall_mem_singleton.mpr isOperator⟩
    · exact List.forall_mem_append.mpr
        ⟨operands, List.forall_mem_singleton.mpr rightWritten.derives⟩
  · exact rule.ofTree?_chain_append leftWritten.reading rightWritten.reading
  · rw [Tree.yield_chain rule.isChain.1, Tree.linksYield_append, ← List.append_assoc,
      ← Tree.yield_chain rule.isChain.1, leftWritten.yield_eq]
    simp [rightWritten.yield_eq]
  · rw [Tree.nesting_chain_append rule.isChain, leftWritten.nesting_eq,
      rightWritten.nesting_eq]

end Writes

/-! ### The convention and the parser -/

namespace Expression

theorem precedence_eq_additive_iff {operator : Operator} :
    operator.precedence = .additive ↔ bindingLevel operator = 1 := by
  cases operator <;> decide

theorem precedence_eq_multiplicative_iff {operator : Operator} :
    operator.precedence = .multiplicative ↔ bindingLevel operator = 2 := by
  cases operator <;> decide

theorem level_pos (expression : Expression) : 0 < expression.level := by
  cases expression with
  | number literal => exact Nat.succ_pos 2
  | negation operand => exact Nat.succ_pos 2
  | binary operator left right => cases operator <;> simp [level, bindingLevel]

theorem groupedOnLeft_eq_false_iff {operator : Operator} {operand : Expression} :
    groupedOnLeft operator operand = false ↔ bindingLevel operator ≤ operand.level := by
  rw [groupedOnLeft, decide_eq_false_iff_not, Nat.not_lt]

theorem groupedOnRight_eq_false_iff {operator : Operator} {operand : Expression} :
    groupedOnRight operator operand = false ↔ bindingLevel operator < operand.level := by
  rw [groupedOnRight, decide_eq_false_iff_not, Nat.not_le]

end Expression

/-! ### The fewest parentheses -/

/-- The expression has a tree of the symbol with its own tokens, in parentheses if it
is grouped. -/
def Written (symbol : Symbol) (expression : Expression) (grouped : Bool) : Prop :=
  ∃ tree, Writes symbol expression (enclose grouped expression.tokens)
    (deepen grouped expression.nesting) tree

/-- Without parentheses an expression is written at every level down to that of its
outermost operator. -/
structure Fits (expression : Expression) : Prop where
  asExpression : Written .expression expression false
  asTerm : 1 < expression.level → Written .term expression false
  asFactor : 2 < expression.level → Written .factor expression false

namespace Written

variable {symbol operand : Symbol} {precedence : Precedence} {expression : Expression}
  {grouped : Bool}

theorem alone (rule : ChainRule symbol operand precedence)
    (content : Written operand expression grouped) : Written symbol expression grouped :=
  content.imp' _ fun _ written => written.alone rule

theorem group (content : Written .expression expression false) :
    Written .factor expression true :=
  content.imp' _ fun _ written => written.group

theorem binary {operator : Operator} {left right : Expression}
    (rule : ChainRule symbol operand precedence) (ofPrecedence : operator.precedence = precedence)
    (leftContent : Written symbol left (groupedOnLeft operator left))
    (rightContent : Written operand right (groupedOnRight operator right)) :
    Written symbol (.binary operator left right) false := by
  obtain ⟨leftTree, leftWritten⟩ := leftContent
  obtain ⟨rightTree, rightWritten⟩ := rightContent
  exact leftWritten.exists_linked rule ofPrecedence rightWritten

end Written

theorem Expression.takesMinus_enclose (operand : Expression) :
    Parser.takesMinus (enclose operand.groupedUnderMinus operand.tokens).head? = true := by
  cases operand <;> rfl

namespace Fits

variable {operator : Operator} {expression left right : Expression}

theorem ofFactor (content : Written .factor expression false) : Fits expression where
  asExpression := (content.alone .term).alone .expression
  asTerm _ := content.alone .term
  asFactor _ := content

theorem number (literal : Float) : Fits (.number literal) :=
  .ofFactor ⟨_, .number literal⟩

theorem grouped (fits : Fits expression) : Written .factor expression true :=
  fits.asExpression.group

theorem negation (fits : Fits expression) : Fits (.negation expression) := by
  have content : Written .factor expression expression.groupedUnderMinus := by
    cases expression with
    | number literal => exact fits.asFactor (Nat.lt_succ_self 2)
    | negation operand => exact fits.grouped
    | binary operator left right => exact fits.grouped
  obtain ⟨tree, written⟩ := content
  exact .ofFactor ⟨_, written.negated expression.takesMinus_enclose⟩

theorem multiplicative (ofPrecedence : operator.precedence = .multiplicative)
    (leftFits : Fits left) (rightFits : Fits right) :
    Fits (.binary operator left right) := by
  have ofLevel : bindingLevel operator = 2 := precedence_eq_multiplicative_iff.mp ofPrecedence
  have leftContent : Written .term left (groupedOnLeft operator left) := by
    cases grouping : groupedOnLeft operator left with
    | true => exact leftFits.grouped.alone .term
    | false =>
        have bare : bindingLevel operator ≤ left.level := groupedOnLeft_eq_false_iff.mp grouping
        rw [ofLevel] at bare
        exact leftFits.asTerm bare
  have rightContent : Written .factor right (groupedOnRight operator right) := by
    cases grouping : groupedOnRight operator right with
    | true => exact rightFits.grouped
    | false =>
        have bare : bindingLevel operator < right.level := groupedOnRight_eq_false_iff.mp grouping
        rw [ofLevel] at bare
        exact rightFits.asFactor bare
  have written := leftContent.binary .term ofPrecedence rightContent
  exact
    { asExpression := written.alone .expression
      asTerm := fun _ => written
      asFactor := by simp [level, ofLevel] }

theorem additive (ofPrecedence : operator.precedence = .additive)
    (leftFits : Fits left) (rightFits : Fits right) :
    Fits (.binary operator left right) := by
  have ofLevel : bindingLevel operator = 1 := precedence_eq_additive_iff.mp ofPrecedence
  have leftContent : Written .expression left (groupedOnLeft operator left) := by
    have bare : groupedOnLeft operator left = false := by
      rw [groupedOnLeft_eq_false_iff, ofLevel]
      exact left.level_pos
    rw [bare]
    exact leftFits.asExpression
  have rightContent : Written .term right (groupedOnRight operator right) := by
    cases grouping : groupedOnRight operator right with
    | true => exact rightFits.grouped.alone .term
    | false =>
        have bare : bindingLevel operator < right.level := groupedOnRight_eq_false_iff.mp grouping
        rw [ofLevel] at bare
        exact rightFits.asTerm bare
  exact
    { asExpression := leftContent.binary .expression ofPrecedence rightContent
      asTerm := by simp [level, ofLevel]
      asFactor := by simp [level, ofLevel] }

end Fits

theorem Expression.fits (expression : Expression) : Fits expression := by
  induction expression with
  | number literal => exact .number literal
  | negation operand operandFits => exact operandFits.negation
  | binary operator left right leftFits rightFits =>
      cases ofPrecedence : operator.precedence with
      | additive => exact .additive ofPrecedence leftFits rightFits
      | multiplicative => exact .multiplicative ofPrecedence leftFits rightFits

/-! ### From the tokens to the value -/

/-- A tree that stands for the expression is worth what the expression is worth. -/
theorem value_of_ofTree? {tree : Tree} {expression : Expression}
    (derived : Derives .expression tree) (reading : ofTree? tree = some expression) :
    tree.value = expression.value := by
  obtain ⟨found, stands⟩ := derived.exists_standsFor
  have same : found = expression := Option.some.inj (stands.reading.symm.trans reading)
  rw [stands.value_eq, same]

/-- With room for its groups and negations, an expression is parsed back from its
tokens. Evaluation yields its quantity, unless it divides by zero. -/
theorem outcome_evaluate_tokens (expression : Expression) (settings : Settings)
    (deepEnough : expression.nesting ≤ settings.nestingLimit) :
    ∃ tree, Tree.ofTokens settings expression.tokens = .ok tree ∧
      ofTree? tree = some expression ∧
      (evaluate tree).outcome = expression.value ∧
      expression.value =
        if expression.DividesByZero then .error .divisionByZero
        else .ok expression.quantity := by
  obtain ⟨tree, written⟩ := expression.fits.asExpression
  refine ⟨tree, ?_, written.reading, ?_, expression.value_eq⟩
  · have ownTokens : tree.yield = expression.tokens := written.yield_eq
    have ownNesting : tree.nesting = expression.nesting := written.nesting_eq
    rw [← ownTokens]
    exact Tree.ofTokens_yield written.derives (ownNesting ▸ deepEnough)
  · rw [outcome_evaluate]
    exact value_of_ofTree? written.derives written.reading

/-- `2*-(3-4)/5`, where no group is more than the limit allows. -/
theorem outcome_evaluate_tokens_grouped :
    let expression : Expression :=
      .binary .divide
        (.binary .multiply (.number 2) (.negation (.binary .subtract (.number 3) (.number 4))))
        (.number 5)
    ∃ tree, Tree.ofTokens ⟨2⟩ expression.tokens = .ok tree ∧
      ofTree? tree = some expression ∧
      (evaluate tree).outcome = expression.value ∧
      expression.value =
        if expression.DividesByZero then .error .divisionByZero
        else .ok expression.quantity :=
  outcome_evaluate_tokens _ ⟨2⟩ (by decide)

end Reckon
