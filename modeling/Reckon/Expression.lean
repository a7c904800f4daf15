import Reckon.Evaluation

/-!
Contract: arithmetic expressions without tokens or trees.

Owns:
- the value of an expression, by recursion on its operators;
- how tightly operators bind by convention;
- its tokens with the fewest parentheses, and how deep these nest;
- the expression that a tree stands for, every chain read from the left.

Does not own: trees for expressions, and the precedence that a parser gives an operator.
-/

set_option autoImplicit false

namespace Reckon

inductive Expression where
  | number (value : Float)
  | negation (operand : Expression)
  | binary (operator : Operator) (left right : Expression)
deriving Repr

namespace Expression

/-- The operand on the left is valued before the one on the right. -/
def value : Expression → Except EvalError Float
  | number value => .ok value
  | negation operand => do
      return -(← operand.value)
  | binary operator left right => do
      let leftValue ← left.value
      let rightValue ← right.value
      operator.apply leftValue rightValue

/-- How tightly an operator binds by convention, whatever a parser makes of it. -/
def bindingLevel : Operator → Nat
  | .add => 1
  | .subtract => 1
  | .multiply => 2
  | .divide => 2

/-- The level of the outermost operator. Numbers and negations stand above every operator. -/
def level : Expression → Nat
  | binary operator _ _ => bindingLevel operator
  | negation _ => 3
  | number _ => 3

/-- On the left of an operator, only an operation that binds less tightly needs
parentheses. -/
def groupedOnLeft (operator : Operator) (operand : Expression) : Bool :=
  operand.level < bindingLevel operator

/-- On the right of an operator, an operation that binds just as tightly needs them
too. -/
def groupedOnRight (operator : Operator) (operand : Expression) : Bool :=
  operand.level ≤ bindingLevel operator

/-- After a minus sign, only a number stands bare. -/
def groupedUnderMinus : Expression → Bool
  | number _ => false
  | _ => true

/-- The tokens between parentheses, if these are needed. -/
def enclose (grouped : Bool) (tokens : List Token) : List Token :=
  if grouped then .openParen :: tokens ++ [.closeParen] else tokens

/-- The expression written with the fewest parentheses. -/
def tokens : Expression → List Token
  | number value => [.number value]
  | negation operand =>
      .operator .subtract :: enclose operand.groupedUnderMinus operand.tokens
  | binary operator left right =>
      enclose (groupedOnLeft operator left) left.tokens
        ++ .operator operator :: enclose (groupedOnRight operator right) right.tokens

/-- One more level for a group. -/
def deepen (grouped : Bool) (depth : Nat) : Nat :=
  if grouped then depth + 1 else depth

/-- How deep groups and negations nest in the tokens of the expression. -/
def nesting : Expression → Nat
  | number _ => 0
  | negation operand => 1 + deepen operand.groupedUnderMinus operand.nesting
  | binary operator left right =>
      max (deepen (groupedOnLeft operator left) left.nesting)
        (deepen (groupedOnRight operator right) right.nesting)

mutual
/-- The expression a tree stands for, if every node has the children its label
asks for. -/
def ofTree? : Tree → Option Expression
  | .node (.leaf (.number value)) [] => some (number value)
  | .node (.inner .factor) [content] => ofTree? content
  | .node (.inner .negative) [_, operand] => (ofTree? operand).map negation
  | .node (.inner .expression) (first :: links) => (ofTree? first).bind (ofLinks? · links)
  | .node (.inner .term) (first :: links) => (ofTree? first).bind (ofLinks? · links)
  | _ => none

/-- Joins the links of a chain to the expression read so far. -/
def ofLinks? (total : Expression) : List Tree → Option Expression
  | [] => some total
  | .node (.leaf (.operator operator)) [] :: operand :: links =>
      (ofTree? operand).bind fun right => ofLinks? (binary operator total right) links
  | _ => none
end

end Expression

end Reckon
