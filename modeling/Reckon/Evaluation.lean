import Reckon.Error

/-!
Contract: the value of a tree.

The items of a node are numbers and operators. A token stands for one item; an
inner node collects the items of its children and folds them, by the rule of its
label, into one number. Trees of every shape are valued, and a shape that does not
fit is refused.

Owns: the arithmetic of the operators, the fold rules, and the value of a tree.
-/

set_option autoImplicit false

namespace Reckon

inductive Item where
  | value (value : Float)
  | operator (operator : Operator)
deriving DecidableEq, Repr

/-- Division by a zero of either sign is refused. -/
def Operator.apply (operator : Operator) (left right : Float) : Except EvalError Float :=
  match operator with
  | add => .ok (left + right)
  | subtract => .ok (left - right)
  | multiply => .ok (left * right)
  | divide => if right == 0 then .error .divisionByZero else .ok (left / right)

namespace Evaluation

/-- Joins operator and operand pairs to `total` from the left. A pair is looked at
only once all pairs before it are joined. -/
def foldLinks (precedence : Precedence) (misfit : EvalError) :
    Float → List Item → Except EvalError Float
  | total, [] => .ok total
  | total, .operator operator :: .value right :: items =>
      if operator.precedence = precedence then
        match operator.apply total right with
        | .ok total => foldLinks precedence misfit total items
        | .error error => .error error
      else .error misfit
  | _, _ => .error misfit

def foldChain (precedence : Precedence) (misfit : EvalError) :
    List Item → Except EvalError Float
  | .value first :: items => foldLinks precedence misfit first items
  | _ => .error misfit

/-- The value of an inner node from the items of its children. -/
def fold (symbol : Symbol) (items : List Item) : Except EvalError Float :=
  let misfit := .incompleteSubtree (.inner symbol) items.length
  match symbol.foldRule, items with
  | .forward, [.value value] => .ok value
  | .negate, [.operator .subtract, .value value] => .ok (-value)
  | .chain precedence, items => foldChain precedence misfit items
  | _, _ => .error misfit

/-- The item of a token without children. Parentheses stand for none, and no token
takes children. -/
def tokenItem (token : Token) (children : List Tree) : Except EvalError Item :=
  match token, children with
  | .number value, [] => .ok (.value value)
  | .operator operator, [] => .ok (.operator operator)
  | token, children => .error (.incompleteSubtree (.leaf token) children.length)

mutual
/-- The items a tree contributes to the node above it. -/
def items : Tree → Except EvalError (List Item)
  | .node (.leaf token) children => do
      return [← tokenItem token children]
  | .node (.inner symbol) children => do
      let found ← forestItems children
      return [.value (← fold symbol found)]

def forestItems : List Tree → Except EvalError (List Item)
  | [] => return []
  | tree :: trees => do
      let front ← items tree
      let back ← forestItems trees
      return front ++ back
end

end Evaluation

/-- The value of a tree whose root stands for a number. -/
def Tree.value (tree : Tree) : Except EvalError Float := do
  match ← Evaluation.items tree with
  | [.value value] => return value
  | found => throw (.incompleteSubtree tree.label found.length)

end Reckon
