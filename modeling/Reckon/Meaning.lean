import Reckon.Evaluation

/-!
Contract: the meaning of a tree, told node by node.

A node means one number or one operator, or it means nothing. What an inner node means
depends on one meaning for each of its children, never on how many items a child
contributes.

Owns:
- the meaning of a node, and the value of a root that means a number;
- the order in which nodes are given their meaning, and the first node without one.

Does not own: the items of a node.
-/

set_option autoImplicit false

namespace Reckon

/-- The number that is meant, where a number is due. -/
def Item.numberOr (fault : EvalError) : Item → Except EvalError Float
  | .value number => .ok number
  | .operator _ => .error fault

/-- The operator that is meant, where one that `fits` is due. -/
def Item.operatorOr (fault : EvalError) (fits : Operator → Bool) :
    Item → Except EvalError Operator
  | .value _ => .error fault
  | .operator symbol => if fits symbol then .ok symbol else .error fault

namespace Tree

/-- Pairs of an operator and a number are joined to the total one by one. What is wrong
with a pair shows only after the pairs before it are joined. -/
def joinPairs (precedence : Precedence) (fault : EvalError) (total : Float) :
    List Item → Except EvalError Float
  | [] => return total
  | [_] => throw fault
  | link :: operand :: others => do
      let operator ← link.operatorOr fault fun operator => operator.precedence == precedence
      let right ← operand.numberOr fault
      let joined ← operator.apply total right
      joinPairs precedence fault joined others

/-- The number that an inner node means, from the meanings of its children. -/
def combine (symbol : Symbol) (fault : EvalError) (meanings : List Item) :
    Except EvalError Float :=
  match symbol, meanings with
  | .factor, [content] => content.numberOr fault
  | .negative, [sign, operand] => do
      let _ ← sign.operatorOr fault fun operator => operator == .subtract
      let value ← operand.numberOr fault
      return -value
  | .expression, first :: others => do
      joinPairs .additive fault (← first.numberOr fault) others
  | .term, first :: others => do
      joinPairs .multiplicative fault (← first.numberOr fault) others
  | _, _ => throw fault

mutual
/-- Numbers and operators without children mean themselves. An inner node means a
number, which it gets once all of its children have their meaning. -/
def meaning : Tree → Except EvalError Item
  | node (.leaf (.number value)) [] => return .value value
  | node (.leaf (.operator operator)) [] => return .operator operator
  | node (.leaf token) children => throw (.incompleteSubtree (.leaf token) children.length)
  | node (.inner symbol) children => do
      let meanings ← forestMeanings children
      let value ← combine symbol (.incompleteSubtree (.inner symbol) children.length) meanings
      return .value value

/-- One meaning for each tree; the first tree without a meaning decides the error. -/
def forestMeanings : List Tree → Except EvalError (List Item)
  | [] => return []
  | tree :: trees => do
      let first ← meaning tree
      let others ← forestMeanings trees
      return first :: others
end

/-- The number that the tree means. A root that means an operator has this one item and
no value. -/
def meantValue (tree : Tree) : Except EvalError Float := do
  (← tree.meaning).numberOr (.incompleteSubtree tree.label 1)

mutual
/-- The nodes that are given a meaning, in their order: an inner node behind its
children, and these from left to right. What stands below a token is never looked at. -/
def visited : Tree → List Tree
  | node (.leaf token) children => [node (.leaf token) children]
  | node (.inner symbol) children =>
      forestVisited children ++ [node (.inner symbol) children]

def forestVisited : List Tree → List Tree
  | [] => []
  | tree :: trees => visited tree ++ forestVisited trees
end

def isMeaningless (tree : Tree) : Bool :=
  !tree.meaning.isOk

/-- The first node that is without a meaning when its turn comes. -/
def firstFault? (tree : Tree) : Option Tree :=
  tree.visited.find? isMeaningless

end Tree

end Reckon
