import Reckon.Evaluation
import Reckon.Tree.Codec
import Reckon.Tree.Dump

/-!
Contract: recursions over trees whose calls are counted as they nest.

A recursion calls itself for each child of a node, and makes its result for the node from
the label and from the results for the children.

Owns:
- the result of a recursion whose calls may nest only so deep;
- the recursions that count nodes, collect items, dump a tree and write it as JSON.

Does not own: how high trees are.
-/

set_option autoImplicit false

namespace Reckon.Tree

/-- What a recursion makes of a node. -/
abbrev Step (α : Type) := Label → List α → α

/-- The result for a tree, if at most so many calls are open at a time. -/
def callWithin {α : Type} (step : Step α) : Nat → Tree → Option α
  | 0, _ => none
  | bound + 1, node label children =>
      (children.mapM (callWithin step bound)).map (step label)

def countStep : Step Nat := fun _ counts =>
  1 + counts.foldr (· + ·) 0

def itemsStep : Step (Except EvalError (List Item))
  | .leaf (.number value), [] => .ok [.value value]
  | .leaf (.operator operator), [] => .ok [.operator operator]
  | .leaf token, below => .error (.incompleteSubtree (.leaf token) below.length)
  | .inner symbol, below => do
      let found ← below.mapM id
      return [.value (← Evaluation.fold symbol found.flatten)]

/-- The lines of a tree, for every depth at which it may stand. -/
def dumpStep : Step (Nat → String) := fun label below depth =>
  dumpLine depth label ++ String.join (below.map fun lines => lines (depth + 1))

def jsonStep : Step Json := fun label below =>
  .object (("label", label.toJson) :: childrenField below)

end Reckon.Tree
