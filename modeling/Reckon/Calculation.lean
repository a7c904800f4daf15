import Reckon.Evaluation
import Reckon.Parser.Rules
import Reckon.Scan

/-!
Contract: from the text of an expression to its value.

Owns:
- the tree of a text;
- the value of a tree and of a text, with a report of how the calculation ended.
-/

set_option autoImplicit false

namespace Reckon

def parse (settings : Settings) (text : String) : Traced ParseError Tree := do
  let tokens ← scan text
  let tree ← .ofExcept (Tree.ofTokens settings tokens)
  .emit (.parsed tokens.length tree.nodeCount)
  return tree

def evaluate (tree : Tree) : Traced EvalError Float := do
  let value ← .ofExcept tree.value
  .emit (.evaluated tree.nodeCount value)
  return value

/-- The last record of a calculation. -/
def conclusion (text : String) : Except CalculationError Float → Record
  | .ok value => .calculated text value
  | .error error => .failed text error

def calculate (settings : Settings) (text : String) : Traced CalculationError Float :=
  Traced.conclude (conclusion text) do
    let tree ← (parse settings text).mapError .parse
    (evaluate tree).mapError .eval

end Reckon
