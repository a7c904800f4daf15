import Reckon.Tree

/-!
Contract: trees whose numbers are all finite.

Owns: what it means for a token, a label and a tree.
-/

set_option autoImplicit false

namespace Reckon

def Token.IsFinite : Token → Prop
  | number value => Binary64.finite value = true
  | _ => True

def Label.IsFinite : Label → Prop
  | inner _ => True
  | leaf token => token.IsFinite

/-- No number is infinite or NaN, however deep in the tree it stands. -/
def Tree.IsFinite (tree : Tree) : Prop :=
  ∀ entry ∈ tree.preorder, entry.2.label.IsFinite

end Reckon
