import Reckon.Tree

/-!
Contract: the places of a tree.

An address goes from the root to a subtree and names, at each node on its way, one child
by its index. Equal subtrees may stand at several addresses.

Owns: the subtree at an address, and the tree with another one in its place.
-/

set_option autoImplicit false

namespace Reckon.Tree

/-- The subtree at an address, if the address stays inside the tree. -/
def subtree? : List Nat → Tree → Option Tree
  | [], tree => some tree
  | index :: address, node _ children => children[index]?.bind (subtree? address)

/-- The tree with `part` at the address, and everything else as it was. -/
def replaceAt : List Nat → Tree → Tree → Tree
  | [], _, part => part
  | index :: address, node label children, part =>
      node label (children.modify index fun child => replaceAt address child part)

end Reckon.Tree
