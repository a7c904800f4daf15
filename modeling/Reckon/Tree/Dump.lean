import Reckon.Tree

/-!
Contract: a tree as indented text.

Owns: the line of each node and the dump of a whole tree.
-/

set_option autoImplicit false

namespace Reckon.Tree

/-- Two spaces a level. -/
def indent (depth : Nat) : String :=
  String.ofList (List.replicate (2 * depth) ' ')

/-- The line of a node: its indent, its depth and its label. -/
def dumpLine (depth : Nat) (label : Label) : String :=
  indent depth ++ Nat.repr depth ++ ": " ++ label.text ++ "\n"

/-- One line a node, each node before its children. -/
def dump (tree : Tree) : String :=
  String.join (tree.preorder.map fun entry => dumpLine entry.1 entry.2.label)

end Reckon.Tree
