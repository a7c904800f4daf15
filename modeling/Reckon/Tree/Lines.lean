import Reckon.Tree.Dump
import Reckon.Tree.Occurrence

/-!
Contract: what the dump of a tree shows, told from the places of the tree.

Owns:
- the lines of a text;
- all the nodes of a tree in preorder;
- the line that stands for a node, and trees that no such line tells apart.

Does not own: how a tree is dumped.
-/

set_option autoImplicit false

namespace Reckon

/-- The text is made up of the lines, a newline ends each of them, and there is no other
newline. -/
structure Text.HasLines (text : String) (lines : List String) : Prop where
  ended : text = String.join (lines.map (· ++ "\n"))
  whole : ∀ line ∈ lines, '\n' ∉ line.toList

namespace Tree

/-- These are the nodes of the tree, each with its address. A node comes before the nodes
below it, and these come before those further right: addresses increase in lexicographic
order. -/
structure InPreorder (tree : Tree) (nodes : List (List Nat × Tree)) : Prop where
  complete : ∀ address part, (address, part) ∈ nodes ↔ tree.subtree? address = some part
  ordered : nodes.Pairwise fun earlier later => earlier.1 < later.1

/-- The line of a node: two spaces a level, the depth, and the text of the label. -/
def lineText (depth : Nat) (text : String) : String :=
  indent depth ++ Nat.repr depth ++ ": " ++ text

/-- The trees have the same addresses, and at each of them labels with the same text. -/
def SameTexts (left right : Tree) : Prop :=
  ∀ address, (left.subtree? address).map (fun part => part.label.text) =
    (right.subtree? address).map (fun part => part.label.text)

end Tree

end Reckon
