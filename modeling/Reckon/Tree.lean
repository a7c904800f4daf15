import Reckon.Token

/-!
Contract: derivation trees of arithmetic expressions.

A tree may have any shape: the grammar builds only some of them, but trees also
come from outside, where nothing has checked how many children a node has or what
they are.

Owns: labels, the builders for each grammar rule, and simple measures of a tree.

Does not own: which trees the grammar derives, and what a tree is worth.
-/

set_option autoImplicit false

namespace Reckon

/-- The left-hand sides of the grammar rules. -/
inductive Symbol where
  | expression
  | term
  | factor
  | negative
deriving DecidableEq, Repr

def Symbol.text : Symbol → String
  | expression => "Expr"
  | term => "Term"
  | factor => "Factor"
  | negative => "Negative"

/-- An inner label names the rule a node was built by; a leaf label is a token. -/
inductive Label where
  | inner (symbol : Symbol)
  | leaf (token : Token)
deriving DecidableEq, Repr

def Label.text : Label → String
  | inner symbol => symbol.text
  | leaf token => token.text

/-- Equal up to the comparison of numbers by value. -/
def Label.alike : Label → Label → Bool
  | inner left, inner right => left == right
  | leaf left, leaf right => left.alike right
  | _, _ => false

/-- How the value of a node comes from its children. -/
inductive FoldRule where
  /-- A token stands for itself. -/
  | leaf
  /-- The value of the only child. -/
  | forward
  /-- The negated value of the operand. -/
  | negate
  /-- Operands joined by operators of one precedence, from the left. -/
  | chain (precedence : Precedence)
deriving DecidableEq, Repr

def Symbol.foldRule : Symbol → FoldRule
  | factor => .forward
  | negative => .negate
  | expression => .chain .additive
  | term => .chain .multiplicative

def Label.foldRule : Label → FoldRule
  | leaf _ => .leaf
  | inner symbol => symbol.foldRule

inductive Tree where
  | node (label : Label) (children : List Tree)
deriving Repr

namespace Tree

/-- What holds of a node as soon as it holds of its children holds of every tree. -/
@[elab_as_elim, induction_eliminator]
theorem induction {motive : Tree → Prop}
    (node : ∀ label children, (∀ child ∈ children, motive child) →
      motive (node label children)) (tree : Tree) : motive tree := by
  apply @Tree.rec motive fun trees => ∀ tree ∈ trees, motive tree
  · exact node
  · simp
  · intro tree trees holds others
    exact List.forall_mem_cons.mpr ⟨holds, others⟩

def label : Tree → Label
  | node label _ => label

def children : Tree → List Tree
  | node _ children => children

def isLeaf (tree : Tree) : Bool :=
  tree.children.isEmpty

def foldRule (tree : Tree) : FoldRule :=
  tree.label.foldRule

def terminal (token : Token) : Tree :=
  node (.leaf token) []

def factor (content : Tree) : Tree :=
  node (.inner .factor) [content]

/-- The sign comes first, the operand it applies to second. -/
def negative (sign : Token) (operand : Tree) : Tree :=
  node (.inner .negative) [terminal sign, operand]

/-- The children of a chain: the first operand, then each operator before its
operand. -/
def chainChildren (first : Tree) (links : List (Token × Tree)) : List Tree :=
  first :: links.flatMap fun link => [terminal link.1, link.2]

def chain (symbol : Symbol) (first : Tree) (links : List (Token × Tree)) : Tree :=
  node (.inner symbol) (chainChildren first links)

mutual
/-- The number of nodes, the root included. -/
def nodeCount : Tree → Nat
  | node _ children => 1 + forestCount children

def forestCount : List Tree → Nat
  | [] => 0
  | tree :: trees => nodeCount tree + forestCount trees
end

mutual
/-- The same shape, with alike labels at corresponding nodes. -/
def alike : Tree → Tree → Bool
  | node leftLabel leftChildren, node rightLabel rightChildren =>
      leftLabel.alike rightLabel && forestAlike leftChildren rightChildren

def forestAlike : List Tree → List Tree → Bool
  | [], [] => true
  | left :: lefts, right :: rights => alike left right && forestAlike lefts rights
  | _, _ => false
end

mutual
/-- Every node below `depth` levels of others, with its own depth, each node before
its children and these from left to right. -/
def preorderAt (depth : Nat) : Tree → List (Nat × Tree)
  | node label children =>
      (depth, node label children) :: forestPreorderAt (depth + 1) children

def forestPreorderAt (depth : Nat) : List Tree → List (Nat × Tree)
  | [] => []
  | tree :: trees => preorderAt depth tree ++ forestPreorderAt depth trees
end

/-- Every node with its depth, the root at depth zero. -/
def preorder (tree : Tree) : List (Nat × Tree) :=
  preorderAt 0 tree

end Tree

end Reckon
