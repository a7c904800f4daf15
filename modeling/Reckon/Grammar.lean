import Reckon.Tree

/-!
Contract: the grammar of arithmetic expressions, said without a parser.

Owns:
- the trees that the grammar derives from each of its symbols;
- the tokens a tree stands for, parentheses of groups included;
- how deep a tree nests groups and negations, and how high it is;
- the token lists that are expressions, and those that can become one.

Does not own: how a tree is found for a list of tokens.
-/

set_option autoImplicit false

namespace Reckon

/-- The grammar derives the tree from the symbol. -/
inductive Derives : Symbol → Tree → Prop where
  | number (value : Float) :
      Derives .factor (.factor (.terminal (.number value)))
  | group {inside : Tree} :
      Derives .expression inside → Derives .factor (.factor inside)
  | negated {content : Tree} :
      Derives .negative content → Derives .factor (.factor content)
  | negativeNumber (value : Float) :
      Derives .negative
        (.negative (.operator .subtract) (.factor (.terminal (.number value))))
  | negativeGroup {inside : Tree} :
      Derives .expression inside →
        Derives .negative (.negative (.operator .subtract) (.factor inside))
  | term {first : Tree} {links : List (Token × Tree)} :
      Derives .factor first →
        (∀ link ∈ links, link.1.kind = .multiplicative) →
          (∀ link ∈ links, Derives .factor link.2) →
            Derives .term (.chain .term first links)
  | expression {first : Tree} {links : List (Token × Tree)} :
      Derives .term first →
        (∀ link ∈ links, link.1.kind = .additive) →
          (∀ link ∈ links, Derives .term link.2) →
            Derives .expression (.chain .expression first links)

namespace Tree

/-- A group is an expression that stands as the content of a factor. -/
def isExpression (tree : Tree) : Bool :=
  tree.label == .inner .expression

mutual
/-- The tokens of a tree from left to right, each group between parentheses. -/
def yield : Tree → List Token
  | node (.leaf token) children => token :: forestYield false children
  | node (.inner symbol) children => forestYield (symbol == .factor) children

def forestYield (groups : Bool) : List Tree → List Token
  | [] => []
  | tree :: trees =>
      (if groups && tree.isExpression then
        .openParen :: yield tree ++ [.closeParen]
      else yield tree) ++ forestYield groups trees
end

mutual
/-- The largest number of groups and negations on one path from the root. -/
def nesting : Tree → Nat
  | node (.leaf _) children => forestNesting false children
  | node (.inner symbol) children =>
      (if symbol = .negative then 1 else 0) + forestNesting (symbol == .factor) children

def forestNesting (groups : Bool) : List Tree → Nat
  | [] => 0
  | tree :: trees =>
      max ((if groups && tree.isExpression then 1 else 0) + nesting tree)
        (forestNesting groups trees)
end

mutual
/-- The largest number of nodes on one path from the root. -/
def height : Tree → Nat
  | node _ children => 1 + forestHeight children

def forestHeight : List Tree → Nat
  | [] => 0
  | tree :: trees => max (height tree) (forestHeight trees)
end

end Tree

/-- The tokens are those of an expression that nests no deeper than the limit. -/
def IsExpressionWithin (limit : Nat) (tokens : List Token) : Prop :=
  ∃ tree, Derives .expression tree ∧ tree.yield = tokens ∧ tree.nesting ≤ limit

def IsExpression (tokens : List Token) : Prop :=
  ∃ tree, Derives .expression tree ∧ tree.yield = tokens

/-- The tokens begin some expression that nests no deeper than the limit. -/
def ViableWithin (limit : Nat) (tokens : List Token) : Prop :=
  ∃ rest, IsExpressionWithin limit (tokens ++ rest)

def Viable (tokens : List Token) : Prop :=
  ∃ rest, IsExpression (tokens ++ rest)

end Reckon
