import Reckon.Grammar

/-!
Contract: the tokens and the nesting of the trees that the grammar derives.

Owns:
- one equation for the yield and the nesting of each builder;
- the layers of each symbol;
- the rule that terms and expressions have in common.

Does not own: how a tree is found for a list of tokens.
-/

set_option autoImplicit false

namespace Reckon

/-- What the grammar sees of an operator of the given precedence. -/
def Precedence.kind : Precedence → Token.Kind
  | additive => .additive
  | multiplicative => .multiplicative

theorem Token.kind_operator (operator : Operator) :
    (Token.operator operator).kind = operator.precedence.kind := by
  cases operator <;> rfl

theorem Token.kind_eq_precedence_kind_iff {token : Token} {precedence : Precedence} :
    token.kind = precedence.kind ↔
      ∃ operator, token = .operator operator ∧ operator.precedence = precedence := by
  constructor
  · intro same
    cases token with
    | operator operator =>
        refine ⟨operator, rfl, ?_⟩
        rw [kind_operator] at same
        revert same
        cases operator.precedence <;> cases precedence <;> simp [Precedence.kind]
    | _ => cases precedence <;> simp [kind, Precedence.kind] at same
  · intro parts
    obtain ⟨operator, rfl, rfl⟩ := parts
    exact kind_operator operator

/-- The nodes of a tree of the symbol above the number, the group or the negation that it
starts with. -/
def Symbol.layers : Symbol → Nat
  | expression => 3
  | term => 2
  | factor => 1
  | negative => 0

namespace Tree

/-! ### The tokens of each builder -/

/-- The tokens of the operators of a chain and of the operands after them. -/
def linksYield (links : List (Token × Tree)) : List Token :=
  links.flatMap fun link => link.1 :: link.2.yield

@[simp] theorem linksYield_nil : linksYield [] = [] := rfl

@[simp] theorem linksYield_cons (link : Token × Tree) (links : List (Token × Tree)) :
    linksYield (link :: links) = link.1 :: (link.2.yield ++ linksYield links) := by
  simp [linksYield]

theorem linksYield_append (left right : List (Token × Tree)) :
    linksYield (left ++ right) = linksYield left ++ linksYield right :=
  List.flatMap_append

@[simp] theorem yield_terminal (token : Token) : (terminal token).yield = [token] := by
  simp [terminal, yield, forestYield]

theorem yield_number (value : Float) :
    (factor (terminal (.number value))).yield = [.number value] := by
  simp [factor, yield, forestYield, terminal, isExpression, label]

theorem yield_group {inside : Tree} (isGroup : inside.isExpression = true) :
    (factor inside).yield = .openParen :: (inside.yield ++ [.closeParen]) := by
  simp [factor, yield, forestYield, isGroup]

theorem yield_negated (sign : Token) (operand : Tree) :
    (factor (negative sign operand)).yield = (negative sign operand).yield := by
  simp [factor, negative, yield, forestYield, isExpression, label]

theorem yield_negative (sign : Token) (operand : Tree) :
    (negative sign operand).yield = sign :: operand.yield := by
  simp [negative, yield, forestYield]

theorem forestYield_links (links : List (Token × Tree)) :
    forestYield false (links.flatMap fun link => [terminal link.1, link.2]) =
      linksYield links := by
  induction links with
  | nil => rfl
  | cons link links inductionHypothesis =>
      simp [forestYield, inductionHypothesis]

theorem yield_chain {symbol : Symbol} (notFactor : symbol ≠ .factor) (first : Tree)
    (links : List (Token × Tree)) :
    (chain symbol first links).yield = first.yield ++ linksYield links := by
  have plain : (symbol == .factor) = false := by simpa using notFactor
  simp [chain, chainChildren, yield, plain, forestYield, forestYield_links]

/-! ### The nesting of each builder -/

@[simp] theorem nesting_terminal (token : Token) : (terminal token).nesting = 0 := by
  simp [terminal, nesting, forestNesting]

theorem nesting_number (value : Float) :
    (factor (terminal (.number value))).nesting = 0 := by
  simp [factor, nesting, forestNesting, isExpression, label, terminal]

theorem nesting_group {inside : Tree} (isGroup : inside.isExpression = true) :
    (factor inside).nesting = inside.nesting + 1 := by
  simp [factor, nesting, forestNesting, isGroup, Nat.add_comm]

theorem nesting_negated (sign : Token) (operand : Tree) :
    (factor (negative sign operand)).nesting = (negative sign operand).nesting := by
  simp [factor, negative, nesting, forestNesting, isExpression, label]

theorem nesting_negative (sign : Token) (operand : Tree) :
    (negative sign operand).nesting = operand.nesting + 1 := by
  simp [negative, nesting, forestNesting, Nat.add_comm]

theorem forestNesting_append (groups : Bool) (left right : List Tree) :
    forestNesting groups (left ++ right) =
      max (forestNesting groups left) (forestNesting groups right) := by
  induction left with
  | nil => simp [forestNesting]
  | cons tree left inductionHypothesis =>
      simp [forestNesting, inductionHypothesis, Nat.max_assoc]

theorem nesting_chain {symbol : Symbol} (isChain : symbol ≠ .factor ∧ symbol ≠ .negative)
    (first : Tree) (links : List (Token × Tree)) :
    (chain symbol first links).nesting =
      forestNesting false (chainChildren first links) := by
  have plain : (symbol == .factor) = false := by simpa using isChain.1
  simp [chain, nesting, plain, isChain.2]

theorem forestNesting_links_le_iff {links : List (Token × Tree)} {bound : Nat} :
    forestNesting false (links.flatMap fun link => [terminal link.1, link.2]) ≤ bound ↔
      ∀ link ∈ links, link.2.nesting ≤ bound := by
  induction links with
  | nil => simp [forestNesting]
  | cons link links inductionHypothesis =>
      rw [List.forall_mem_cons, ← inductionHypothesis, List.flatMap_cons,
        forestNesting_append, Nat.max_le]
      simp [forestNesting]

theorem nesting_chain_le_iff {symbol : Symbol}
    (isChain : symbol ≠ .factor ∧ symbol ≠ .negative) {first : Tree}
    {links : List (Token × Tree)} {bound : Nat} :
    (chain symbol first links).nesting ≤ bound ↔
      first.nesting ≤ bound ∧ ∀ link ∈ links, link.2.nesting ≤ bound := by
  have parts : forestNesting false (chainChildren first links) =
      max first.nesting
        (forestNesting false (links.flatMap fun link => [terminal link.1, link.2])) := by
    simp [chainChildren, forestNesting]
  rw [nesting_chain isChain, ← forestNesting_links_le_iff, parts, Nat.max_le]

theorem nesting_chain_append {symbol : Symbol}
    (isChain : symbol ≠ .factor ∧ symbol ≠ .negative) (first : Tree)
    (links : List (Token × Tree)) (link : Token × Tree) :
    (chain symbol first (links ++ [link])).nesting =
      max (chain symbol first links).nesting link.2.nesting := by
  rw [nesting_chain isChain, nesting_chain isChain]
  have split : chainChildren first (links ++ [link]) =
      chainChildren first links ++ [terminal link.1, link.2] := by
    simp [chainChildren]
  rw [split, forestNesting_append]
  simp [forestNesting]

end Tree

/-! ### Chains -/

/-- The trees of the first symbol are chains of trees of the second one, joined by
operators of the given precedence. -/
inductive ChainRule : Symbol → Symbol → Precedence → Prop where
  | term : ChainRule .term .factor .multiplicative
  | expression : ChainRule .expression .term .additive

namespace ChainRule

variable {symbol operand : Symbol} {precedence : Precedence}

theorem isChain (rule : ChainRule symbol operand precedence) :
    symbol ≠ .factor ∧ symbol ≠ .negative := by
  cases rule <;> simp

theorem layers_eq (rule : ChainRule symbol operand precedence) :
    symbol.layers = operand.layers + 1 := by
  cases rule <;> rfl

theorem derives {first : Tree} {links : List (Token × Tree)}
    (rule : ChainRule symbol operand precedence) (firstDerived : Derives operand first)
    (operators : ∀ link ∈ links, link.1.kind = precedence.kind)
    (operands : ∀ link ∈ links, Derives operand link.2) :
    Derives symbol (.chain symbol first links) := by
  cases rule with
  | term => exact .term firstDerived operators operands
  | expression => exact .expression firstDerived operators operands

theorem exists_chain {tree : Tree} (rule : ChainRule symbol operand precedence)
    (derived : Derives symbol tree) :
    ∃ first links, tree = .chain symbol first links ∧ Derives operand first ∧
      (∀ link ∈ links, link.1.kind = precedence.kind) ∧
        ∀ link ∈ links, Derives operand link.2 := by
  cases rule with
  | term =>
      cases derived with
      | term first operators operands => exact ⟨_, _, rfl, first, operators, operands⟩
  | expression =>
      cases derived with
      | expression first operators operands =>
          exact ⟨_, _, rfl, first, operators, operands⟩

end ChainRule

namespace Derives

theorem isExpression {tree : Tree} (derived : Derives .expression tree) :
    tree.isExpression = true := by
  cases derived
  rfl

/-- A negation is no group, so it stands in a factor without parentheses. -/
theorem yield_factor {content : Tree} (derived : Derives .negative content) :
    (Tree.factor content).yield = content.yield := by
  cases derived <;> exact Tree.yield_negated _ _

theorem nesting_factor {content : Tree} (derived : Derives .negative content) :
    (Tree.factor content).nesting = content.nesting := by
  cases derived <;> exact Tree.nesting_negated _ _

/-- No tree of the grammar is without tokens. -/
theorem yield_ne_nil {symbol : Symbol} {tree : Tree} (derived : Derives symbol tree) :
    tree.yield ≠ [] := by
  induction derived with
  | number value => simp [Tree.yield_number]
  | group inside => simp [Tree.yield_group inside.isExpression]
  | negated content contentNotNil =>
      cases content <;> simp [Tree.yield_negated, Tree.yield_negative]
  | negativeNumber value => simp [Tree.yield_negative]
  | negativeGroup inside => simp [Tree.yield_negative]
  | term first operators operands firstNotNil =>
      simp [Tree.yield_chain, firstNotNil]
  | expression first operators operands firstNotNil =>
      simp [Tree.yield_chain, firstNotNil]

end Derives

end Reckon
