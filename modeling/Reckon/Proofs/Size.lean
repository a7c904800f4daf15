import Reckon.Proofs.Parser.Language

/-!
Contract: the number of nodes of a tree that is found for a list of tokens.

A number is one node. An operator is a node, and in a chain the operand after it adds the
nodes between it and its own factor; a minus sign before an operand adds as many. A group
adds the same layers for its opening parenthesis. So a tree has the nodes that its tokens
bring, and those of the layers at its top.

Owns:
- the nodes that each kind of token brings;
- the number of nodes of derived trees, and of the tree of a token list.

Does not own: how high a tree is.
-/

set_option autoImplicit false

namespace Reckon

/-! ### Counting tokens -/

namespace Token

theorem count_cons (kind : Kind) (token : Token) (tokens : List Token) :
    count kind (token :: tokens) = count kind tokens + if token.kind = kind then 1 else 0 := by
  simp [count, List.countP_cons]

theorem count_append (kind : Kind) (left right : List Token) :
    count kind (left ++ right) = count kind left + count kind right :=
  List.countP_append

theorem length_eq_counts (tokens : List Token) :
    tokens.length = count .number tokens + count .additive tokens +
      count .multiplicative tokens + count .openParen tokens + count .closeParen tokens := by
  induction tokens with
  | nil => rfl
  | cons token tokens inductionHypothesis =>
      simp only [count_cons, List.length_cons]
      cases token.kind <;> simp <;> omega

/-- The nodes that a token brings to a tree. -/
def Kind.nodes : Kind → Nat
  | number => 1
  | additive => 3
  | multiplicative => 2
  | openParen => 3
  | closeParen => 0

/-- The nodes that all the tokens bring. -/
def nodes : List Token → Nat
  | [] => 0
  | token :: tokens => token.kind.nodes + nodes tokens

@[simp] theorem nodes_nil : nodes [] = 0 := rfl

@[simp] theorem nodes_cons (token : Token) (tokens : List Token) :
    nodes (token :: tokens) = token.kind.nodes + nodes tokens := rfl

@[simp] theorem nodes_append (left right : List Token) :
    nodes (left ++ right) = nodes left + nodes right := by
  induction left with
  | nil => simp
  | cons token left inductionHypothesis =>
      rw [List.cons_append, nodes_cons, nodes_cons, inductionHypothesis, Nat.add_assoc]

theorem nodes_eq_counts (tokens : List Token) :
    nodes tokens = count .number tokens + 3 * count .additive tokens +
      2 * count .multiplicative tokens + 3 * count .openParen tokens := by
  induction tokens with
  | nil => rfl
  | cons token tokens inductionHypothesis =>
      simp only [count_cons, nodes_cons]
      cases token.kind <;> simp [Kind.nodes] <;> omega

end Token

/-! ### The nodes of each builder -/

namespace Tree

@[simp] theorem nodeCount_terminal (token : Token) : (terminal token).nodeCount = 1 := by
  simp [terminal, nodeCount, forestCount]

theorem nodeCount_factor (content : Tree) :
    (factor content).nodeCount = 1 + content.nodeCount := by
  simp [factor, nodeCount, forestCount]

theorem nodeCount_negative (sign : Token) (operand : Tree) :
    (negative sign operand).nodeCount = 2 + operand.nodeCount := by
  simp [negative, nodeCount, forestCount]
  omega

/-- The operators of a chain and the operands after them. -/
def linksCount (links : List (Token × Tree)) : Nat :=
  forestCount (links.flatMap fun link => [terminal link.1, link.2])

theorem nodeCount_chain (symbol : Symbol) (first : Tree) (links : List (Token × Tree)) :
    (chain symbol first links).nodeCount = 1 + first.nodeCount + linksCount links := by
  simp [chain, chainChildren, nodeCount, forestCount, linksCount, Nat.add_assoc]

theorem linksCount_cons (link : Token × Tree) (links : List (Token × Tree)) :
    linksCount (link :: links) = 1 + link.2.nodeCount + linksCount links := by
  simp [linksCount, forestCount, Nat.add_assoc]

end Tree

/-! ### Derived trees -/

namespace ChainRule

variable {symbol operand : Symbol} {precedence : Precedence}

/-- An operator brings itself and the layers of the operand after it. -/
theorem nodes_kind (rule : ChainRule symbol operand precedence) :
    precedence.kind.nodes = 1 + operand.layers := by
  cases rule <;> rfl

theorem linksCount_eq (rule : ChainRule symbol operand precedence)
    {links : List (Token × Tree)}
    (operators : ∀ link ∈ links, link.1.kind = precedence.kind)
    (counted : ∀ link ∈ links, link.2.nodeCount = operand.layers + Token.nodes link.2.yield) :
    Tree.linksCount links = Token.nodes (Tree.linksYield links) := by
  induction links with
  | nil => rfl
  | cons link links inductionHypothesis =>
      obtain ⟨operator, otherOperators⟩ := List.forall_mem_cons.mp operators
      obtain ⟨linkCounted, othersCounted⟩ := List.forall_mem_cons.mp counted
      have others := inductionHypothesis otherOperators othersCounted
      rw [Tree.linksCount_cons, Tree.linksYield_cons, Token.nodes_cons, Token.nodes_append,
        operator, rule.nodes_kind, linkCounted, others]
      omega

theorem nodeCount_eq (rule : ChainRule symbol operand precedence) {first : Tree}
    {links : List (Token × Tree)}
    (operators : ∀ link ∈ links, link.1.kind = precedence.kind)
    (firstCounted : first.nodeCount = operand.layers + Token.nodes first.yield)
    (linksCounted : ∀ link ∈ links,
      link.2.nodeCount = operand.layers + Token.nodes link.2.yield) :
    (Tree.chain symbol first links).nodeCount =
      symbol.layers + Token.nodes (Tree.chain symbol first links).yield := by
  rw [Tree.nodeCount_chain, firstCounted, rule.linksCount_eq operators linksCounted,
    Tree.yield_chain rule.isChain.1, Token.nodes_append, rule.layers_eq]
  omega

end ChainRule

namespace Derives

variable {symbol : Symbol} {tree : Tree}

/-- Induction on the derivation: each rule adds a layer or brings a token with its nodes. -/
theorem nodeCount_eq (derived : Derives symbol tree) :
    tree.nodeCount = symbol.layers + Token.nodes tree.yield := by
  induction derived with
  | number value =>
      rw [Tree.nodeCount_factor, Tree.nodeCount_terminal, Tree.yield_number]
      rfl
  | group inside counted =>
      rw [Tree.nodeCount_factor, counted, Tree.yield_group inside.isExpression]
      simp [Token.kind, Token.Kind.nodes, Symbol.layers]
  | negated content counted =>
      rw [Tree.nodeCount_factor, counted, content.yield_factor]
      simp [Symbol.layers]
  | negativeNumber value =>
      rw [Tree.nodeCount_negative, Tree.nodeCount_factor, Tree.nodeCount_terminal,
        Tree.yield_negative, Tree.yield_number]
      rfl
  | negativeGroup inside counted =>
      rw [Tree.nodeCount_negative, Tree.nodeCount_factor, counted, Tree.yield_negative,
        Tree.yield_group inside.isExpression]
      simp [Token.kind, Operator.precedence, Token.Kind.nodes, Symbol.layers]
      omega
  | term _ operators _ firstCounted linksCounted =>
      exact ChainRule.term.nodeCount_eq operators firstCounted linksCounted
  | expression _ operators _ firstCounted linksCounted =>
      exact ChainRule.expression.nodeCount_eq operators firstCounted linksCounted

/-- Every path that takes the first operand, or the content of a group, ends in a number. -/
theorem count_number_pos (derived : Derives symbol tree) :
    0 < Token.count .number tree.yield := by
  induction derived with
  | number value => simp [Tree.yield_number, Token.count_cons, Token.kind]
  | group inside positive =>
      rw [Tree.yield_group inside.isExpression, Token.count_cons, Token.count_append]
      omega
  | negated content positive => rwa [content.yield_factor]
  | negativeNumber value =>
      rw [Tree.yield_negative, Tree.yield_number]
      exact Nat.zero_lt_one
  | negativeGroup inside positive =>
      rw [Tree.yield_negative, Tree.yield_group inside.isExpression, Token.count_cons,
        Token.count_cons, Token.count_append]
      omega
  | term _ _ _ positive _ =>
      rw [Tree.yield_chain (by decide), Token.count_append]
      omega
  | expression _ _ _ positive _ =>
      rw [Tree.yield_chain (by decide), Token.count_append]
      omega

end Derives

/-! ### Token lists -/

/-- The tokens decide how many nodes the tree has, and a tree has at most three for each
token and one more. -/
theorem nodeCount_ofTokens {settings : Settings} {tokens : List Token} {tree : Tree}
    (parsed : Tree.ofTokens settings tokens = .ok tree) :
    tree.nodeCount = 3 + Token.count .number tokens + 3 * Token.count .additive tokens +
        2 * Token.count .multiplicative tokens + 3 * Token.count .openParen tokens ∧
      tree.nodeCount ≤ 3 * tokens.length + 1 := by
  obtain ⟨derived, rfl, -⟩ := Tree.derives_of_ofTokens parsed
  have counted : tree.nodeCount = 3 + Token.nodes tree.yield := derived.nodeCount_eq
  have nodes := Token.nodes_eq_counts tree.yield
  have length := Token.length_eq_counts tree.yield
  have someNumber := derived.count_number_pos
  constructor <;> omega

/-- A minus sign before a group, and another one between two operands. -/
theorem nodeCount_ofTokens_negated_group :
    let tokens : List Token := [.operator .subtract, .openParen, .number 8, .operator .subtract,
      .number 3, .closeParen, .operator .divide, .number 2]
    ∃ tree, Tree.ofTokens {} tokens = .ok tree ∧
      tree.nodeCount = 3 + 3 + 3 * 2 + 2 * 1 + 3 * 1 ∧ tree.nodeCount ≤ 3 * 8 + 1 := by
  intro tokens
  have parsed : Tree.ofTokens {} tokens = .ok (.chain .expression (.chain .term
      (.factor (.negative (.operator .subtract) (.factor (.chain .expression
        (.chain .term (.factor (.terminal (.number 8))) [])
        [(.operator .subtract, .chain .term (.factor (.terminal (.number 3))) [])]))))
      [(.operator .divide, .factor (.terminal (.number 2)))]) []) := by rfl
  exact ⟨_, parsed, nodeCount_ofTokens parsed⟩

end Reckon
