import Reckon.Proofs.Parser.Language
import Reckon.Proofs.Recursion

/-!
Contract: the nesting limit bounds how high a tree is.

From an expression down to a number there are four nodes. A group puts three more between
two factors, for one level of nesting, and a negation puts two. Chains are as wide as their
tokens are many, but no higher for it.

Owns:
- the height of derived trees, told from their nesting;
- the paths of a tree that is found for a list of tokens, and the recursions over it.

Does not own: how many nodes a tree has.
-/

set_option autoImplicit false

namespace Reckon

namespace Tree

/-! ### The height of each builder -/

theorem height_terminal (token : Token) : (terminal token).height = 1 := rfl

theorem height_factor (content : Tree) : (factor content).height = 1 + content.height := by
  simp [factor, height, forestHeight]

theorem height_negative (sign : Token) (operand : Tree) :
    (negative sign operand).height = 1 + operand.height := by
  have positive := operand.height_pos
  simp only [negative, height, forestHeight, height_terminal]
  omega

theorem height_chain_le {symbol : Symbol} {first : Tree} {links : List (Token × Tree)}
    {bound : Nat} (firstBound : first.height ≤ bound)
    (linksBound : ∀ link ∈ links, link.2.height ≤ bound) :
    (chain symbol first links).height ≤ bound + 1 := by
  have positive := first.height_pos
  rw [chain, height_node_le_iff, chainChildren, List.forall_mem_cons, List.forall_mem_flatMap]
  refine ⟨firstBound, fun link member => ?_⟩
  have operand := linksBound link member
  simp only [List.forall_mem_cons, height_terminal]
  exact ⟨by omega, operand, List.forall_mem_nil _⟩

end Tree

/-! ### Derived trees -/

theorem ChainRule.height_le {symbol operand : Symbol} {precedence : Precedence}
    (rule : ChainRule symbol operand precedence) {first : Tree} {links : List (Token × Tree)}
    (firstBound : first.height ≤ 3 * first.nesting + operand.layers + 1)
    (linksBound : ∀ link ∈ links,
      link.2.height ≤ 3 * link.2.nesting + operand.layers + 1) :
    (Tree.chain symbol first links).height ≤
      3 * (Tree.chain symbol first links).nesting + symbol.layers + 1 := by
  obtain ⟨firstNests, linksNest⟩ :=
    (Tree.nesting_chain_le_iff rule.isChain).mp (Nat.le_refl (Tree.chain symbol first links).nesting)
  rw [rule.layers_eq, ← Nat.add_assoc]
  apply Tree.height_chain_le
  · omega
  · intro link member
    have bound := linksBound link member
    have nests := linksNest link member
    omega

/-- Induction on the derivation. A negated group nests twice, and needs the room of both. -/
theorem Derives.height_le {symbol : Symbol} {tree : Tree} (derived : Derives symbol tree) :
    tree.height ≤ 3 * tree.nesting + symbol.layers + 1 := by
  induction derived with
  | number value =>
      rw [Tree.height_factor, Tree.height_terminal, Tree.nesting_number]
      exact Nat.le_refl _
  | group inside bound =>
      rw [Tree.height_factor, Tree.nesting_group inside.isExpression]
      simp only [Symbol.layers] at *
      omega
  | negated content bound =>
      rw [Tree.height_factor, content.nesting_factor]
      simp only [Symbol.layers] at *
      omega
  | negativeNumber value =>
      rw [Tree.height_negative, Tree.nesting_negative, Tree.height_factor, Tree.height_terminal,
        Tree.nesting_number]
      simp only [Symbol.layers]
      omega
  | negativeGroup inside bound =>
      rw [Tree.height_negative, Tree.nesting_negative, Tree.height_factor,
        Tree.nesting_group inside.isExpression]
      simp only [Symbol.layers] at *
      omega
  | term _ _ _ firstBound linksBound => exact ChainRule.term.height_le firstBound linksBound
  | expression _ _ _ firstBound linksBound =>
      exact ChainRule.expression.height_le firstBound linksBound

/-! ### Token lists -/

theorem Tree.height_le_of_ofTokens {settings : Settings} {tokens : List Token} {tree : Tree}
    (parsed : ofTokens settings tokens = .ok tree) :
    tree.height ≤ 3 * settings.nestingLimit + 4 := by
  obtain ⟨derived, -, nests⟩ := derives_of_ofTokens parsed
  have bound : tree.height ≤ 3 * tree.nesting + 4 := derived.height_le
  omega

/-- However many tokens there are, no path of their tree has more nodes than the nesting
limit allows for, and no recursion over the tree has more calls open at a time. -/
theorem paths_bounded_of_ofTokens {settings : Settings} {tokens : List Token} {tree : Tree}
    (parsed : Tree.ofTokens settings tokens = .ok tree) :
    let bound := 3 * settings.nestingLimit + 4
    (∀ address part, tree.subtree? address = some part → address.length + 1 ≤ bound) ∧
      Tree.callWithin Tree.itemsStep bound tree = some (Evaluation.items tree) ∧
      Tree.callWithin Tree.countStep bound tree = some tree.nodeCount ∧
      (Tree.callWithin Tree.dumpStep bound tree).map (· 0) = some tree.dump ∧
      Tree.callWithin Tree.jsonStep bound tree = some tree.toJson := by
  intro bound
  have within : tree.height ≤ bound := Tree.height_le_of_ofTokens parsed
  refine ⟨?_, Tree.callWithin_of_height_le Tree.items_follows within,
    Tree.callWithin_of_height_le Tree.nodeCount_follows within, ?_,
    Tree.callWithin_of_height_le Tree.toJson_follows within⟩
  · intro address part occurs
    have room := Tree.length_add_height_le occurs
    have positive := part.height_pos
    omega
  · rw [Tree.callWithin_of_height_le Tree.dumpFrom_follows within]
    rfl

/-- A negated group, which needs both levels that are allowed. -/
theorem paths_bounded_of_ofTokens_negated_group :
    let tokens : List Token := [.operator .subtract, .openParen, .number 1, .closeParen]
    ∃ tree, Tree.ofTokens ⟨2⟩ tokens = .ok tree ∧ tree.height = 9 ∧
      (∀ address part, tree.subtree? address = some part → address.length + 1 ≤ 10) ∧
      Tree.callWithin Tree.itemsStep 10 tree = some (Evaluation.items tree) ∧
      Tree.callWithin Tree.countStep 10 tree = some tree.nodeCount ∧
      (Tree.callWithin Tree.dumpStep 10 tree).map (· 0) = some tree.dump ∧
      Tree.callWithin Tree.jsonStep 10 tree = some tree.toJson := by
  intro tokens
  have parsed : Tree.ofTokens ⟨2⟩ tokens = .ok (.chain .expression (.chain .term
      (.factor (.negative (.operator .subtract) (.factor (.chain .expression
        (.chain .term (.factor (.terminal (.number 1))) []) [])))) []) []) := by rfl
  exact ⟨_, parsed, rfl, paths_bounded_of_ofTokens parsed⟩

end Reckon
