import Reckon.Proofs.Parser.Acceptance

/-!
Contract: the token lists that have a tree, and the tree that they have.

Owns:
- success on a whole token list is derivation of a tree with exactly these tokens;
- a token list has at most one tree.

Does not own: what is answered for a token list without a tree.
-/

set_option autoImplicit false

namespace Reckon

namespace Parser

variable {settings : Settings} {tokens : List Token} {tree : Tree}

theorem expression_initial_eq_ok_iff {after : State} :
    expression (State.initial settings tokens) = .ok tree after ↔
      Accepts .expression (State.initial settings tokens) tree after :=
  exact_expressionWithin tokens.length (State.initial settings tokens) tree after
    (Nat.le_refl _) (Nat.zero_le _)

end Parser

namespace Tree

open Reckon.Parser

variable {settings : Settings} {tokens : List Token} {tree : Tree}

theorem ofTokens_eq_ok_iff_accepts :
    ofTokens settings tokens = .ok tree ↔
      ∃ after, Accepts .expression (State.initial settings tokens) tree after ∧
        after.cursor.current? = none := by
  rw [ofTokens_eq_ok_iff_whole]
  cases tokens with
  | nil =>
      constructor
      · intro parts
        obtain ⟨after, read⟩ := parts
        cases read
      · intro parts
        obtain ⟨after, accepted, -⟩ := parts
        exact absurd accepted not_accepts_ended
  | cons token tokens =>
      have notEmpty : (State.initial settings (token :: tokens)).cursor.current? ≠ none :=
        nofun
      simp only [whole_eq_ok_iff notEmpty, expression_initial_eq_ok_iff]

theorem derives_of_ofTokens (parsed : ofTokens settings tokens = .ok tree) :
    Derives .expression tree ∧ tree.yield = tokens ∧ tree.nesting ≤ settings.nestingLimit := by
  obtain ⟨after, accepted, ended⟩ := ofTokens_eq_ok_iff_accepts.mp parsed
  refine ⟨accepted.derives, ?_, ?_⟩
  · have nothingAhead : after.cursor.ahead = [] := List.head?_eq_none_iff.mp ended
    have aheadEq : tokens = tree.yield ++ after.cursor.ahead := accepted.reads.ahead_eq
    rw [aheadEq, nothingAhead, List.append_nil]
  · have nests : 0 + tree.nesting ≤ settings.nestingLimit := accepted.nests
    omega

theorem ofTokens_yield (derived : Derives .expression tree)
    (withinLimit : tree.nesting ≤ settings.nestingLimit) :
    ofTokens settings tree.yield = .ok tree := by
  refine ofTokens_eq_ok_iff_accepts.mpr
    ⟨⟨⟨tree.yield.reverse ++ [], []⟩, settings.nestingLimit, 0⟩, ⟨derived, ?_, ?_, ?_⟩, rfl⟩
  · exact ⟨(List.append_nil _).symm, rfl, rfl, rfl⟩
  · exact Nat.le_trans (Nat.le_of_eq (Nat.zero_add _)) withinLimit
  · exact ⟨not_offers_none, not_offers_none⟩

/-- Success is derivation: a tree is found exactly when the grammar derives it, its
tokens are all the tokens, and its nesting is allowed. -/
theorem ofTokens_eq_ok_iff (settings : Settings) (tokens : List Token) (tree : Tree) :
    ofTokens settings tokens = .ok tree ↔
      Derives .expression tree ∧ tree.yield = tokens ∧
        tree.nesting ≤ settings.nestingLimit := by
  constructor
  · exact derives_of_ofTokens
  · intro parts
    obtain ⟨derived, rfl, withinLimit⟩ := parts
    exact ofTokens_yield derived withinLimit

end Tree

/-- The grammar is unambiguous. -/
theorem Derives.eq_of_yield_eq {left right : Tree} (leftDerived : Derives .expression left)
    (rightDerived : Derives .expression right) (same : left.yield = right.yield) :
    left = right := by
  let settings : Settings := ⟨max left.nesting right.nesting⟩
  have leftParsed : Tree.ofTokens settings left.yield = .ok left :=
    Tree.ofTokens_yield leftDerived (Nat.le_max_left _ _)
  have rightParsed : Tree.ofTokens settings right.yield = .ok right :=
    Tree.ofTokens_yield rightDerived (Nat.le_max_right _ _)
  rw [same, rightParsed] at leftParsed
  exact (Except.ok.inj leftParsed).symm

end Reckon
