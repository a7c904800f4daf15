import Reckon.Evaluation
import Reckon.Proofs.Outcome

/-!
Contract: the items of trees.

Owns:
- a tree with a value has this value as its only item;
- what a node sees of its children are their items, or how many they are;
- a pair of operator and operand as a step of a chain.

Does not own: what the items of a tree are.
-/

set_option autoImplicit false

namespace Reckon

open Evaluation

variable {left right : Tree} {lefts rights : List Tree}

/-! ### Values -/

theorem Tree.value_congr (sameLabel : left.label = right.label)
    (sameItems : items left = items right) : left.value = right.value := by
  rw [Tree.value, Tree.value, sameLabel, sameItems]

theorem Tree.value_eq_ok_iff {tree : Tree} {value : Float} :
    tree.value = .ok value ↔ items tree = .ok [.value value] := by
  rw [Tree.value]
  cases items tree with
  | error error => simp
  | ok found =>
      rw [ok_bind]
      rcases found with _ | ⟨number | operator, _ | ⟨second, others⟩⟩ <;> simp [pure, Except.pure]

/-! ### Nodes -/

theorem forestItems_cons_congr (sameFront : items left = items right)
    (sameBack : forestItems lefts = forestItems rights) :
    forestItems (left :: lefts) = forestItems (right :: rights) := by
  rw [forestItems, forestItems, sameFront, sameBack]

/-- An inner node sees nothing of its children but their items. -/
theorem items_node_congr (symbol : Symbol) (same : forestItems lefts = forestItems rights) :
    items (.node (.inner symbol) lefts) = items (.node (.inner symbol) rights) := by
  rw [Evaluation.items, Evaluation.items, same]

theorem tokenItem_cons (token : Token) (first : Tree) (others : List Tree) :
    tokenItem token (first :: others) =
      .error (.incompleteSubtree (.leaf token) (others.length + 1)) := by
  cases token <;> rfl

/-- A token sees nothing of its children but their number. -/
theorem items_token_congr (token : Token) (same : lefts.length = rights.length) :
    items (.node (.leaf token) lefts) = items (.node (.leaf token) rights) := by
  rw [Evaluation.items, Evaluation.items]
  cases lefts with
  | nil => rw [List.length_eq_zero_iff.mp same.symm]
  | cons left lefts =>
      cases rights with
      | nil => cases same
      | cons right rights =>
          rw [tokenItem_cons, tokenItem_cons, Nat.succ.inj same]

/-! ### Chains -/

theorem foldLinks_pair (precedence : Precedence) (misfit : EvalError) (total right : Float)
    (operator : Operator) (items : List Item) :
    foldLinks precedence misfit total (.operator operator :: .value right :: items) =
      if operator.precedence = precedence then
        operator.apply total right >>= fun joined => foldLinks precedence misfit joined items
      else .error misfit := by
  rw [foldLinks]
  cases operator.apply total right <;> rfl

end Reckon
