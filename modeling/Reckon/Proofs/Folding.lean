import Reckon.Proofs.Calculation
import Reckon.Proofs.Items
import Reckon.Tree.Occurrence

/-!
Contract: a subtree with a value may be exchanged for this value.

The trees may have any shape. A subtree with a value contributes the value as its only
item, and so does a number. Every node on the way up to the root sees the same items, or
the same number of children, before the exchange and after it.

Owns: the items of a tree with one subtree exchanged, and the outcome of its evaluation.

Does not own: exchanges in lists of tokens.
-/

set_option autoImplicit false

namespace Reckon

open Evaluation

/-- One of the trees is changed, and its items are not. -/
theorem forestItems_modify {trees : List Tree} {index : Nat} {change : Tree → Tree}
    (same : ∀ tree ∈ trees[index]?, items (change tree) = items tree) :
    forestItems (trees.modify index change) = forestItems trees := by
  induction trees generalizing index with
  | nil => rw [List.modify_nil]
  | cons first others inductionHypothesis =>
      cases index with
      | zero =>
          rw [List.modify_zero_cons]
          exact forestItems_cons_congr (same first rfl) rfl
      | succ index =>
          rw [List.modify_succ_cons]
          exact forestItems_cons_congr rfl (inductionHypothesis same)

/-- Induction on the address: what changes is one child of one node at a time. -/
theorem items_replaceAt {tree part other : Tree} {address : List Nat}
    (occurs : tree.subtree? address = some part) (same : items other = items part) :
    items (tree.replaceAt address other) = items tree := by
  induction address generalizing tree with
  | nil =>
      rw [Tree.subtree?, Option.some_inj] at occurs
      rw [Tree.replaceAt, occurs, same]
  | cons index address inductionHypothesis =>
      obtain ⟨label, children⟩ := tree
      rw [Tree.subtree?] at occurs
      rw [Tree.replaceAt]
      cases label with
      | leaf token => exact items_token_congr token (List.length_modify ..)
      | inner symbol =>
          apply items_node_congr symbol
          apply forestItems_modify
          intro child found
          rw [Option.mem_def.mp found, Option.bind_some] at occurs
          exact inductionHypothesis occurs

theorem items_number (value : Float) :
    items (.terminal (.number value)) = .ok [.value value] := rfl

/-- A root that stays keeps its label, and a root that is exchanged has its value. -/
theorem value_replaceAt_number {tree part : Tree} {address : List Nat} {value : Float}
    (occurs : tree.subtree? address = some part) (worth : part.value = .ok value) :
    (tree.replaceAt address (.terminal (.number value))).value = tree.value := by
  have same : items (.terminal (.number value)) = items part := by
    rw [items_number, Tree.value_eq_ok_iff.mp worth]
  cases address with
  | nil =>
      rw [Tree.subtree?, Option.some_inj] at occurs
      rw [Tree.replaceAt, occurs, worth]
      rfl
  | cons index address =>
      obtain ⟨label, children⟩ := tree
      exact Tree.value_congr rfl (items_replaceAt occurs same)

/-- Wherever a subtree with a value stands, the number that is its value may stand in its
place. The whole keeps its value, or the error that it had. -/
theorem outcome_evaluate_replaceAt_number {tree part : Tree} {address : List Nat}
    {value : Float} (occurs : tree.subtree? address = some part)
    (worth : (evaluate part).outcome = .ok value) :
    (evaluate (tree.replaceAt address (.terminal (.number value)))).outcome =
      (evaluate tree).outcome := by
  rw [outcome_evaluate] at worth
  rw [outcome_evaluate, outcome_evaluate]
  exact value_replaceAt_number occurs worth

/-- The exchange below a factor that holds too much leaves the factor as it is. -/
theorem outcome_evaluate_replaceAt_number_misfit :
    let sum : Tree := .chain .expression (.terminal (.number 2))
      [(.operator .add, .terminal (.number 3))]
    let tree : Tree := .negative (.operator .subtract)
      (.node (.inner .factor) [.terminal (.operator .multiply), sum])
    tree.subtree? [1, 1] = some sum ∧ (evaluate sum).outcome = .ok (2 + 3) ∧
      (evaluate (tree.replaceAt [1, 1] (.terminal (.number (2 + 3))))).outcome =
        (evaluate tree).outcome := by
  intro sum tree
  have occurs : tree.subtree? [1, 1] = some sum := rfl
  have worth : (evaluate sum).outcome = .ok (2 + 3) := rfl
  exact ⟨occurs, worth, outcome_evaluate_replaceAt_number occurs worth⟩

end Reckon
