import Reckon.Grammar
import Reckon.Proofs.Items
import Reckon.Proofs.Json.Reload
import Reckon.Tree.Occurrence
import Reckon.Tree.Recursion

/-!
Contract: calls of a recursion over a tree nest as deep as the tree is high.

Owns:
- the height of a tree, told from its children and from its paths;
- the result of a recursion that is allowed as many nested calls;
- counting, collecting items, dumping and writing as JSON are such recursions.

Does not own: how high the trees of the grammar are.
-/

set_option autoImplicit false

namespace Reckon

namespace Tree

/-! ### Heights -/

theorem forestHeight_le_iff {trees : List Tree} {bound : Nat} :
    forestHeight trees ≤ bound ↔ ∀ tree ∈ trees, tree.height ≤ bound := by
  induction trees with
  | nil => simp [forestHeight]
  | cons tree trees inductionHypothesis =>
      rw [forestHeight, Nat.max_le, inductionHypothesis, List.forall_mem_cons]

theorem height_node_le_iff {label : Label} {children : List Tree} {bound : Nat} :
    (node label children).height ≤ bound + 1 ↔ ∀ child ∈ children, child.height ≤ bound := by
  rw [height, ← forestHeight_le_iff]
  omega

theorem height_pos (tree : Tree) : 0 < tree.height := by
  cases tree with
  | node label children =>
      rw [height]
      omega

/-- A path to a subtree leaves room for the height of the subtree. -/
theorem length_add_height_le {address : List Nat} {tree part : Tree}
    (occurs : tree.subtree? address = some part) :
    address.length + part.height ≤ tree.height := by
  induction address generalizing tree with
  | nil =>
      rw [subtree?, Option.some_inj] at occurs
      rw [occurs, List.length_nil]
      omega
  | cons index address inductionHypothesis =>
      obtain ⟨label, children⟩ := tree
      rw [subtree?] at occurs
      obtain ⟨child, found, occursBelow⟩ := Option.bind_eq_some_iff.mp occurs
      have below := inductionHypothesis occursBelow
      have childHeight : child.height ≤ forestHeight children :=
        forestHeight_le_iff.mp (Nat.le_refl _) child (List.mem_of_getElem? found)
      rw [height, List.length_cons]
      omega

/-! ### Recursions -/

section Recursions

variable {α : Type} {step : Step α} {result : Tree → α}

/-- A recursion comes to its result if its calls may nest as deep as the tree is high. -/
theorem callWithin_of_height_le
    (follows : ∀ label children,
      result (node label children) = step label (children.map result))
    {bound : Nat} {tree : Tree} (within : tree.height ≤ bound) :
    callWithin step bound tree = some (result tree) := by
  induction bound generalizing tree with
  | zero =>
      have positive := tree.height_pos
      omega
  | succ bound inductionHypothesis =>
      obtain ⟨label, children⟩ := tree
      have below : children.mapM (callWithin step bound) = some (children.map result) := by
        have childrenWithin := height_node_le_iff.mp within
        clear within
        induction children with
        | nil => rfl
        | cons child children others =>
            obtain ⟨childWithin, othersWithin⟩ := List.forall_mem_cons.mp childrenWithin
            rw [List.mapM_cons, inductionHypothesis childWithin, others othersWithin]
            rfl
      rw [callWithin, below, Option.map_some, follows]

end Recursions

theorem nodeCount_follows (label : Label) (children : List Tree) :
    nodeCount (node label children) = countStep label (children.map nodeCount) := by
  have forest (trees : List Tree) :
      forestCount trees = (trees.map nodeCount).foldr (· + ·) 0 := by
    induction trees with
    | nil => rfl
    | cons tree trees inductionHypothesis =>
        rw [forestCount, inductionHypothesis, List.map_cons, List.foldr_cons]
  rw [nodeCount, forest, countStep]

theorem items_follows (label : Label) (children : List Tree) :
    Evaluation.items (node label children) =
      itemsStep label (children.map Evaluation.items) := by
  have forest (trees : List Tree) : Evaluation.forestItems trees =
      ((trees.map Evaluation.items).mapM id).map List.flatten := by
    induction trees with
    | nil => rfl
    | cons tree trees inductionHypothesis =>
        rw [Evaluation.forestItems, inductionHypothesis, List.map_cons, List.mapM_cons]
        cases Evaluation.items tree with
        | error error => rfl
        | ok front => cases (trees.map Evaluation.items).mapM id <;> rfl
  cases label with
  | leaf token =>
      cases children with
      | nil => cases token <;> rfl
      | cons child children =>
          have length : (children.map Evaluation.items).length = children.length :=
            List.length_map _
          rw [Evaluation.items, tokenItem_cons, ← length]
          cases token <;> rfl
  | inner symbol =>
      rw [Evaluation.items, forest, itemsStep]
      cases (children.map Evaluation.items).mapM id <;> rfl

/-- The dump of a tree that stands below others. -/
def dumpFrom (tree : Tree) (depth : Nat) : String :=
  String.join ((preorderAt depth tree).map fun entry => dumpLine entry.1 entry.2.label)

theorem dumpFrom_follows (label : Label) (children : List Tree) :
    dumpFrom (node label children) = dumpStep label (children.map dumpFrom) := by
  funext depth
  apply String.toList_injective
  simp [dumpFrom, dumpStep, preorderAt, forestPreorderAt_eq_flatMap, String.toList_join,
    List.map_flatMap, List.flatMap_assoc, List.flatMap_map, Tree.label]

theorem toJson_follows (label : Label) (children : List Tree) :
    toJson (node label children) = jsonStep label (children.map toJson) := by
  rw [toJson, forestToJson_eq_map, jsonStep]

end Tree

end Reckon
