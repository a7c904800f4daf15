import Reckon.Meaning
import Reckon.Proofs.Calculation
import Reckon.Proofs.Items

/-!
Contract: evaluation finds what a tree means.

Evaluation joins the items of all children into one list before it folds them. Every
child contributes exactly one item, so the list holds the meanings of the children, one
for each, and no operand can slip into the place of another.

Owns:
- the items of a tree are its meaning alone;
- an error comes from the first node that has no meaning.

Does not own: which trees have a meaning.
-/

set_option autoImplicit false

namespace Reckon

open Evaluation

namespace Tree

/-! ### One node -/

/-- A pair that does not fit is a fault, whichever half of it does not. -/
theorem joinPairs_eq_foldLinks (precedence : Precedence) (fault : EvalError) (total : Float)
    (meanings : List Item) :
    joinPairs precedence fault total meanings = foldLinks precedence fault total meanings := by
  induction total, meanings using joinPairs.induct with
  | case1 total => rfl
  | case2 total alone => cases alone <;> rfl
  | case3 total link operand others inductionHypothesis =>
      rw [joinPairs]
      cases link with
      | value number => rfl
      | operator operator =>
          by_cases fits : operator.precedence = precedence
          · cases operand with
            | operator other => simp [Item.operatorOr, Item.numberOr, foldLinks, fits]
            | value right =>
                simp only [Item.operatorOr, Item.numberOr, foldLinks_pair, fits,
                  beq_self_eq_true, ↓reduceIte, ok_bind, inductionHypothesis]
          · cases operand <;> simp [Item.operatorOr, foldLinks, fits]

theorem combine_eq_fold (symbol : Symbol) (meanings : List Item) :
    combine symbol (.incompleteSubtree (.inner symbol) meanings.length) meanings =
      fold symbol meanings := by
  cases symbol with
  | factor => rcases meanings with _ | ⟨_ | _, _ | ⟨_, _⟩⟩ <;> rfl
  | negative =>
      rcases meanings with _ | ⟨_ | (_ | _ | _ | _), _ | ⟨_ | _, _ | ⟨_, _⟩⟩⟩ <;> rfl
  | expression =>
      rcases meanings with _ | ⟨number | _, others⟩
      · rfl
      · exact joinPairs_eq_foldLinks .additive _ number others
      · rfl
  | term =>
      rcases meanings with _ | ⟨number | _, others⟩
      · rfl
      · exact joinPairs_eq_foldLinks .multiplicative _ number others
      · rfl

/-! ### The items of a tree -/

theorem length_of_forestMeanings {trees : List Tree} {meanings : List Item}
    (meant : forestMeanings trees = .ok meanings) : meanings.length = trees.length := by
  induction trees generalizing meanings with
  | nil =>
      cases meant
      rfl
  | cons tree trees inductionHypothesis =>
      rw [forestMeanings] at meant
      cases first : tree.meaning with
      | error error =>
          rw [first] at meant
          cases meant
      | ok item =>
          cases behind : forestMeanings trees with
          | error error =>
              rw [first, behind] at meant
              cases meant
          | ok others =>
              rw [first, behind] at meant
              cases meant
              exact congrArg (· + 1) (inductionHypothesis behind)

/-- Trees that contribute one item each contribute their meanings. -/
theorem forestItems_eq_forestMeanings {trees : List Tree}
    (single : ∀ tree ∈ trees, items tree = tree.meaning.map fun item => [item]) :
    forestItems trees = forestMeanings trees := by
  induction trees with
  | nil => rfl
  | cons tree trees inductionHypothesis =>
      obtain ⟨first, others⟩ := List.forall_mem_cons.mp single
      rw [forestItems, forestMeanings, first, inductionHypothesis others]
      cases tree.meaning <;> rfl

/-- Induction on the tree: what a tree contributes is its meaning and nothing more. -/
theorem items_eq_meaning (tree : Tree) :
    items tree = tree.meaning.map fun item => [item] := by
  induction tree with
  | node label children inductionHypothesis =>
      cases label with
      | leaf token =>
          rcases children with _ | ⟨child, others⟩ <;> cases token <;> rfl
      | inner symbol =>
          rw [Evaluation.items, meaning, forestItems_eq_forestMeanings inductionHypothesis]
          cases meant : forestMeanings children with
          | error error => rfl
          | ok meanings =>
              rw [ok_bind, ok_bind, ← length_of_forestMeanings meant, combine_eq_fold]
              cases fold symbol meanings <;> rfl

theorem value_eq_meantValue (tree : Tree) : tree.value = tree.meantValue := by
  rw [Tree.value, meantValue, items_eq_meaning]
  cases tree.meaning with
  | error error => rfl
  | ok item => cases item <;> rfl

/-! ### The origin of an error -/

/-- The result fails with the fault or with a division by zero, if it fails. -/
def FailsBy {α : Type} (fault : EvalError) (result : Except EvalError α) : Prop :=
  ∀ error, result = .error error → error = fault ∨ error = .divisionByZero

namespace FailsBy

variable {α β : Type} {fault : EvalError}

theorem ok (value : α) : FailsBy fault (.ok value) := nofun

theorem fault_self : FailsBy fault (.error fault : Except EvalError α) :=
  fun _ failed => .inl (Except.error.inj failed).symm

theorem bind {first : Except EvalError α} {next : α → Except EvalError β}
    (front : FailsBy fault first) (back : ∀ value, FailsBy fault (next value)) :
    FailsBy fault (first >>= next) := by
  cases first with
  | error error => exact fun found failed => front found (Except.error.inj failed ▸ rfl)
  | ok value => exact back value

theorem numberOr (item : Item) : FailsBy fault (item.numberOr fault) := by
  cases item with
  | value number => exact ok number
  | operator operator => exact fault_self

theorem operatorOr (fits : Operator → Bool) (item : Item) :
    FailsBy fault (item.operatorOr fault fits) := by
  cases item with
  | value number => exact fault_self
  | operator operator =>
      rw [Item.operatorOr]
      split
      · exact ok operator
      · exact fault_self

theorem apply (operator : Operator) (left right : Float) :
    FailsBy fault (operator.apply left right) := by
  rw [Operator.apply_eq]
  split
  · exact fun _ failed => .inr (Except.error.inj failed).symm
  · exact ok _

theorem joinPairs (precedence : Precedence) (total : Float) (meanings : List Item) :
    FailsBy fault (Tree.joinPairs precedence fault total meanings) := by
  induction total, meanings using joinPairs.induct with
  | case1 total => exact ok total
  | case2 total alone => exact fault_self
  | case3 total link operand others inductionHypothesis =>
      rw [Tree.joinPairs]
      apply bind (operatorOr _ link)
      intro operator
      apply bind (numberOr operand)
      intro right
      exact bind (apply operator total right) inductionHypothesis

theorem combine (symbol : Symbol) (meanings : List Item) :
    FailsBy fault (Tree.combine symbol fault meanings) := by
  unfold Tree.combine
  split
  · exact numberOr _
  · apply bind (operatorOr _ _)
    intro _
    exact bind (numberOr _) fun value => ok (-value)
  · exact bind (numberOr _) fun first => joinPairs .additive first _
  · exact bind (numberOr _) fun first => joinPairs .multiplicative first _
  · exact fault_self

theorem token (token : Token) (children : List Tree) :
    FailsBy (.incompleteSubtree (.leaf token) children.length)
      (node (.leaf token) children).meaning := by
  cases children with
  | cons child others => cases token <;> exact fault_self
  | nil =>
      cases token with
      | number value => exact ok _
      | operator operator => exact ok _
      | openParen => exact fault_self
      | closeParen => exact fault_self

/-- A node whose children have a meaning. -/
theorem inner {symbol : Symbol} {children : List Tree} {meanings : List Item}
    (meant : forestMeanings children = .ok meanings) :
    FailsBy (.incompleteSubtree (.inner symbol) children.length)
      (node (.inner symbol) children).meaning := by
  rw [meaning, meant, ok_bind]
  exact bind (combine symbol meanings) fun value => ok (Item.value value)

end FailsBy

/-- The nodes are those visited for the result. Either all of them have a meaning, or the
first without one is where the error comes from. -/
inductive Accounts {α : Type} (nodes : List Tree) : Except EvalError α → Prop where
  | succeeds (value : α) :
      nodes.find? isMeaningless = none → Accounts nodes (.ok value)
  | fails {error : EvalError} (node : Tree) :
      nodes.find? isMeaningless = some node → node.meaning = .error error →
        FailsBy (.incompleteSubtree node.label node.children.length) node.meaning →
          Accounts nodes (.error error : Except EvalError α)

namespace Accounts

variable {α β : Type} {nodes others : List Tree}

theorem bind {first : Except EvalError α} {next : α → Except EvalError β}
    (front : Accounts nodes first)
    (back : ∀ value, first = .ok value → Accounts others (next value)) :
    Accounts (nodes ++ others) (first >>= next) := by
  cases front with
  | fails node found failed origin =>
      refine .fails node ?_ failed origin
      rw [List.find?_append, found, Option.some_or]
  | succeeds value allMeant =>
      rw [ok_bind]
      have behind := back value rfl
      generalize next value = result at behind
      cases behind with
      | succeeds value meant =>
          refine .succeeds value ?_
          rw [List.find?_append, allMeant, meant, Option.none_or]
      | fails node found failed origin =>
          refine .fails node ?_ failed origin
          rw [List.find?_append, allMeant, found, Option.none_or]

/-- A node whose own turn it is. -/
theorem self {tree : Tree}
    (origin : FailsBy (.incompleteSubtree tree.label tree.children.length) tree.meaning) :
    Accounts [tree] tree.meaning := by
  cases meant : tree.meaning with
  | ok item =>
      refine .succeeds item ?_
      simp [isMeaningless, meant, Except.isOk, Except.toBool]
  | error error =>
      refine .fails tree ?_ meant origin
      simp [isMeaningless, meant, Except.isOk, Except.toBool]

theorem forestMeanings {trees : List Tree}
    (each : ∀ tree ∈ trees, Accounts tree.visited tree.meaning) :
    Accounts (forestVisited trees) (Tree.forestMeanings trees) := by
  induction trees with
  | nil => exact .succeeds [] rfl
  | cons tree trees inductionHypothesis =>
      obtain ⟨first, behind⟩ := List.forall_mem_cons.mp each
      rw [forestVisited, Tree.forestMeanings]
      apply first.bind
      intro item _
      have later : Accounts (forestVisited trees ++ [])
          (Tree.forestMeanings trees >>= fun others => .ok (item :: others)) :=
        (inductionHypothesis behind).bind fun others _ => .succeeds (item :: others) rfl
      rwa [List.append_nil] at later

/-- Induction on the tree. Below an inner node the children come first; when they all
have a meaning, it is the turn of the node itself. -/
theorem meaning (tree : Tree) : Accounts tree.visited tree.meaning := by
  induction tree with
  | node label children inductionHypothesis =>
      cases label with
      | leaf token =>
          rw [visited]
          exact self (FailsBy.token token children)
      | inner symbol =>
          rw [visited, Tree.meaning]
          apply (forestMeanings inductionHypothesis).bind
          intro meanings meant
          have own : Accounts [node (.inner symbol) children]
              (node (.inner symbol) children).meaning :=
            self (FailsBy.inner meant)
          rwa [Tree.meaning, meant] at own

end Accounts

theorem meantValue_eq_incompleteSubtree_iff (tree : Tree) (label : Label) (found : Nat) :
    tree.meantValue = .error (.incompleteSubtree label found) ↔
      (∃ node, tree.firstFault? = some node ∧ node.meaning ≠ .error .divisionByZero ∧
          label = node.label ∧ found = node.children.length) ∨
        (∃ operator, tree.meaning = .ok (.operator operator)) ∧
          label = tree.label ∧ found = 1 := by
  have accounts := Accounts.meaning tree
  rw [meantValue, firstFault?]
  cases meant : tree.meaning with
  | ok item =>
      rw [meant] at accounts
      cases accounts with
      | succeeds _ allMeant =>
          rw [allMeant]
          cases item with
          | value number => simp [Item.numberOr]
          | operator operator => simp [Item.numberOr, eq_comm]
  | error error =>
      rw [meant] at accounts
      cases accounts with
      | fails node first failed origin =>
          rw [first]
          rcases origin error failed with rfl | rfl
          · simp [failed, eq_comm]
          · simp [failed]

end Tree

/-- Evaluation gives every tree the number that it means. A tree is refused for its shape
where the first node without a meaning stands, with the number of that node's children, or
for a root that means an operator. -/
theorem outcome_evaluate_eq_meantValue (tree : Tree) :
    (evaluate tree).outcome = tree.meantValue ∧
      ∀ label found,
        (evaluate tree).outcome = .error (.incompleteSubtree label found) ↔
          (∃ node, tree.firstFault? = some node ∧ node.meaning ≠ .error .divisionByZero ∧
              label = node.label ∧ found = node.children.length) ∨
            (∃ operator, tree.meaning = .ok (.operator operator)) ∧
              label = tree.label ∧ found = 1 := by
  rw [outcome_evaluate, Tree.value_eq_meantValue]
  exact ⟨rfl, tree.meantValue_eq_incompleteSubtree_iff⟩

/-- A division by zero hides a sum in a term, if it comes first. -/
example :
    (evaluate (.chain .term (.terminal (.number 1))
      [(.operator .divide, .terminal (.number 0)),
        (.operator .add, .terminal (.number 2))])).outcome = .error .divisionByZero := by
  rfl

end Reckon
