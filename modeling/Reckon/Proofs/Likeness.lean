import Mathlib.Data.List.Forall2
import Mathlib.Data.List.Induction
import Reckon.Likeness
import Reckon.Proofs.Binary64.Agreement
import Reckon.Proofs.Calculation
import Reckon.Proofs.Items

/-!
Contract: alike trees evaluate alike.

Alike trees may hold zeros of opposite signs, and a quotient by such a zero would tell them
apart. Every zero divisor is refused before the division, so all values stay in agreement
on the way up, and both evaluations stop at corresponding nodes.

Owns:
- items that are alike, and the folding of such items;
- the outcomes of alike trees.

Does not own: agreement of doubles under arithmetic.
-/

set_option autoImplicit false

namespace Reckon

open Evaluation
open Binary64 (Agree)

/-- The same operator, or numbers that agree. -/
inductive Item.Alike : Item → Item → Prop where
  | value {left right : Float} : Agree left right → Alike (.value left) (.value right)
  | operator (operator : Operator) : Alike (.operator operator) (.operator operator)

/-! ### Results in sequence -/

theorem AlikeOutcome.bind {α β : Type} {related : α → α → Prop} {relatedNext : β → β → Prop}
    {left right : Except EvalError α} {leftNext rightNext : α → Except EvalError β}
    (front : AlikeOutcome related left right)
    (back : ∀ leftValue rightValue, related leftValue rightValue →
      AlikeOutcome relatedNext (leftNext leftValue) (rightNext rightValue)) :
    AlikeOutcome relatedNext (left >>= leftNext) (right >>= rightNext) := by
  cases front with
  | ok values => exact back _ _ values
  | error errors => exact .error errors

/-! ### Items -/

section Items

variable {lefts rights : List Item}

/-- Divisors that agree are both refused or both not zero. -/
theorem alikeOutcome_apply (operator : Operator) {left left' right right' : Float}
    (first : Agree left left') (second : Agree right right') :
    AlikeOutcome Agree (operator.apply left right) (operator.apply left' right') := by
  cases operator with
  | add => exact .ok (first.add second)
  | subtract => exact .ok (first.sub second)
  | multiply => exact .ok (first.mul second)
  | divide =>
      rw [Operator.apply, Operator.apply, ← second.beq_zero]
      by_cases zero : (right == 0) = true
      · rw [if_pos zero, if_pos zero]
        exact .error .divisionByZero
      · rw [if_neg zero, if_neg zero]
        exact .ok (first.div second (Bool.eq_false_iff.mpr zero))

/-- Induction by pairs. Two totals that agree are joined to two operands that agree. -/
theorem alikeOutcome_foldLinks (precedence : Precedence) {misfit misfit' : EvalError}
    (misfits : misfit.Alike misfit') {total total' : Float} (totals : Agree total total')
    (items : List.Forall₂ Item.Alike lefts rights) :
    AlikeOutcome Agree (foldLinks precedence misfit total lefts)
      (foldLinks precedence misfit' total' rights) := by
  induction lefts using List.twoStepInduction generalizing total total' rights with
  | nil =>
      cases items
      exact .ok totals
  | singleton alone =>
      cases items with
      | cons first others =>
          cases others
          cases first <;> exact .error misfits
  | cons_cons left right _ inductionHypothesis =>
      cases items with
      | cons first items =>
          cases items with
          | cons second others =>
              cases first with
              | value numbers => exact .error misfits
              | operator operator =>
                  cases second with
                  | operator other => exact .error misfits
                  | value operands =>
                      rw [foldLinks_pair, foldLinks_pair]
                      by_cases fits : operator.precedence = precedence
                      · rw [if_pos fits, if_pos fits]
                        exact (alikeOutcome_apply operator totals operands).bind
                          fun _ _ joins => inductionHypothesis joins others
                      · rw [if_neg fits, if_neg fits]
                        exact .error misfits

theorem alikeOutcome_foldChain (precedence : Precedence) {misfit misfit' : EvalError}
    (misfits : misfit.Alike misfit') (items : List.Forall₂ Item.Alike lefts rights) :
    AlikeOutcome Agree (foldChain precedence misfit lefts)
      (foldChain precedence misfit' rights) := by
  cases items with
  | nil => exact .error misfits
  | cons first others =>
      cases first with
      | value totals => exact alikeOutcome_foldLinks precedence misfits totals others
      | operator operator => exact .error misfits

theorem alikeOutcome_fold (symbol : Symbol) (items : List.Forall₂ Item.Alike lefts rights) :
    AlikeOutcome Agree (fold symbol lefts) (fold symbol rights) := by
  have misfits : EvalError.Alike (.incompleteSubtree (.inner symbol) lefts.length)
      (.incompleteSubtree (.inner symbol) rights.length) := by
    rw [← items.length_eq]
    exact .incompleteSubtree _ (beq_self_eq_true symbol)
  cases symbol with
  | expression => exact alikeOutcome_foldChain .additive misfits items
  | term => exact alikeOutcome_foldChain .multiplicative misfits items
  | factor =>
      match items with
      | .cons (Item.Alike.value contents) .nil => exact .ok contents
      | .nil => exact .error misfits
      | .cons (Item.Alike.operator _) _ => exact .error misfits
      | .cons (Item.Alike.value _) (.cons _ _) => exact .error misfits
  | negative =>
      match items with
      | .nil => exact .error misfits
      | .cons (Item.Alike.value _) _ => exact .error misfits
      | .cons (Item.Alike.operator operator) .nil => cases operator <;> exact .error misfits
      | .cons (Item.Alike.operator operator) (.cons second others) =>
          cases operator with
          | subtract =>
              match second, others with
              | .value operands, .nil => exact .ok operands.neg
              | .value _, .cons _ _ => exact .error misfits
              | .operator _, _ => exact .error misfits
          | add => exact .error misfits
          | multiply => exact .error misfits
          | divide => exact .error misfits

end Items

/-! ### Trees -/

section Trees

variable {lefts rights : List Tree}

theorem Tree.length_eq_of_forestAlike (alike : forestAlike lefts rights = true) :
    lefts.length = rights.length := by
  induction lefts generalizing rights with
  | nil =>
      cases rights with
      | nil => rfl
      | cons right rights => cases alike
  | cons left lefts inductionHypothesis =>
      cases rights with
      | nil => cases alike
      | cons right rights =>
          rw [forestAlike, Bool.and_eq_true] at alike
          rw [List.length_cons, List.length_cons, inductionHypothesis alike.2]

/-- A token with children, and a parenthesis in any case, is refused with the number of
its children. -/
theorem alikeOutcome_tokenItem {token token' : Token} (alike : token.alike token' = true)
    (sameLength : lefts.length = rights.length) :
    AlikeOutcome Item.Alike (tokenItem token lefts) (tokenItem token' rights) := by
  have misfits (found : Nat) : EvalError.Alike (.incompleteSubtree (.leaf token) found)
      (.incompleteSubtree (.leaf token') found) :=
    .incompleteSubtree found alike
  cases lefts with
  | nil =>
      rw [List.length_eq_zero_iff.mp sameLength.symm]
      match token, token', alike with
      | .number _, .number _, alike => exact .ok (.value (.inl alike))
      | .operator operator, .operator _, alike =>
          cases eq_of_beq alike
          exact .ok (.operator operator)
      | .openParen, .openParen, _ => exact .error (misfits 0)
      | .closeParen, .closeParen, _ => exact .error (misfits 0)
  | cons left lefts =>
      cases rights with
      | nil => cases sameLength
      | cons right rights =>
          rw [tokenItem_cons, tokenItem_cons, Nat.succ.inj sameLength]
          exact .error (misfits _)

theorem alikeOutcome_forestItems
    (each : ∀ left ∈ lefts, ∀ right, left.alike right = true →
      AlikeOutcome (List.Forall₂ Item.Alike) (items left) (items right))
    (alike : Tree.forestAlike lefts rights = true) :
    AlikeOutcome (List.Forall₂ Item.Alike) (forestItems lefts) (forestItems rights) := by
  induction lefts generalizing rights with
  | nil =>
      cases rights with
      | nil => exact .ok .nil
      | cons right rights => cases alike
  | cons left lefts inductionHypothesis =>
      cases rights with
      | nil => cases alike
      | cons right rights =>
          rw [Tree.forestAlike, Bool.and_eq_true] at alike
          obtain ⟨firstEach, otherEach⟩ := List.forall_mem_cons.mp each
          rw [forestItems, forestItems]
          refine (firstEach right alike.1).bind fun _ _ front => ?_
          refine (inductionHypothesis otherEach alike.2).bind fun _ _ back => ?_
          exact .ok (List.rel_append front back)

theorem alikeOutcome_items {left right : Tree} (alike : left.alike right = true) :
    AlikeOutcome (List.Forall₂ Item.Alike) (items left) (items right) := by
  induction left generalizing right with
  | node label children inductionHypothesis =>
      obtain ⟨label', children'⟩ := right
      rw [Tree.alike, Bool.and_eq_true] at alike
      obtain ⟨labels, forest⟩ := alike
      cases label with
      | leaf token =>
          cases label' with
          | inner symbol' => cases labels
          | leaf token' =>
              rw [items, items]
              have sameLength := Tree.length_eq_of_forestAlike forest
              exact (alikeOutcome_tokenItem labels sameLength).bind
                fun _ _ item => .ok (.cons item .nil)
      | inner symbol =>
          cases label' with
          | leaf token' => cases labels
          | inner symbol' =>
              cases eq_of_beq labels
              rw [items, items]
              have found := alikeOutcome_forestItems
                (fun child among _ => inductionHypothesis child among) forest
              refine found.bind fun _ _ found => ?_
              exact (alikeOutcome_fold symbol found).bind
                fun _ _ value => .ok (.cons (.value value) .nil)

theorem Tree.label_alike {left right : Tree} (alike : left.alike right = true) :
    left.label.alike right.label = true := by
  obtain ⟨label, children⟩ := left
  obtain ⟨label', children'⟩ := right
  rw [Tree.alike, Bool.and_eq_true] at alike
  exact alike.1

theorem alikeOutcome_value {left right : Tree} (alike : left.alike right = true) :
    AlikeOutcome Agree left.value right.value := by
  refine (alikeOutcome_items alike).bind fun found found' same => ?_
  have misfits : EvalError.Alike (.incompleteSubtree left.label found.length)
      (.incompleteSubtree right.label found'.length) := by
    rw [← same.length_eq]
    exact .incompleteSubtree _ (Tree.label_alike alike)
  match same with
  | .cons (Item.Alike.value value) .nil => exact .ok value
  | .nil => exact .error misfits
  | .cons (Item.Alike.operator _) _ => exact .error misfits
  | .cons (Item.Alike.value _) (.cons _ _) => exact .error misfits

end Trees

/-- Both evaluations find values that agree, or refuse a division by zero, or stop at
alike labels with as many items. -/
theorem alikeOutcome_evaluate {left right : Tree} (alike : left.alike right = true) :
    AlikeOutcome Agree (evaluate left).outcome (evaluate right).outcome := by
  rw [outcome_evaluate, outcome_evaluate]
  exact alikeOutcome_value alike

/-- Negating a zero and dividing by it, for zeros of opposite signs. -/
theorem alikeOutcome_evaluate_zeros :
    let tree (zero : Float) : Tree := .chain .expression
      (.negative (.operator .subtract) (.terminal (.number zero)))
      [(.operator .add, .chain .term (.terminal (.number 1))
        [(.operator .divide, .terminal (.number zero))])]
    (tree 0).alike (tree (-0)) = true ∧
      AlikeOutcome Agree (evaluate (tree 0)).outcome (evaluate (tree (-0))).outcome := by
  intro tree
  have alike : (tree 0).alike (tree (-0)) = true := by decide +kernel
  exact ⟨alike, alikeOutcome_evaluate alike⟩

end Reckon
