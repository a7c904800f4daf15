import Reckon.Evaluation

/-!
Contract: results that are alike.

Trees may be alike and yet hold zeros of opposite signs, so values of alike trees are
compared, not identified.

Owns:
- when two doubles agree;
- when two errors are alike, and two results that may be errors.

Does not own: when two trees are alike.
-/

set_option autoImplicit false

namespace Reckon

/-- Equal by comparison, or both no number at all. -/
def Binary64.Agree (left right : Float) : Prop :=
  (left == right) = true ∨ left.isNaN = true ∧ right.isNaN = true

instance (left right : Float) : Decidable (Binary64.Agree left right) :=
  inferInstanceAs (Decidable (_ ∨ _))

/-- The same cause. Below nodes with alike labels, as many items were found. -/
inductive EvalError.Alike : EvalError → EvalError → Prop where
  | divisionByZero : Alike .divisionByZero .divisionByZero
  | incompleteSubtree {left right : Label} (found : Nat) :
      left.alike right = true →
        Alike (.incompleteSubtree left found) (.incompleteSubtree right found)

/-- Both succeed, with related results, or both fail, with alike errors. -/
inductive AlikeOutcome {α : Type} (related : α → α → Prop) :
    Except EvalError α → Except EvalError α → Prop where
  | ok {left right : α} :
      related left right → AlikeOutcome related (.ok left) (.ok right)
  | error {left right : EvalError} :
      left.Alike right → AlikeOutcome related (.error left) (.error right)

end Reckon
