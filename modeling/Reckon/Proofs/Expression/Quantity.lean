import Reckon.Expression

/-!
Contract: the value of an expression, told without errors.

The arithmetic of doubles has a result for every pair of operands, so every
expression has a quantity. What the value adds is the refusal to divide by zero, and
this is its only error.

Owns: the quantity, the expressions that divide by zero, and the value in terms of
the two.
-/

set_option autoImplicit false

namespace Reckon

/-- The arithmetic of an operator, division by zero included. -/
def Operator.compute (operator : Operator) (left right : Float) : Float :=
  match operator with
  | add => left + right
  | subtract => left - right
  | multiply => left * right
  | divide => left / right

theorem Operator.apply_eq (operator : Operator) (left right : Float) :
    operator.apply left right =
      if operator = .divide ∧ (right == 0) = true then .error .divisionByZero
      else .ok (operator.compute left right) := by
  cases operator <;> simp [apply, compute]

namespace Expression

def quantity : Expression → Float
  | number value => value
  | negation operand => -operand.quantity
  | binary operator left right => operator.compute left.quantity right.quantity

/-- Some division has a right operand that compares equal to zero, of either sign. -/
def DividesByZero : Expression → Prop
  | number _ => False
  | negation operand => operand.DividesByZero
  | binary operator left right =>
      left.DividesByZero ∨ right.DividesByZero ∨
        operator = .divide ∧ (right.quantity == 0) = true

instance decidableDividesByZero : DecidablePred DividesByZero
  | number _ => inferInstanceAs (Decidable False)
  | negation operand => decidableDividesByZero operand
  | binary operator left right =>
      have := decidableDividesByZero left
      have := decidableDividesByZero right
      inferInstanceAs (Decidable (left.DividesByZero ∨ right.DividesByZero ∨
        operator = .divide ∧ (right.quantity == 0) = true))

theorem value_eq (expression : Expression) :
    expression.value =
      if expression.DividesByZero then .error .divisionByZero
      else .ok expression.quantity := by
  induction expression with
  | number literal => simp [value, DividesByZero, quantity]
  | negation operand operandValue =>
      rw [value, operandValue]
      by_cases divides : operand.DividesByZero <;>
        simp [DividesByZero, quantity, divides, bind, Except.bind, pure, Except.pure]
  | binary operator left right leftValue rightValue =>
      rw [value, leftValue, rightValue]
      by_cases leftDivides : left.DividesByZero
      · simp [DividesByZero, leftDivides, bind, Except.bind]
      · by_cases rightDivides : right.DividesByZero
        · simp [DividesByZero, leftDivides, rightDivides, bind, Except.bind]
        · simp [DividesByZero, quantity, leftDivides, rightDivides, bind, Except.bind,
            Operator.apply_eq]

/-- Division by zero is the only error of a value. -/
theorem eq_divisionByZero_of_value {expression : Expression} {error : EvalError}
    (failed : expression.value = .error error) : error = .divisionByZero := by
  rw [value_eq] at failed
  split at failed <;> cases failed
  rfl

end Expression

end Reckon
