import Reckon.Binary64

/-!
Contract: decimals without an exponent.

Owns: the written form of a decimal, the language of number literals, and the
double a literal stands for.

Does not own: which decimal stands for a given double.
-/

set_option autoImplicit false

namespace Reckon

/-- The number `coefficient / 10 ^ places`. -/
structure Decimal where
  coefficient : Nat
  places : Nat
deriving DecidableEq, Repr

namespace Decimal

/-- The double nearest to a decimal. -/
def toFloat (decimal : Decimal) : Float :=
  Binary64.ofRatio decimal.coefficient (Nat.pow 10 decimal.places)

def dropTrailingZeros (digits : List Char) : List Char :=
  (digits.reverse.dropWhile (· == '0')).reverse

/-- The digits after the point, without the zeros that end them. -/
def fractionDigits (decimal : Decimal) : List Char :=
  let rest := decimal.coefficient % Nat.pow 10 decimal.places
  dropTrailingZeros ((Nat.toDigits 10 rest).leftpad decimal.places '0')

/-- Whole digits, then a point and a fraction unless the fraction is empty. -/
def toChars (decimal : Decimal) : List Char :=
  let whole := Nat.toDigits 10 (decimal.coefficient / Nat.pow 10 decimal.places)
  match decimal.fractionDigits with
  | [] => whole
  | first :: others => whole ++ '.' :: first :: others

/-- Digits before a point: a zero alone, or digits that start with none. -/
def IsWhole (digits : List Char) : Prop :=
  digits = ['0'] ∨ (digits ≠ [] ∧ digits.head? ≠ some '0')

instance (digits : List Char) : Decidable (IsWhole digits) := by
  unfold IsWhole
  infer_instance

/-- Reads a literal: whole digits, and optionally a point with at least one digit
after it. Nothing may stand before or after, and only `0` to `9` are digits. -/
def read? (literal : List Char) : Option Decimal :=
  let whole := literal.takeWhile Char.isDigit
  if IsWhole whole then
    match literal.dropWhile Char.isDigit with
    | [] => some ⟨Nat.ofDigitChars 10 whole 0, 0⟩
    | point :: fraction =>
        if point = '.' ∧ fraction ≠ [] ∧ fraction.all Char.isDigit then
          some ⟨Nat.ofDigitChars 10 (whole ++ fraction) 0, fraction.length⟩
        else none
  else none

end Decimal

end Reckon
