import Reckon.Decimal

/-!
Contract: the shortest decimal that reads back as a given double.

Owns: the exact decimal of a finite pattern, the search over ever finer decimal
grids, and the written form of every double, infinities and NaN included.

Does not own: how a decimal is laid out as characters.
-/

set_option autoImplicit false

namespace Reckon.Decimal

/-- The decimal equal to a finite pattern. A pattern is a significand times a power
of two; a negative power of two is a power of five over the same power of ten. -/
def exact (pattern : Nat) : Decimal :=
  let shift := Binary64.shift pattern
  { coefficient :=
      Binary64.significand pattern
        * Nat.pow 2 (shift - Binary64.unitPlaces) * Nat.pow 5 (Binary64.unitPlaces - shift)
    places := Binary64.unitPlaces - shift }

/-- The decimal rounds to the pattern. -/
def ReadsAs (pattern : Nat) (decimal : Decimal) : Prop :=
  Binary64.nearest decimal.coefficient (Nat.pow 10 decimal.places) = pattern

instance (pattern : Nat) (decimal : Decimal) : Decidable (ReadsAs pattern decimal) := by
  unfold ReadsAs
  infer_instance

/-- Of the two multiples of `step` around `decimal`, the one that reads as the
pattern; of two such, the nearer one, and the upper one when both are as near. -/
def onGrid? (pattern : Nat) (decimal : Decimal) (step : Nat) : Option Decimal :=
  let below := decimal.coefficient / step * step
  let lower : Decimal := { decimal with coefficient := below }
  let upper : Decimal := { decimal with coefficient := below + step }
  let lowerIsNearer := decimal.coefficient - below < below + step - decimal.coefficient
  if ReadsAs pattern lower ∧ (lowerIsNearer ∨ ¬ ReadsAs pattern upper) then some lower
  else if ReadsAs pattern upper then some upper
  else none

/-- This many significant digits always suffice for a double. -/
def enoughDigits : Nat := 17

/-- The decimal with the fewest significant digits that reads as the pattern. The
grid with `count` significant digits is tried for each count in turn. -/
def shortest (pattern : Nat) : Decimal :=
  let decimal := exact pattern
  let length := (Nat.toDigits 10 decimal.coefficient).length
  let found := (List.range enoughDigits).findSome? fun index =>
    onGrid? pattern decimal (Nat.pow 10 (length - (index + 1)))
  found.getD decimal

end Reckon.Decimal

namespace Reckon

/-- The written form of the finite or infinite magnitude of a double. -/
def magnitudeChars (pattern : Nat) : List Char :=
  if pattern < Binary64.infinity then (Decimal.shortest pattern).toChars
  else ['i', 'n', 'f']

/-- The written form of a double: the shortest decimal that reads back, always
without an exponent, after a minus when the sign bit is set. NaN has no sign. -/
def numeralChars (value : Float) : List Char :=
  let pattern := Binary64.magnitude value
  if Binary64.infinity < pattern then ['N', 'a', 'N']
  else if Binary64.signed value then '-' :: magnitudeChars pattern
  else magnitudeChars pattern

def numeral (value : Float) : String :=
  String.ofList (numeralChars value)

end Reckon
