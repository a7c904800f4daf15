/-!
Contract: nonnegative ratios rounded to the nearest double.

A nonnegative double is named here by its bit pattern, a natural number. Every
finite one is a whole number of units worth `2 ^ (-1074)` each, so exact
comparisons with a ratio are comparisons of naturals.

Owns: the magnitude of a pattern in units, rounding of a ratio to a pattern, and
the passage between patterns and `Float`.

Does not own: decimal text.
-/

set_option autoImplicit false

namespace Reckon.Binary64

/-- One unit is worth `2 ^ (-unitPlaces)`, the smallest positive double. -/
def unitPlaces : Nat := 1074

/-- Patterns that agree above this many low bits share one spacing. -/
def fractionBits : Nat := 52

-- Powers are called by name throughout: the sign for them means the power of a monoid
-- wherever algebra is in scope.

/-- The pattern of infinity; the patterns below it are finite, in order of size. -/
def infinity : Nat := 2047 * Nat.pow 2 fractionBits

/-- The pattern of negative zero: the sign bit alone. -/
def signBit : Nat := Nat.pow 2 63

/-- How many times its spacing a finite pattern is worth. -/
def significand (pattern : Nat) : Nat :=
  if pattern < Nat.pow 2 fractionBits then pattern
  else Nat.pow 2 fractionBits + pattern % Nat.pow 2 fractionBits

/-- The pattern's spacing is `2 ^ shift` units. -/
def shift (pattern : Nat) : Nat :=
  pattern / Nat.pow 2 fractionBits - 1

/-- The magnitude of a finite pattern, counted in units. -/
def units (pattern : Nat) : Nat :=
  significand pattern * Nat.pow 2 (shift pattern)

/-- The integer nearest to a ratio; a half goes to the even neighbour. -/
def roundDiv (numerator denominator : Nat) : Nat :=
  let quotient := numerator / denominator
  let remainder := numerator % denominator
  if 2 * remainder < denominator then quotient
  else if denominator < 2 * remainder then quotient + 1
  else quotient + quotient % 2

/-- The pattern nearest to `numerator / denominator`; a ratio too large for every
finite pattern gives `infinity`.

The integer part of the ratio in units fixes the spacing, one rounding at that
spacing gives the significand, and a significand that grows by a bit carries into
the next spacing by addition alone. -/
def nearest (numerator denominator : Nat) : Nat :=
  let scaled := numerator * Nat.pow 2 unitPlaces
  let spacing := (scaled / denominator).log2 - fractionBits
  let rounded := roundDiv scaled (denominator * Nat.pow 2 spacing)
  min (spacing * Nat.pow 2 fractionBits + rounded) infinity

def ofPattern (pattern : Nat) : Float :=
  Float.ofBits (UInt64.ofNat pattern)

/-- The pattern of a double without its sign bit. -/
def magnitude (value : Float) : Nat :=
  value.toBits.toNat % signBit

/-- The sign bit is set: true of negative numbers and of negative zero. -/
def signed (value : Float) : Bool :=
  decide (signBit ≤ value.toBits.toNat)

/-- Neither an infinity nor NaN. -/
def finite (value : Float) : Bool :=
  decide (magnitude value < infinity)

def ofRatio (numerator denominator : Nat) : Float :=
  ofPattern (nearest numerator denominator)

/-- The double nearest to an integer. -/
def ofInt : Int → Float
  | .ofNat size => ofRatio size 1
  | .negSucc size => -ofRatio (size + 1) 1

end Reckon.Binary64
