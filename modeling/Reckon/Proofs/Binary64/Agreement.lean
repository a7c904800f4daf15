import Mathlib
import Reckon.Likeness

/-!
Contract: arithmetic on doubles that agree.

Doubles agree when they have the same unpacked form up to the sign of a zero. Of the
operations, only division by zero shows this sign in anything but a zero.

Owns:
- agreement as equality of unpacked forms;
- negation, sums, differences, products, and quotients by a divisor that is not zero.

Does not own: the value of any operation.
-/

set_option autoImplicit false

namespace Reckon.Binary64

open Float.Model (Format UnpackedFloat)
open Float.Model.UnpackedFloat (Sign)

/-! ### Unpacked numbers -/

/-- The number with a positive zero in place of every zero. -/
def forgetZeroSign : UnpackedFloat → UnpackedFloat
  | .zero _ => .zero .positive
  | number => number

theorem forgetZeroSign_neg (number : UnpackedFloat) :
    forgetZeroSign (forgetZeroSign number).neg = forgetZeroSign number.neg := by
  cases number <;> rfl

theorem forgetZeroSign_add (left right : UnpackedFloat) :
    forgetZeroSign ((forgetZeroSign left).add Format.binary64 (forgetZeroSign right)) =
      forgetZeroSign (left.add Format.binary64 right) := by
  cases left <;> cases right
  case zero.zero sign sign' => cases sign <;> cases sign' <;> rfl
  all_goals rfl

theorem forgetZeroSign_sub (left right : UnpackedFloat) :
    forgetZeroSign ((forgetZeroSign left).sub Format.binary64 (forgetZeroSign right)) =
      forgetZeroSign (left.sub Format.binary64 right) := by
  cases left <;> cases right
  case zero.zero sign sign' => cases sign <;> cases sign' <;> rfl
  all_goals rfl

theorem forgetZeroSign_mul (left right : UnpackedFloat) :
    forgetZeroSign ((forgetZeroSign left).mul Format.binary64 (forgetZeroSign right)) =
      forgetZeroSign (left.mul Format.binary64 right) := by
  cases left <;> cases right <;> rfl

/-- A zero divisor gives its sign to an infinite quotient. -/
theorem forgetZeroSign_div (left : UnpackedFloat) {right : UnpackedFloat}
    (nonzero : right.beq (.zero .positive) = false) :
    forgetZeroSign ((forgetZeroSign left).div Format.binary64 (forgetZeroSign right)) =
      forgetZeroSign (left.div Format.binary64 right) := by
  cases right with
  | zero sign => cases nonzero
  | infinity sign => cases left <;> rfl
  | notANumber => cases left <;> rfl
  | finite sign mantissa exponent positive => cases left <;> rfl

theorem beq_zero_forgetZeroSign (number : UnpackedFloat) :
    (forgetZeroSign number).beq (.zero .positive) = number.beq (.zero .positive) := by
  cases number <;> rfl

/-- Packed and unpacked again, as every result of an operation is. -/
def repack (number : UnpackedFloat) : UnpackedFloat :=
  UnpackedFloat.unpack Format.binary64 (UnpackedFloat.pack Format.binary64 number)

theorem repack_zero (sign : Sign) : repack (.zero sign) = .zero sign :=
  UnpackedFloat.unpack_packedZero

theorem forgetZeroSign_repack (number : UnpackedFloat) :
    forgetZeroSign (repack (forgetZeroSign number)) = forgetZeroSign (repack number) := by
  cases number with
  | zero sign => rw [forgetZeroSign, repack_zero, repack_zero, forgetZeroSign, forgetZeroSign]
  | infinity sign => rfl
  | notANumber => rfl
  | finite sign mantissa exponent positive => rfl

theorem eq_or_zeros_of_forgetZeroSign_eq {left right : UnpackedFloat}
    (same : forgetZeroSign left = forgetZeroSign right) :
    left = right ∨ ∃ sign sign', left = .zero sign ∧ right = .zero sign' := by
  cases left <;> cases right <;> simp_all [forgetZeroSign]

/-! ### Doubles -/

/-- What doubles that agree have in common. -/
def content (value : Float) : UnpackedFloat :=
  forgetZeroSign value.toModel.unpack

theorem agree_iff {left right : Float} : Agree left right ↔ content left = content right := by
  show left.toModel.unpack.beq right.toModel.unpack = true ∨
      left.toModel.unpack.isNaN = true ∧ right.toModel.unpack.isNaN = true ↔
    forgetZeroSign left.toModel.unpack = forgetZeroSign right.toModel.unpack
  generalize left.toModel.unpack = first, right.toModel.unpack = second
  rw [UnpackedFloat.beq_iff_ne_notANumber_and_eq, UnpackedFloat.isNaN_iff,
    UnpackedFloat.isNaN_iff]
  constructor
  · rintro (⟨-, -, rfl | ⟨rfl, rfl⟩ | ⟨rfl, rfl⟩⟩ | ⟨rfl, rfl⟩) <;> rfl
  · intro same
    rcases eq_or_zeros_of_forgetZeroSign_eq same with rfl | ⟨sign, sign', rfl, rfl⟩
    · by_cases nan : first = .notANumber <;> simp [nan]
    · cases sign <;> cases sign' <;> simp

section Operations

variable {left left' right right' : Float}

/-- A result has the content of what was packed, and any number that differs from this
only in the sign of a zero gives the same content. -/
theorem content_eq_of_packed {value : Float} {number plain : UnpackedFloat}
    (packed : value.toModel.unpack = repack number)
    (same : forgetZeroSign plain = forgetZeroSign number) :
    content value = forgetZeroSign (repack plain) := by
  rw [content, packed, ← forgetZeroSign_repack, ← same, forgetZeroSign_repack]

theorem content_neg (operand : Float) :
    content (-operand) = forgetZeroSign (repack (content operand).neg) :=
  content_eq_of_packed rfl (forgetZeroSign_neg _)

theorem content_add (left right : Float) :
    content (left + right) =
      forgetZeroSign (repack ((content left).add Format.binary64 (content right))) :=
  content_eq_of_packed rfl (forgetZeroSign_add _ _)

theorem content_sub (left right : Float) :
    content (left - right) =
      forgetZeroSign (repack ((content left).sub Format.binary64 (content right))) :=
  content_eq_of_packed rfl (forgetZeroSign_sub _ _)

theorem content_mul (left right : Float) :
    content (left * right) =
      forgetZeroSign (repack ((content left).mul Format.binary64 (content right))) :=
  content_eq_of_packed rfl (forgetZeroSign_mul _ _)

theorem content_div (left : Float) (nonzero : (right == 0) = false) :
    content (left / right) =
      forgetZeroSign (repack ((content left).div Format.binary64 (content right))) :=
  content_eq_of_packed rfl (forgetZeroSign_div _ nonzero)

theorem beq_zero_eq (value : Float) : (value == 0) = (content value).beq (.zero .positive) :=
  (beq_zero_forgetZeroSign value.toModel.unpack).symm

namespace Agree

theorem beq_zero (agree : Agree left right) : (left == 0) = (right == 0) := by
  rw [beq_zero_eq, beq_zero_eq, agree_iff.mp agree]

theorem neg (agree : Agree left right) : Agree (-left) (-right) := by
  rw [agree_iff, content_neg, content_neg, agree_iff.mp agree]

theorem add (first : Agree left left') (second : Agree right right') :
    Agree (left + right) (left' + right') := by
  rw [agree_iff, content_add, content_add, agree_iff.mp first, agree_iff.mp second]

theorem sub (first : Agree left left') (second : Agree right right') :
    Agree (left - right) (left' - right') := by
  rw [agree_iff, content_sub, content_sub, agree_iff.mp first, agree_iff.mp second]

theorem mul (first : Agree left left') (second : Agree right right') :
    Agree (left * right) (left' * right') := by
  rw [agree_iff, content_mul, content_mul, agree_iff.mp first, agree_iff.mp second]

theorem div (first : Agree left left') (second : Agree right right')
    (nonzero : (right == 0) = false) : Agree (left / right) (left' / right') := by
  have nonzero' : (right' == 0) = false := second.beq_zero.symm.trans nonzero
  rw [agree_iff, content_div left nonzero, content_div left' nonzero', agree_iff.mp first,
    agree_iff.mp second]

end Agree

end Operations

end Reckon.Binary64
