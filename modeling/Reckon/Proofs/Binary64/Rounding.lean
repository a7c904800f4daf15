import Reckon.Binary64

/-!
Contract: rounding of ratios to patterns.

Owns:
- a pattern put together from its spacing and its significand;
- rounding depends on the ratio alone;
- a ratio that is worth a finite pattern is rounded to this pattern.

Does not own: where a ratio between two patterns is rounded to.
-/

set_option autoImplicit false

namespace Reckon.Binary64

/-! ### Finite patterns -/

/-- The bit by which the significand of a large pattern exceeds its fraction is the one
that the spacing lacks. -/
theorem shift_add_significand (pattern : Nat) :
    shift pattern * Nat.pow 2 fractionBits + significand pattern = pattern := by
  have divided := Nat.div_add_mod' pattern (Nat.pow 2 fractionBits)
  have sizePositive : 0 < Nat.pow 2 fractionBits := by decide
  unfold significand shift
  generalize Nat.pow 2 fractionBits = size at divided sizePositive ⊢
  by_cases small : pattern < size
  · rw [if_pos small, Nat.div_eq_of_lt small]
    omega
  · have large : 0 < pattern / size := Nat.div_pos (Nat.le_of_not_lt small) sizePositive
    have spacing : pattern / size * size = (pattern / size - 1) * size + size := by
      rw [← Nat.succ_mul, Nat.succ_eq_add_one, Nat.sub_add_cancel large]
    rw [if_neg small]
    omega

theorem significand_lt (pattern : Nat) :
    significand pattern < Nat.pow 2 (fractionBits + 1) := by
  have sizePositive : 0 < Nat.pow 2 fractionBits := by decide
  have remainder := Nat.mod_lt pattern sizePositive
  have doubled : Nat.pow 2 (fractionBits + 1) = Nat.pow 2 fractionBits * 2 := rfl
  unfold significand
  split <;> omega

theorem le_significand {pattern : Nat} (large : ¬ pattern < Nat.pow 2 fractionBits) :
    Nat.pow 2 fractionBits ≤ significand pattern := by
  rw [significand, if_neg large]
  exact Nat.le_add_right _ _

theorem shift_eq_zero {pattern : Nat} (small : pattern < Nat.pow 2 fractionBits) :
    shift pattern = 0 := by
  rw [shift, Nat.div_eq_of_lt small]

theorem units_eq_self {pattern : Nat} (small : pattern < Nat.pow 2 fractionBits) :
    units pattern = pattern := by
  rw [units, significand, if_pos small, shift_eq_zero small]
  exact Nat.mul_one pattern

/-- The leading bit of a magnitude tells its spacing. -/
theorem log2_units_sub (pattern : Nat) :
    (units pattern).log2 - fractionBits = shift pattern := by
  by_cases small : pattern < Nat.pow 2 fractionBits
  · rw [units_eq_self small, shift_eq_zero small, Nat.sub_eq_zero_iff_le]
    by_cases zero : pattern = 0
    · rw [zero]
      decide
    · exact Nat.le_of_lt ((Nat.log2_lt zero).mpr small)
  · have lower := le_significand small
    have upper := significand_lt pattern
    have notZero : units pattern ≠ 0 := by
      have sizePositive : 0 < Nat.pow 2 fractionBits := by decide
      apply Nat.mul_ne_zero
      · omega
      · exact Nat.ne_of_gt (Nat.two_pow_pos _)
    have log : (units pattern).log2 = fractionBits + shift pattern := by
      rw [Nat.log2_eq_iff notZero, Nat.add_right_comm, Nat.pow_add, Nat.pow_add]
      exact ⟨Nat.mul_le_mul_right _ lower,
        Nat.mul_lt_mul_of_pos_right upper (Nat.two_pow_pos _)⟩
    rw [log, Nat.add_sub_cancel_left]

/-! ### Rounding a ratio -/

theorem roundDiv_mul_right (numerator denominator : Nat) {factor : Nat}
    (positive : 0 < factor) :
    roundDiv (numerator * factor) (denominator * factor) = roundDiv numerator denominator := by
  have below_iff (remainder : Nat) :
      2 * (remainder * factor) < denominator * factor ↔ 2 * remainder < denominator := by
    rw [← Nat.mul_assoc, Nat.mul_lt_mul_right positive]
  have above_iff (remainder : Nat) :
      denominator * factor < 2 * (remainder * factor) ↔ denominator < 2 * remainder := by
    rw [← Nat.mul_assoc, Nat.mul_lt_mul_right positive]
  simp only [roundDiv, Nat.mul_div_mul_right _ _ positive, Nat.mul_mod_mul_right, below_iff,
    above_iff]

theorem roundDiv_mul_self (quotient : Nat) {denominator : Nat} (positive : 0 < denominator) :
    roundDiv (quotient * denominator) denominator = quotient := by
  simp [roundDiv, Nat.mul_div_cancel _ positive, positive]

theorem nearest_le_infinity (numerator denominator : Nat) :
    nearest numerator denominator ≤ infinity :=
  Nat.min_le_right _ _

/-- Rounding depends on the ratio, not on how it is written. -/
theorem nearest_mul_right (numerator denominator : Nat) {factor : Nat}
    (positive : 0 < factor) :
    nearest (numerator * factor) (denominator * factor) = nearest numerator denominator := by
  have scaled : numerator * factor * Nat.pow 2 unitPlaces =
      numerator * Nat.pow 2 unitPlaces * factor := Nat.mul_right_comm _ _ _
  have spaced (size : Nat) : denominator * factor * size = denominator * size * factor :=
    Nat.mul_right_comm _ _ _
  simp only [nearest, scaled, spaced, Nat.mul_div_mul_right _ _ positive,
    roundDiv_mul_right _ _ positive]

theorem nearest_eq_of_units {numerator denominator pattern : Nat} (positive : 0 < denominator)
    (finite : pattern < infinity)
    (worth : numerator * Nat.pow 2 unitPlaces = units pattern * denominator) :
    nearest numerator denominator = pattern := by
  have rounded : roundDiv (units pattern * denominator)
      (denominator * Nat.pow 2 (shift pattern)) = significand pattern := by
    have spaced : units pattern * denominator =
        significand pattern * (denominator * Nat.pow 2 (shift pattern)) := by
      rw [units]
      ac_rfl
    rw [spaced]
    exact roundDiv_mul_self _ (Nat.mul_pos positive (Nat.two_pow_pos _))
  simp only [nearest, worth, Nat.mul_div_cancel _ positive, log2_units_sub, rounded,
    shift_add_significand]
  exact Nat.min_eq_left (Nat.le_of_lt finite)

end Reckon.Binary64
