import Reckon.Decimal.Shortest
import Reckon.Proofs.Binary64.Rounding

/-!
Contract: the shortest decimal of a finite pattern reads back as the pattern.

The search hands out only decimals that it has read back, but it may find none; what
carries the result is that the decimal it falls back on is read back too.

Owns: the reading of the exact decimal, and of the decimal that is found.

Does not own: that no shorter decimal would do.
-/

set_option autoImplicit false

namespace Reckon.Decimal

variable {pattern : Nat}

/-- The exact decimal of a pattern is worth as many units as the pattern. -/
theorem coefficient_exact (pattern : Nat) :
    (exact pattern).coefficient * Nat.pow 2 Binary64.unitPlaces =
      Binary64.units pattern * Nat.pow 10 (exact pattern).places := by
  simp only [exact, Binary64.units, Nat.pow_eq]
  generalize Binary64.shift pattern = shift
  generalize Binary64.unitPlaces = places
  generalize Binary64.significand pattern = significand
  have twos : 2 ^ (shift - places) * 2 ^ places = 2 ^ shift * 2 ^ (places - shift) := by
    rw [← Nat.pow_add, ← Nat.pow_add]
    congr 1
    omega
  have tens : 10 ^ (places - shift) = 2 ^ (places - shift) * 5 ^ (places - shift) := by
    rw [← Nat.mul_pow]
  calc significand * 2 ^ (shift - places) * 5 ^ (places - shift) * 2 ^ places
      = significand * (2 ^ (shift - places) * 2 ^ places) * 5 ^ (places - shift) := by ac_rfl
    _ = significand * 2 ^ shift * (2 ^ (places - shift) * 5 ^ (places - shift)) := by
        rw [twos]
        ac_rfl
    _ = significand * 2 ^ shift * 10 ^ (places - shift) := by rw [tens]

theorem readsAs_exact (finite : pattern < Binary64.infinity) :
    ReadsAs pattern (exact pattern) :=
  Binary64.nearest_eq_of_units (Nat.pow_pos (by decide)) finite (coefficient_exact pattern)

theorem readsAs_of_onGrid? {decimal found : Decimal} {step : Nat}
    (onGrid : onGrid? pattern decimal step = some found) : ReadsAs pattern found := by
  simp only [onGrid?] at onGrid
  split at onGrid
  case isTrue lower =>
    cases onGrid
    exact lower.1
  case isFalse =>
    split at onGrid
    case isTrue upper =>
      cases onGrid
      exact upper
    case isFalse => cases onGrid

/-- Whatever grid the search ends on, the decimal found there rounds to the pattern. -/
theorem readsAs_shortest (finite : pattern < Binary64.infinity) :
    ReadsAs pattern (shortest pattern) := by
  unfold shortest
  extract_lets decimal length found
  cases outcome : found with
  | none => exact readsAs_exact finite
  | some decimal =>
      obtain ⟨index, -, onGrid⟩ := List.exists_of_findSome?_eq_some outcome
      exact readsAs_of_onGrid? onGrid

end Reckon.Decimal
