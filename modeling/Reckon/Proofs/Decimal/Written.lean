import Reckon.Proofs.Binary64.Rounding
import Reckon.Proofs.Lexis.Numeral

/-!
Contract: the written form of a decimal as a numeral.

Owns:
- the digits of the written form, and that they make a numeral;
- the numeral denotes the double that the decimal rounds to, although zeros at the end
  of a fraction are not written.

Does not own: which decimal is written for a double.
-/

set_option autoImplicit false

namespace Reckon.Decimal

/-! ### Digits before the point -/

theorem allDigits_toDigits (number : Nat) : AllDigits (Nat.toDigits 10 number) :=
  fun _ member => Nat.isDigit_of_mem_toDigits (by decide) (Nat.le_refl 10) member

/-- Strong induction on the number: a number of more than one digit starts as its
tenth does. -/
theorem head?_toDigits_ne_zero {number : Nat} (positive : 0 < number) :
    (Nat.toDigits 10 number).head? ≠ some '0' := by
  induction number using Nat.strongRecOn with
  | ind number inductionHypothesis =>
      rw [Nat.toDigits_eq_if (by decide)]
      by_cases single : number < 10
      · simp [single, Nat.digitChar_eq_zero, Nat.pos_iff_ne_zero.mp positive]
      · have tenth := inductionHypothesis (number / 10) (by omega) (by omega)
        rw [if_neg single, List.head?_append_of_ne_nil _ Nat.toDigits_ne_nil]
        exact tenth

theorem isWholePart_toDigits (number : Nat) : IsWholePart (Nat.toDigits 10 number) := by
  apply (allDigits_toDigits number).isWhole_iff.mp
  rcases Nat.eq_zero_or_pos number with rfl | positive
  · exact .inl (Nat.toDigits_zero 10)
  · exact .inr ⟨Nat.toDigits_ne_nil, head?_toDigits_ne_zero positive⟩

/-! ### Digits after the point -/

theorem exists_append_zeros (digits : List Char) :
    ∃ count, digits = dropTrailingZeros digits ++ List.replicate count '0' := by
  have zeros : ∀ char ∈ digits.reverse.takeWhile (· == '0'), char = '0' :=
    fun char member => by simpa using List.mem_takeWhile_imp member
  have divided : digits.reverse.takeWhile (· == '0') ++ digits.reverse.dropWhile (· == '0') =
      digits.reverse := List.takeWhile_append_dropWhile
  rw [List.eq_replicate_of_mem zeros] at divided
  refine ⟨(digits.reverse.takeWhile (· == '0')).length, ?_⟩
  rw [dropTrailingZeros, ← List.reverse_replicate, ← List.reverse_append, divided,
    List.reverse_reverse]

variable {decimal : Decimal}

theorem fractionDigits_eq_nil (noPlaces : decimal.places = 0) :
    decimal.fractionDigits = [] := by
  rw [fractionDigits, noPlaces, show Nat.pow 10 0 = 1 from rfl, Nat.mod_one]
  decide

theorem allDigits_fractionDigits (decimal : Decimal) : AllDigits decimal.fractionDigits := by
  simp only [fractionDigits]
  generalize decimal.coefficient % Nat.pow 10 decimal.places = rest
  obtain ⟨count, padded⟩ :=
    exists_append_zeros ((Nat.toDigits 10 rest).leftpad decimal.places '0')
  intro char member
  have inPadded : char ∈ (Nat.toDigits 10 rest).leftpad decimal.places '0' := by
    rw [padded]
    exact List.mem_append_left _ member
  rcases List.mem_append.mp inPadded with zero | digit
  · rw [List.eq_of_mem_replicate zero]
    decide
  · exact allDigits_toDigits rest char digit

/-- With the zeros that are not written, a fraction has one digit for each place. -/
theorem exists_fractionDigits_append_zeros (somePlaces : 0 < decimal.places) :
    ∃ count, decimal.fractionDigits.length + count = decimal.places ∧
      Nat.ofDigitChars 10 (decimal.fractionDigits ++ List.replicate count '0') 0 =
        decimal.coefficient % Nat.pow 10 decimal.places := by
  have small : decimal.coefficient % Nat.pow 10 decimal.places < Nat.pow 10 decimal.places :=
    Nat.mod_lt _ (Nat.pow_pos (by decide))
  simp only [fractionDigits]
  generalize decimal.coefficient % Nat.pow 10 decimal.places = rest at small ⊢
  have fits : (Nat.toDigits 10 rest).length ≤ decimal.places :=
    (Nat.length_toDigits_le_iff (by decide) somePlaces).mpr small
  obtain ⟨count, padded⟩ :=
    exists_append_zeros ((Nat.toDigits 10 rest).leftpad decimal.places '0')
  refine ⟨count, ?_, ?_⟩
  · have lengths := congrArg List.length padded
    rw [List.length_append, List.length_replicate, List.length_leftpad] at lengths
    omega
  · rw [← padded, List.leftpad, Nat.ofDigitChars_append, Nat.ofDigitChars_replicate_zero,
      Nat.mul_zero, Nat.ofDigitChars_ten_toDigits]

/-! ### The whole written form -/

/-- All digits of the written form, without the point. -/
def digits (decimal : Decimal) : List Char :=
  Nat.toDigits 10 (decimal.coefficient / Nat.pow 10 decimal.places) ++ decimal.fractionDigits

/-- The decimal that the written form gives back. -/
def reread (decimal : Decimal) : Decimal :=
  ⟨Nat.ofDigitChars 10 decimal.digits 0, decimal.fractionDigits.length⟩

theorem numeral_toChars (decimal : Decimal) : Numeral decimal.toChars decimal.reread := by
  have whole := isWholePart_toDigits (decimal.coefficient / Nat.pow 10 decimal.places)
  have places := allDigits_fractionDigits decimal
  unfold toChars reread digits
  cases fraction : decimal.fractionDigits with
  | nil =>
      rw [List.append_nil]
      exact .whole whole
  | cons first others =>
      rw [fraction] at places
      exact .fraction whole (List.cons_ne_nil _ _) places

/-- The same ratio, in lower terms where zeros were not written. -/
theorem exists_ratio_reread (decimal : Decimal) :
    ∃ factor, 0 < factor ∧
      decimal.coefficient = decimal.reread.coefficient * factor ∧
      Nat.pow 10 decimal.places = Nat.pow 10 decimal.reread.places * factor := by
  rcases Nat.eq_zero_or_pos decimal.places with noPlaces | somePlaces
  · refine ⟨1, Nat.one_pos, ?_, ?_⟩
    · simp [reread, digits, fractionDigits_eq_nil noPlaces, noPlaces]
    · simp [reread, fractionDigits_eq_nil noPlaces, noPlaces]
  · obtain ⟨count, length, rest⟩ := exists_fractionDigits_append_zeros somePlaces
    refine ⟨Nat.pow 10 count, Nat.pow_pos (by decide), ?_, ?_⟩
    · have padded : Nat.ofDigitChars 10 (decimal.digits ++ List.replicate count '0') 0 =
          decimal.coefficient := by
        rw [digits, List.append_assoc, Nat.ofDigitChars_append, Nat.ofDigitChars_ten_toDigits,
          Nat.ofDigitChars_eq_ofDigitChars_zero, rest, List.length_append,
          List.length_replicate, length]
        exact Nat.div_add_mod _ _
      rw [Nat.ofDigitChars_append, Nat.ofDigitChars_replicate_zero, Nat.mul_comm] at padded
      exact padded.symm
    · rw [← length]
      exact Nat.pow_add _ _ _

theorem toFloat_reread (decimal : Decimal) : decimal.reread.toFloat = decimal.toFloat := by
  obtain ⟨factor, positive, coefficient, places⟩ := decimal.exists_ratio_reread
  rw [toFloat, toFloat, Binary64.ofRatio, Binary64.ofRatio, coefficient, places,
    Binary64.nearest_mul_right _ _ positive]

end Reckon.Decimal
