import Mathlib
import Reckon.Binary64

/-!
Contract: a double from its magnitude and its sign.

Negation is defined on unpacked numbers, so the way from the sign bit to it leads
through the packed form.

Owns:
- a double without the sign bit is its magnitude, one with it the negated magnitude;
- the patterns up to infinity are the bits of doubles without a sign, and of no NaN.

Does not own: the arithmetic of doubles.
-/

set_option autoImplicit false

namespace Reckon.Binary64

open Float.Model (Format UnpackedFloat)
open Float.Model.UnpackedFloat (Sign pack isNaNBits unpackExponent unpackMantissa unpackSign)

/-! ### Packed words -/

/-- The packed form of a double. -/
abbrev Word := BitVec Format.binary64.numBits

variable {word bare : Word}

theorem toNat_unpackMantissa (word : Word) :
    (unpackMantissa word).toNat = word.toNat % 2 ^ 52 := by
  simp only [unpackMantissa, BitVec.toNat_cast, BitVec.extractLsb_toNat,
    Nat.shiftRight_eq_div_pow]
  omega

theorem toNat_unpackExponent (word : Word) :
    (unpackExponent word).toNat = word.toNat / 2 ^ 52 % 2 ^ 11 := by
  simp only [unpackExponent, BitVec.toNat_cast, BitVec.extractLsb_toNat,
    Nat.shiftRight_eq_div_pow]

theorem toNat_unpackSign (word : Word) :
    (unpackSign word).toNat = word.toNat / 2 ^ 63 % 2 := by
  simp only [unpackSign, BitVec.toNat_cast, BitVec.extractLsb_toNat,
    Nat.shiftRight_eq_div_pow]

/-- A word and the same word without its sign bit stand for opposite numbers. -/
theorem unpack_eq_neg_of_toNat (signBitMore : bare.toNat + 2 ^ 63 = word.toNat) :
    UnpackedFloat.unpack Format.binary64 bare =
      (UnpackedFloat.unpack Format.binary64 word).neg := by
  have wordLt : word.toNat < 2 ^ 64 := word.isLt
  have mantissa : unpackMantissa bare = unpackMantissa word := by
    apply BitVec.eq_of_toNat_eq
    rw [toNat_unpackMantissa, toNat_unpackMantissa]
    omega
  have exponent : unpackExponent bare = unpackExponent word := by
    apply BitVec.eq_of_toNat_eq
    rw [toNat_unpackExponent, toNat_unpackExponent]
    omega
  have positive : unpackSign bare = 0#1 := by
    apply BitVec.eq_of_toNat_eq
    rw [toNat_unpackSign]
    show bare.toNat / 2 ^ 63 % 2 = 0
    omega
  have negative : unpackSign word = 1#1 := by
    apply BitVec.eq_of_toNat_eq
    rw [toNat_unpackSign]
    show word.toNat / 2 ^ 63 % 2 = 1
    omega
  simp only [UnpackedFloat.unpack, exponent, mantissa, positive, negative]
  split_ifs <;> rfl

/-- Packing changes nothing but the payload of a NaN, which unpacking does not see. -/
theorem unpack_pack_unpack (word : Word) :
    UnpackedFloat.unpack Format.binary64
        (pack Format.binary64 (UnpackedFloat.unpack Format.binary64 word)) =
      UnpackedFloat.unpack Format.binary64 word := by
  rw [UnpackedFloat.pack_unpack word]
  by_cases nan : isNaNBits word = true
  · rw [if_pos nan, UnpackedFloat.unpack_packedNaN]
    simp only [isNaNBits, decide_eq_true_eq] at nan
    simp [UnpackedFloat.unpack, nan]
  · rw [if_neg nan]

theorem unpacked_neg_neg (number : UnpackedFloat) : number.neg.neg = number := by
  have signs (sign : Sign) : - -sign = sign := by cases sign <;> rfl
  cases number <;> simp [UnpackedFloat.neg, signs]

/-! ### Doubles -/

variable {value : Float}

theorem neg_ofBits {bits : UInt64} (signBitMore : bits.toNat + 2 ^ 63 = value.toBits.toNat) :
    -Float.ofBits bits = value := by
  rw [← Float.toBits_inj, ← UInt64.toBitVec_inj]
  show pack Format.binary64 (UnpackedFloat.unpack Format.binary64
    (pack Format.binary64 (UnpackedFloat.unpack Format.binary64 bits.toBitVec))).neg = _
  rw [unpack_pack_unpack, unpack_eq_neg_of_toNat signBitMore, unpacked_neg_neg]
  exact UnpackedFloat.pack_unpack_of_valid value.toModel.valid

theorem ofPattern_magnitude (unsigned : signed value = false) :
    ofPattern (magnitude value) = value := by
  have small : value.toBits.toNat < signBit := Nat.lt_of_not_le (of_decide_eq_false unsigned)
  rw [ofPattern, magnitude, Nat.mod_eq_of_lt small, UInt64.ofNat_toNat, Float.ofBits_toBits]

theorem neg_ofPattern_magnitude (negative : signed value = true) :
    -ofPattern (magnitude value) = value := by
  have large : 2 ^ 63 ≤ value.toBits.toNat := of_decide_eq_true negative
  have bounded : value.toBits.toNat < 2 ^ 64 := value.toBits.toNat_lt
  apply neg_ofBits
  rw [magnitude, show signBit = 2 ^ 63 from rfl, UInt64.toNat_ofNat']
  omega

/-! ### Patterns up to infinity -/

variable {pattern : Nat}

theorem isNaNBits_eq_false (atMost : word.toNat ≤ infinity) : isNaNBits word = false := by
  have bounded : word.toNat ≤ 2047 * 2 ^ 52 := atMost
  rw [isNaNBits, decide_eq_false_iff_not]
  rintro ⟨exponent, mantissa⟩
  have largest : word.toNat / 2 ^ 52 % 2 ^ 11 = 2047 := by
    rw [← toNat_unpackExponent, exponent]
    rfl
  have noFraction : word.toNat % 2 ^ 52 = 0 := by omega
  apply mantissa
  apply BitVec.eq_of_toNat_eq
  rw [toNat_unpackMantissa, noFraction]
  rfl

theorem toNat_toBits_ofPattern (atMost : pattern ≤ infinity) :
    (ofPattern pattern).toBits.toNat = pattern := by
  have small : pattern < 2 ^ 64 := Nat.lt_of_le_of_lt atMost (by decide)
  let bits : Word := (UInt64.ofNat pattern).toBitVec
  have bitsEq : bits.toNat = pattern := by
    show (UInt64.ofNat pattern).toNat = pattern
    rw [UInt64.toNat_ofNat', Nat.mod_eq_of_lt small]
  have notNaN : isNaNBits bits = false := isNaNBits_eq_false (bitsEq.symm ▸ atMost)
  show (pack Format.binary64 (UnpackedFloat.unpack Format.binary64 bits)).toNat = pattern
  rw [UnpackedFloat.pack_unpack, notNaN]
  exact bitsEq

theorem signed_ofPattern (atMost : pattern ≤ infinity) : signed (ofPattern pattern) = false := by
  have unsigned : infinity < signBit := by decide
  rw [signed, toNat_toBits_ofPattern atMost, decide_eq_false_iff_not]
  exact Nat.not_le.mpr (Nat.lt_of_le_of_lt atMost unsigned)

theorem isNaN_ofPattern (atMost : pattern ≤ infinity) : (ofPattern pattern).isNaN = false := by
  rw [Float.isNaN_eq_decide_eq_nan, decide_eq_false_iff_not]
  intro isNaN
  have bits := toNat_toBits_ofPattern atMost
  rw [isNaN] at bits
  have beyond : infinity < Float.nan.toBits.toNat := by decide
  omega

end Reckon.Binary64
