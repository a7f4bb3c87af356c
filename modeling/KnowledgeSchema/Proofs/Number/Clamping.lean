import Mathlib.Algebra.Order.Field.Basic
import Mathlib.Algebra.Order.Field.Rat
import Mathlib.Data.Nat.Bitwise
import KnowledgeSchema.Number.Double

/-!
# Doubles in the unit interval

The value of a double, read off its exponent and its fraction, and what moving a double into the unit
interval does to it. Whether a value is past one is seen from the bits, because greater values of one
sign have greater bits.
-/

namespace KnowledgeSchema

namespace Double

/-- The number that a double stands for. An infinity counts as the power of two that comes after the
finite doubles. -/
def value (x : Double) : ℚ :=
  if x.isNegative then -(x.numerator / x.denominator) else x.numerator / x.denominator

/-- The nearest double in the unit interval. One that lies there is its own, whatever the sign of a
zero, and so is what is not a number. -/
structure IsClampOf (clamped x : Double) : Prop where
  notNumber : x.isNumber = false → clamped = x
  within : 0 ≤ x.value → x.value ≤ 1 → clamped = x
  below : x.isNumber = true → x.value < 0 → clamped = zero
  above : x.isNumber = true → 1 < x.value → clamped = one

/-! ### Bits -/

theorem toNat_magnitude (x : Double) : x.magnitude.toNat = x.bits.toNat % 2 ^ 63 := by
  rw [magnitude, UInt64.toNat_and]
  exact Nat.and_two_pow_sub_one_eq_mod _ 63

theorem biasedExponent_eq (x : Double) : x.biasedExponent = x.magnitude.toNat / 2 ^ 52 := by
  rw [biasedExponent, UInt64.toNat_shiftRight]
  exact Nat.shiftRight_eq_div_pow _ 52

theorem fraction_eq (x : Double) : x.fraction = x.magnitude.toNat % 2 ^ 52 := by
  rw [toNat_magnitude, Nat.mod_mod_of_dvd _ (by decide), fraction, UInt64.toNat_and]
  exact Nat.and_two_pow_sub_one_eq_mod _ 52

theorem isNegative_iff (x : Double) : x.isNegative = true ↔ 2 ^ 63 ≤ x.bits.toNat := by
  have hbits := x.bits.toNat_lt
  rw [isNegative, beq_iff_eq, ← UInt64.toNat_inj, UInt64.toNat_shiftRight]
  change x.bits.toNat >>> 63 = 1 ↔ _
  rw [Nat.shiftRight_eq_div_pow]
  omega

theorem isZero_iff (x : Double) : x.isZero = true ↔ x.magnitude.toNat = 0 := by
  rw [isZero, beq_iff_eq, ← UInt64.toNat_inj]
  rfl

/-- Of a double without a sign the bits are the magnitude. -/
theorem one_lt_bits_iff {x : Double} (hsign : x.isNegative = false) :
    one.bits < x.bits ↔ 1023 * 2 ^ 52 < x.magnitude.toNat := by
  have hsmall : ¬2 ^ 63 ≤ x.bits.toNat := by
    rw [← isNegative_iff, hsign]
    exact Bool.false_ne_true
  rw [UInt64.lt_iff_toNat_lt, toNat_magnitude, Nat.mod_eq_of_lt (Nat.not_le.mp hsmall)]
  rfl

/-! ### Values -/

theorem powerUp_pos (exponent : Int) : 0 < powerUp 2 exponent :=
  Nat.pow_pos (by decide)

theorem powerUp_le {low high : Int} (hle : low ≤ high) : powerUp 2 low ≤ powerUp 2 high :=
  Nat.pow_le_pow_right (by decide) (Int.toNat_le_toNat hle)

theorem powerUp_of_nonpos {exponent : Int} (hle : exponent ≤ 0) : powerUp 2 exponent = 1 := by
  rw [powerUp, Int.toNat_of_nonpos hle]

theorem mantissa_eq (x : Double) :
    x.mantissa = if x.biasedExponent = 0 then x.fraction else x.fraction + 2 ^ 52 :=
  rfl

theorem numerator_eq_zero_iff (x : Double) : x.numerator = 0 ↔ x.isZero = true := by
  have hexponent := biasedExponent_eq x
  have hfraction := fraction_eq x
  rw [numerator, Nat.mul_eq_zero, or_iff_left (powerUp_pos _).ne', mantissa_eq, isZero_iff]
  by_cases hzero : x.biasedExponent = 0
  · rw [if_pos hzero]
    omega
  · rw [if_neg hzero]
    omega

/-- One has the exponent 1023, and nothing after its point. -/
theorem denominator_lt_numerator_iff (x : Double) :
    x.denominator < x.numerator ↔ 1023 * 2 ^ 52 < x.magnitude.toNat := by
  have hexponent := biasedExponent_eq x
  have hfraction := fraction_eq x
  have hpower : powerUp 2 52 = 2 ^ 52 := rfl
  rw [denominator, numerator, mantissa_eq, exponent]
  by_cases hzero : x.biasedExponent = 0
  · have hlarge : powerUp 2 52 ≤ powerUp 2 (- -1074) := powerUp_le (by decide)
    have hunit : powerUp 2 (-1074) = 1 := powerUp_of_nonpos (by decide)
    rw [if_pos hzero, if_pos hzero, hunit]
    omega
  rw [if_neg hzero, if_neg hzero]
  rcases Nat.lt_or_ge 1075 x.biasedExponent with hlarge | hsmall
  · have hunit : powerUp 2 (-((x.biasedExponent : Int) - 1075)) = 1 :=
      powerUp_of_nonpos (by omega)
    have hle := Nat.le_mul_of_pos_right (x.fraction + 2 ^ 52)
      (powerUp_pos ((x.biasedExponent : Int) - 1075))
    rw [hunit]
    omega
  · have hunit : powerUp 2 ((x.biasedExponent : Int) - 1075) = 1 :=
      powerUp_of_nonpos (by omega)
    rw [hunit, Nat.mul_one]
    rcases Nat.lt_trichotomy x.biasedExponent 1023 with hlow | hone | hhigh
    · have hle : powerUp 2 53 ≤ powerUp 2 (-((x.biasedExponent : Int) - 1075)) :=
        powerUp_le (by omega)
      have hpower : powerUp 2 53 = 2 ^ 53 := rfl
      omega
    · rw [hone]
      have hpower : powerUp 2 (-(((1023 : Nat) : Int) - 1075)) = 2 ^ 52 := rfl
      rw [hpower]
      omega
    · have hle : powerUp 2 (-((x.biasedExponent : Int) - 1075)) ≤ powerUp 2 51 :=
        powerUp_le (by omega)
      have hpower : powerUp 2 51 = 2 ^ 51 := rfl
      omega

theorem denominator_pos (x : Double) : (0 : ℚ) < x.denominator :=
  Nat.cast_pos.mpr (powerUp_pos _)

theorem value_of_isZero {x : Double} (hzero : x.isZero = true) : x.value = 0 := by
  rw [value, (numerator_eq_zero_iff x).mpr hzero, Nat.cast_zero, zero_div, neg_zero, ite_self]

theorem one_lt_value_iff (x : Double) : 1 < x.value ↔ x.isNegative = false ∧ one.bits < x.bits := by
  rw [value]
  cases hsign : x.isNegative with
  | true =>
    have hle : -((x.numerator : ℚ) / x.denominator) ≤ 0 :=
      neg_nonpos.mpr (div_nonneg (Nat.cast_nonneg _) (Nat.cast_nonneg _))
    simp [(hle.trans zero_le_one).not_gt]
  | false =>
    rw [if_neg Bool.false_ne_true, one_lt_div x.denominator_pos, Nat.cast_lt,
      denominator_lt_numerator_iff, ← one_lt_bits_iff hsign]
    simp

theorem value_neg_iff (x : Double) : x.value < 0 ↔ x.isNegative = true ∧ x.isZero = false := by
  rw [value]
  cases hsign : x.isNegative with
  | true =>
    rw [if_pos rfl, neg_lt_zero, div_pos_iff_of_pos_right x.denominator_pos, Nat.cast_pos,
      Nat.pos_iff_ne_zero, Ne, numerator_eq_zero_iff]
    simp
  | false =>
    have hle : (0 : ℚ) ≤ x.numerator / x.denominator :=
      div_nonneg (Nat.cast_nonneg _) (Nat.cast_nonneg _)
    simp [hle.not_gt]

/-- Moving a double into the unit interval gives the nearest one that lies there. -/
theorem isClampOf_clampUnit (x : Double) : x.clampUnit.IsClampOf x := by
  rw [clampUnit]
  refine ⟨fun hother => ?_, fun hlow hhigh => ?_, fun hnumber hlow => ?_, fun hnumber hhigh => ?_⟩
  · rw [hother, Bool.not_false, Bool.or_true, if_pos rfl]
  · split_ifs with hkept hnegative hlarge
    · rfl
    · rw [Bool.or_eq_true, not_or, Bool.not_eq_true] at hkept
      exact absurd ((value_neg_iff x).mpr ⟨hnegative, hkept.1⟩) hlow.not_gt
    · rw [Bool.not_eq_true] at hnegative
      exact absurd ((one_lt_value_iff x).mpr ⟨hnegative, hlarge⟩) hhigh.not_gt
    · rfl
  · obtain ⟨hsign, hzero⟩ := (value_neg_iff x).mp hlow
    rw [hzero, hnumber, hsign, if_neg (by decide), if_pos rfl]
  · obtain ⟨hsign, hlarge⟩ := (one_lt_value_iff x).mp hhigh
    have hzero : x.isZero = false := by
      rw [← Bool.not_eq_true]
      intro hzero
      rw [value_of_isZero hzero] at hhigh
      exact absurd hhigh zero_le_one.not_gt
    rw [hzero, hnumber, hsign, if_neg (by decide), if_neg (by decide), if_pos hlarge]

end Double

end KnowledgeSchema
