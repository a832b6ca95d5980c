import TenPuzzle.Number.Reading
import TenPuzzle.Proofs.Number.Double

/-!
Decimals with an exponent are read as the nearest double.
-/

namespace TenPuzzle.Number

open Float.Model Float.Model.UnpackedFloat

theorem ten_zpow_pos (power : ℤ) : (0 : ℚ) < 10 ^ power := by positivity

theorem ten_zpow_add (left right : ℤ) : (10 : ℚ) ^ (left + right) = 10 ^ left * 10 ^ right :=
  zpow_add₀ (by norm_num) left right

/-- Whether a mantissa and an exponent of at least minus sixty make up a whole number. -/
def isWhole (number : Nat) : Float.Model.UnpackedFloat → Bool
  | .finite .positive mantissa exponent _ =>
    decide (-60 ≤ exponent ∧ mantissa * 2 ^ (exponent + 60).toNat = number * 2 ^ 60)
  | _ => false

theorem exactValue_of_isWhole {value : Float} {number : Nat}
    (whole : isWhole number value.toModel.unpack = true) : exactValue value = some (number : ℚ) := by
  unfold isWhole at whole
  split at whole
  · next mantissa exponent positive unpacks =>
      obtain ⟨least, scaled⟩ := of_decide_eq_true whole
      rw [exactValue_of_unpack positive unpacks]
      congr 1
      have steps : exponent = ((exponent + 60).toNat : ℤ) + -60 := by omega
      have cast : ((mantissa * 2 ^ (exponent + 60).toNat : ℕ) : ℚ) = (number * 2 ^ 60 : ℕ) := by rw [scaled]
      push_cast at cast
      rw [steps, two_zpow_add, zpow_natCast, zpow_neg, ← mul_assoc, cast]
      exact mul_inv_cancel_right₀ (by positivity) _
  · simp at whole

theorem powers_isWhole : ∀ power : Fin 23,
    isWhole (10 ^ power.val) Float.exactlyRepresentablePowersOfTen[power].toModel.unpack = true := by
  decide

theorem exactValue_power {power : Nat} (small : power < Float.exactlyRepresentablePowersOfTen.size) :
    exactValue Float.exactlyRepresentablePowersOfTen[power] = some ((10 : ℚ) ^ power) := by
  have whole := exactValue_of_isWhole (powers_isWhole ⟨power, small⟩)
  push_cast at whole
  exact whole

theorem log2_mul_le (mantissa factor : Nat) (above : 0 < factor) :
    mantissa.log2 ≤ (mantissa * factor).log2 := by
  by_cases isZero : mantissa = 0
  · simp [isZero]
  · apply (Nat.le_log2 (Nat.mul_pos (Nat.pos_of_ne_zero isZero) above).ne').mpr
    exact Nat.le_trans (Nat.log2_self_le isZero) (Nat.le_mul_of_pos_right _ above)

/-- A decimal is read as the nearest double, unless it lies far outside of their range. -/
theorem nearest_ofScientific {mantissa : Nat} {exponent : Int} (positive : 0 < mantissa)
    (notAbove : exponent ≤ 2048) (notBelow : -(2048 + (mantissa.log2 : Int)) ≤ exponent) :
    IsNearest (mantissa * 10 ^ exponent) (.ofModel (Float.Model.ofScientific mantissa exponent)) := by
  change Nearest _ (Float.Model.pack (UnpackedFloat.ofScientific Format.binary64 mantissa exponent)).unpack
  have bits : (2 : Int) ^ Format.binary64.exponentBits = 2048 := by decide
  unfold UnpackedFloat.ofScientific
  rw [dif_neg positive.ne', bits, if_neg (by omega), if_neg (by omega)]
  by_cases nonneg : 0 ≤ exponent
  · obtain ⟨power, rfl⟩ := Int.eq_ofNat_of_zero_le nonneg
    rw [if_pos nonneg]
    have wide := log2_mul_le (mantissa <<< 53) (10 ^ power) (by positivity)
    rw [log2_shiftLeft positive] at wide
    have fine : (-53 : ℤ) ≤ max (((mantissa <<< 53 * 10 ^ power).log2 : ℤ) + -53 - 52) (-1074) := by
      omega
    have nearest := (describes_exact (mantissa <<< 53 * 10 ^ power)).nearest fine .positive
    have value : signed .positive (((mantissa <<< 53 * 10 ^ power : ℕ) : ℚ) * 2 ^ (-53 : ℤ)) =
        mantissa * 10 ^ (power : ℤ) := by
      rw [Nat.shiftLeft_eq, signed, zpow_natCast]
      push_cast
      rw [zpow_neg]
      field_simp
      norm_num
    rw [value] at nearest
    exact nearest
  · rw [if_neg nonneg]
    have above : 0 < 10 ^ (-exponent).toNat := by positivity
    have dividend : rationalOf (.finite .positive mantissa 0 positive) = some (mantissa : ℚ) := by
      rw [rationalOf_finite, signed, zpow_zero, mul_one]
    have divisor : rationalOf (.finite .positive (10 ^ (-exponent).toNat) 0 above) =
        some ((10 : ℚ) ^ (-exponent).toNat) := by
      rw [rationalOf_finite, signed, zpow_zero, mul_one]
      push_cast
      rfl
    have quotient := nearest_div dividend divisor (by positivity)
    have power : (10 : ℚ) ^ exponent = ((10 : ℚ) ^ (-exponent).toNat)⁻¹ := by
      rw [← zpow_natCast, Int.toNat_of_nonneg (by omega), zpow_neg, inv_inv]
    rw [power, ← div_eq_mul_inv]
    exact quotient

theorem exactValue_toUInt64 {number : Nat} (short : number < 2 ^ 53) :
    exactValue number.toUInt64.toFloat = some (number : ℚ) := by
  have small : number.toUInt64.toNat = number := by
    rw [Nat.toUInt64_eq, UInt64.toNat_ofNat', Nat.mod_eq_of_lt (by omega)]
  have converted := isNearest_toFloat number.toUInt64
  rw [small] at converted
  exact converted.exact short

theorem isNearest_scientific {mantissa : Nat} {exponent : Int} (positive : 0 < mantissa)
    (notAbove : exponent ≤ 2048) (notBelow : -(2048 + (mantissa.log2 : Int)) ≤ exponent) :
    IsNearest (mantissa * 10 ^ exponent)
      (Float.ofScientific mantissa (decide (exponent < 0)) exponent.natAbs) := by
  unfold Float.ofScientific
  split
  · next short =>
      have left := exactValue_toUInt64 short.1
      have right := @exactValue_power exponent.natAbs (Nat.lt_succ_of_le short.2)
      by_cases below : exponent < 0
      · have power : (10 : ℚ) ^ exponent = (10 ^ exponent.natAbs)⁻¹ := by
          rw [← zpow_natCast, ← zpow_neg]
          congr 1
          omega
        rw [power, ← div_eq_mul_inv]
        simp only [below, decide_true, if_true]
        exact isNearest_div left right (by positivity)
      · have power : (10 : ℚ) ^ exponent = 10 ^ exponent.natAbs := by
          rw [← zpow_natCast]
          congr 1
          omega
        rw [power]
        simp only [below, decide_false, Bool.false_eq_true, if_false]
        exact isNearest_mul left right
  · have same : (if decide (exponent < 0) = true then Int.negOfNat exponent.natAbs
        else Int.ofNat exponent.natAbs) = exponent := by
      by_cases below : exponent < 0
      · simp only [below, decide_true, if_true]
        rw [Int.negOfNat_eq]
        exact (Int.eq_neg_natAbs_of_nonpos below.le).symm
      · simp only [below, decide_false, Bool.false_eq_true, if_false]
        exact Int.natAbs_of_nonneg (by omega)
    simp only [same]
    exact nearest_ofScientific positive notAbove notBelow

/-- A whole number written in decimal is read as the nearest double. -/
theorem isNearest_ofScientific (number : Nat) : IsNearest number (Float.ofScientific number false 0) := by
  rcases Nat.eq_zero_or_pos number with rfl | positive
  · exact nearest_zero .positive
  · have nearest := @isNearest_scientific number 0 positive (by decide) (by omega)
    rw [zpow_zero, mul_one] at nearest
    exact nearest

theorem isNearest_ofNat (number : Nat) : IsNearest number (Float.ofInt number) :=
  isNearest_ofScientific number

theorem exactValue_ofScientific {number : Nat} (short : number < 2 ^ 53) :
    exactValue (Float.ofScientific number false 0) = some (number : ℚ) :=
  (isNearest_ofScientific number).exact short

end TenPuzzle.Number
