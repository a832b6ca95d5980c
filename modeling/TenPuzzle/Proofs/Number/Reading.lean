import TenPuzzle.Number.Reading
import TenPuzzle.Proofs.Number.Numeral
import TenPuzzle.Proofs.Number.Scientific
import TenPuzzle.Proofs.Number.Unique

/-!
Reading a decimal finds every double that the decimal rounds to.
-/

namespace TenPuzzle.Number

open Float.Model Float.Model.UnpackedFloat

section

variable {mantissa : Nat} {exponent : Int}

theorem roundsTo_pos {exact rounded : ℚ} (rounds : RoundsTo exact rounded) (nonneg : 0 ≤ exact)
    (positive : 0 < rounded) : 0 < exact := by
  rcases nonneg.lt_or_eq with above | isZero
  · exact above
  · have zero : Fits 0 (-1074) := ⟨by decide, by decide, .inr rfl⟩
    have same := zero.roundsTo .positive
    simp only [signed, Nat.cast_zero, zero_mul] at same
    rw [← isZero] at rounds
    exact absurd (rounds.unique same) positive.ne'

/-- What rounds to a double is no smaller than half of the least one. -/
theorem RoundsTo.within {exact rounded : ℚ} (rounds : RoundsTo exact rounded) (nonneg : 0 ≤ exact)
    (least : (2 : ℚ) ^ (-1074 : ℤ) ≤ rounded) (greatest : rounded < 2 ^ 1024) :
    (2 : ℚ) ^ (-1076 : ℤ) ≤ exact ∧ exact ≤ 2 ^ 1025 := by
  have error := rounds.error
  rw [abs_of_nonneg nonneg, abs_le] at error
  obtain ⟨low, high⟩ := error
  have half : (2 : ℚ) ^ (-1074 : ℤ) = 2 ^ (-1075 : ℤ) + 2 ^ (-1075 : ℤ) := by
    rw [show (-1074 : ℤ) = -1075 + 1 from rfl, two_zpow_add]
    ring
  have quarter : (2 : ℚ) ^ (-1075 : ℤ) = 2 ^ (-1076 : ℤ) + 2 ^ (-1076 : ℤ) := by
    rw [show (-1075 : ℤ) = -1076 + 1 from rfl, two_zpow_add]
    ring
  have tiny : (2 : ℚ) ^ (-1075 : ℤ) ≤ 1 := zpow_le_one_of_nonpos₀ one_le_two (by decide)
  have small : exact / 2 ^ 53 ≤ exact / 2 := by
    apply div_le_div_of_nonneg_left nonneg two_pos
    norm_num
  have large : (2 : ℚ) ^ 1025 = 2 ^ 1024 * 2 := pow_succ 2 1024
  have wide : (2 : ℚ) ^ 2 ≤ 2 ^ 1024 := pow_le_pow_right₀ one_le_two (by decide)
  constructor
  · linarith
  · -- the error is at most one part in four, so that a third of the bound is to spare
    have fourth : exact / 2 ^ 53 ≤ exact / 4 := by
      apply div_le_div_of_nonneg_left nonneg (by norm_num)
      norm_num
    rw [large]
    generalize (2 : ℚ) ^ 1024 = top at greatest wide ⊢
    linarith

theorem exactValue_least {value : Float} {exact : ℚ} (isValue : exactValue value = some exact)
    (positive : 0 < exact) : (2 : ℚ) ^ (-1074 : ℤ) ≤ exact := by
  have canonical := unpack_isCanonical value.toModel
  rcases finite_cases isValue with ⟨_, _, rfl⟩ | ⟨sign, factor, power, begun, unpacks, rfl⟩
  · exact absurd positive (lt_irrefl _)
  rw [unpacks] at canonical
  have unit := two_zpow_pos power
  have one : (1 : ℚ) ≤ factor := by exact_mod_cast begun
  have least : (2 : ℚ) ^ (-1074 : ℤ) ≤ 2 ^ power := two_zpow_le.mpr canonical.1.least
  cases sign with
  | negative =>
      simp only [signed] at positive
      nlinarith
  | positive =>
      simp only [signed]
      nlinarith

theorem ten_zpow_le {left right : ℤ} (le : left ≤ right) : (10 : ℚ) ^ left ≤ 10 ^ right :=
  zpow_le_zpow_right₀ (by norm_num) le

/-- Where the leading digit of a decimal stands bounds the decimal on both sides. -/
theorem decimal_bounds (positive : 0 < mantissa) :
    (10 : ℚ) ^ (exponent + (decimalDigits mantissa).length - 1) ≤ mantissa * 10 ^ exponent ∧
      (mantissa * 10 ^ exponent : ℚ) < 10 ^ (exponent + (decimalDigits mantissa).length) := by
  have unit := ten_zpow_pos exponent
  obtain ⟨count, length⟩ : ∃ count, (decimalDigits mantissa).length = count + 1 :=
    ⟨_, (Nat.succ_pred_eq_of_pos (List.length_pos_iff.mpr (decimalDigits_ne_nil mantissa))).symm⟩
  have least := pow_length_le positive
  have greatest := lt_pow_length mantissa
  rw [length] at least greatest ⊢
  constructor
  · have steps : exponent + (count + 1 : ℕ) - 1 = (count : ℤ) + exponent := by omega
    rw [steps, ten_zpow_add, zpow_natCast]
    exact mul_le_mul_of_nonneg_right (by exact_mod_cast least) unit.le
  · rw [add_comm, ten_zpow_add, zpow_natCast]
    exact mul_lt_mul_of_pos_right (by exact_mod_cast greatest) unit

theorem decimalDigits_length_le_log2 (positive : 0 < mantissa) :
    (decimalDigits mantissa).length ≤ mantissa.log2 + 1 := by
  have least := pow_length_le positive
  have powers : 2 ^ ((decimalDigits mantissa).length - 1) ≤ 10 ^ ((decimalDigits mantissa).length - 1) :=
    Nat.pow_le_pow_left (by decide) _
  have bits := (Nat.le_log2 positive.ne').mpr (Nat.le_trans powers least)
  omega

theorem nearestFloat_of_roundsTo {value : Float} {rounded : ℚ} (isValue : exactValue value = some rounded)
    (rounds : RoundsTo (mantissa * 10 ^ exponent) rounded) (positive : 0 < rounded) :
    nearestFloat mantissa exponent = value := by
  have unit := ten_zpow_pos exponent
  have nonneg : (0 : ℚ) ≤ mantissa * 10 ^ exponent := mul_nonneg (Nat.cast_nonneg _) unit.le
  have begun : 0 < mantissa := by
    apply Nat.pos_of_ne_zero
    rintro rfl
    have above := roundsTo_pos rounds nonneg positive
    rw [Nat.cast_zero, zero_mul] at above
    exact lt_irrefl _ above
  have greatest := exactValue_lt isValue
  rw [abs_of_pos positive] at greatest
  obtain ⟨least, most⟩ := rounds.within nonneg (exactValue_least isValue positive) greatest
  obtain ⟨floor, ceiling⟩ := @decimal_bounds mantissa exponent begun
  have digits := decimalDigits_length_le_log2 begun
  have notBelow : -400 ≤ exponent + (decimalDigits mantissa).length := by
    by_contra below
    have tiny := lt_of_lt_of_le (lt_of_le_of_lt least ceiling)
      (ten_zpow_le (show exponent + (decimalDigits mantissa).length ≤ -401 by omega))
    rw [zpow_neg, zpow_neg, inv_lt_inv₀ (by positivity) (by positivity)] at tiny
    have less : (2 : ℕ) ^ 1076 < 10 ^ 401 := by decide +kernel
    exact absurd tiny (not_lt.mpr (by exact_mod_cast less.le))
  have notAbove : exponent + (decimalDigits mantissa).length ≤ 400 := by
    by_contra above
    have huge := le_trans (ten_zpow_le (show 400 ≤ exponent + (decimalDigits mantissa).length - 1 by omega))
      (le_trans floor most)
    have less : (2 : ℕ) ^ 1025 < 10 ^ 400 := by decide +kernel
    exact absurd huge (not_le.mpr (by exact_mod_cast less))
  have nearest := isNearest_scientific begun (show exponent ≤ 2048 by omega)
    (show -(2048 + (mantissa.log2 : Int)) ≤ exponent by omega)
  unfold nearestFloat
  dsimp only
  rw [if_neg (by omega), if_neg (by omega)]
  exact nearest.eq_of_roundsTo isValue rounds positive.ne'

end

theorem unpack_neg (value : Float) : (-value).toModel.unpack = value.toModel.unpack.neg :=
  unpack_pack (unpack_isCanonical value.toModel).neg

theorem neg_neg_eq (value : Float) : - -value = value := by
  apply eq_of_unpack
  rw [unpack_neg, unpack_neg]
  cases value.toModel.unpack with
  | notANumber => rfl
  | infinity sign => cases sign <;> rfl
  | zero sign => cases sign <;> rfl
  | finite sign mantissa exponent positive => cases sign <;> rfl

end TenPuzzle.Number
