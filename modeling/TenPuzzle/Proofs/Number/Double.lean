import TenPuzzle.Number.Digits
import TenPuzzle.Proofs.Number.Arithmetic

/-!
Doubles as programs use them: every operation, comparison and whole-number literal in terms of the
rational numbers that doubles stand for.
-/

namespace TenPuzzle.Number

open Float.Model Float.Model.UnpackedFloat

theorem IsNearest.close {exact : ℚ} {value : Float} (nearest : IsNearest exact value)
    (moderate : |exact| ≤ 2 ^ 64) :
    ∃ rounded, exactValue value = some rounded ∧
      |rounded - exact| ≤ |exact| / 2 ^ 53 + 2 ^ (-1075 : ℤ) := by
  obtain ⟨rounded, rounds, within, _⟩ := nearest
  have error := rounds.error
  refine ⟨rounded, within ?_, error⟩
  have least : (2 : ℚ) ^ (-1075 : ℤ) ≤ 2 ^ (0 : ℤ) := two_zpow_le.mpr (by decide)
  have triangle : |rounded| ≤ |rounded - exact| + |exact| := by
    simpa using abs_add_le (rounded - exact) exact
  have large : (2 : ℚ) ^ 66 ≤ 2 ^ 1024 := pow_le_pow_right₀ one_le_two (by decide)
  have room : (2 : ℚ) ^ 64 / 2 ^ 53 + 2 ^ (0 : ℤ) + 2 ^ 64 < 2 ^ 66 := by norm_num
  have scaled : |exact| / 2 ^ 53 ≤ 2 ^ 64 / 2 ^ 53 := by
    apply div_le_div_of_nonneg_right moderate
    positivity
  have moved : |rounded - exact| ≤ 2 ^ 64 / 2 ^ 53 + 2 ^ (0 : ℤ) := le_trans error (add_le_add scaled least)
  have small : |rounded| < 2 ^ 66 := by linarith only [triangle, moved, room, moderate]
  exact lt_of_lt_of_le small large

section

variable {left right : Float} {leftExact rightExact : ℚ}

theorem isNearest_add (isLeft : exactValue left = some leftExact) (isRight : exactValue right = some rightExact) :
    IsNearest (leftExact + rightExact) (left + right) :=
  nearest_add (unpack_isCanonical left.toModel) (unpack_isCanonical right.toModel) isLeft isRight

theorem isNearest_sub (isLeft : exactValue left = some leftExact) (isRight : exactValue right = some rightExact) :
    IsNearest (leftExact - rightExact) (left - right) :=
  nearest_sub (unpack_isCanonical left.toModel) (unpack_isCanonical right.toModel) isLeft isRight

theorem isNearest_mul (isLeft : exactValue left = some leftExact) (isRight : exactValue right = some rightExact) :
    IsNearest (leftExact * rightExact) (left * right) :=
  nearest_mul (unpack_isCanonical left.toModel) (unpack_isCanonical right.toModel) isLeft isRight

theorem isNearest_div (isLeft : exactValue left = some leftExact) (isRight : exactValue right = some rightExact)
    (nonzero : rightExact ≠ 0) : IsNearest (leftExact / rightExact) (left / right) :=
  nearest_div isLeft isRight nonzero

end

theorem Fits.compare_lt {mantissa factor : Nat} {exponent power : Int} (fits : Fits mantissa exponent)
    (fitsFactor : Fits factor power) :
    (compare exponent power).then (compare mantissa factor) = .lt ↔
      (mantissa * 2 ^ exponent : ℚ) < factor * 2 ^ power := by
  have apart {short long : Nat} {low high : Int} (fitsShort : Fits short low) (fitsLong : Fits long high)
      (less : low < high) : (short * 2 ^ low : ℚ) < long * 2 ^ high := by
    have least := fitsShort.least
    have bits : (short : ℚ) < 2 ^ (53 : ℤ) := by exact_mod_cast fitsShort.short
    have normal : (2 : ℚ) ^ (52 : ℤ) ≤ long := by exact_mod_cast fitsLong.normal.resolve_right (by omega)
    calc
      (short * 2 ^ low : ℚ) < 2 ^ (53 : ℤ) * 2 ^ low := mul_lt_mul_of_pos_right bits (two_zpow_pos low)
      _ = 2 ^ (53 + low) := (two_zpow_add 53 low).symm
      _ ≤ 2 ^ (52 + high) := two_zpow_le.mpr (by omega)
      _ = 2 ^ (52 : ℤ) * 2 ^ high := two_zpow_add 52 high
      _ ≤ long * 2 ^ high := mul_le_mul_of_nonneg_right normal (two_zpow_pos high).le
  rcases lt_trichotomy exponent power with less | rfl | greater
  · rw [Int.compare_eq_lt.mpr less]
    exact ⟨fun _ => apart fits fitsFactor less, fun _ => rfl⟩
  · rw [Int.compare_eq_eq.mpr rfl, Ordering.eq_then, Nat.compare_eq_lt,
      mul_lt_mul_iff_left₀ (two_zpow_pos exponent), Nat.cast_lt]
  · rw [Int.compare_eq_gt.mpr greater]
    refine ⟨fun impossible => (by cases impossible), ?_⟩
    intro less
    exact absurd less (apart fitsFactor fits greater).not_gt

theorem unpack_abs (value : Float) : value.abs.toModel.unpack = value.toModel.unpack.abs :=
  unpack_pack (unpack_isCanonical value.toModel).abs

theorem exactValue_abs {value : Float} {exact : ℚ} (isValue : exactValue value = some exact) :
    exactValue value.abs = some |exact| := by
  rw [exactValue, unpack_abs]
  rcases finite_cases isValue with ⟨sign, isZero, rfl⟩ | ⟨sign, mantissa, exponent, positive, unpacks, rfl⟩
  · rw [isZero, abs_zero]
    rfl
  · have nonneg : (0 : ℚ) ≤ mantissa * 2 ^ exponent := mul_nonneg (Nat.cast_nonneg _) (two_zpow_pos exponent).le
    rw [unpacks, abs_signed, abs_of_nonneg nonneg]
    rfl

theorem exactValue_of_unpack {value : Float} {mantissa : Nat} {exponent : Int} (positive : 0 < mantissa)
    (unpacks : value.toModel.unpack = .finite .positive mantissa exponent positive) :
    exactValue value = some (mantissa * 2 ^ exponent : ℚ) := by
  rw [exactValue, unpacks]
  rfl

theorem two_pow_1024 : (2 : ℚ) ^ 1024 = 2 ^ 53 * 2 ^ (971 : ℤ) := by
  rw [← zpow_natCast, ← zpow_natCast 2 53, ← two_zpow_add]
  rfl

/-- No double is beyond the greatest one. -/
theorem exactValue_le {value : Float} {exact : ℚ} (isValue : exactValue value = some exact) :
    |exact| ≤ 2 ^ 1024 - 2 ^ (971 : ℤ) := by
  have canonical := unpack_isCanonical value.toModel
  have greatest := two_zpow_pos 971
  rw [two_pow_1024]
  rcases finite_cases isValue with ⟨_, _, rfl⟩ | ⟨sign, mantissa, exponent, positive, unpacks, rfl⟩
  · rw [abs_zero]
    generalize (2 : ℚ) ^ (971 : ℤ) = unit at greatest
    linarith
  · rw [unpacks] at canonical
    obtain ⟨fits, bounded⟩ := canonical
    have unit := two_zpow_pos exponent
    have short : (mantissa + 1 : ℚ) ≤ 2 ^ 53 := by exact_mod_cast fits.short
    rw [abs_signed, abs_of_nonneg (mul_nonneg (Nat.cast_nonneg _) unit.le)]
    calc
      (mantissa * 2 ^ exponent : ℚ) ≤ (2 ^ 53 - 1) * 2 ^ exponent :=
        mul_le_mul_of_nonneg_right (by linarith) unit.le
      _ ≤ (2 ^ 53 - 1) * 2 ^ (971 : ℤ) :=
        mul_le_mul_of_nonneg_left (two_zpow_le.mpr bounded) (by norm_num)
      _ = 2 ^ 53 * 2 ^ (971 : ℤ) - 2 ^ (971 : ℤ) := by ring

theorem exactValue_lt {value : Float} {exact : ℚ} (isValue : exactValue value = some exact) :
    |exact| < 2 ^ 1024 :=
  (exactValue_le isValue).trans_lt (sub_lt_self _ (two_zpow_pos 971))

theorem IsNearest.exact {number : Nat} {value : Float} (nearest : IsNearest number value)
    (short : number < 2 ^ 53) : exactValue value = some (number : ℚ) := by
  obtain ⟨rounded, rounds, within, _⟩ := nearest
  have same : rounded = number := by
    apply @RoundsTo.eq_of_multiple _ _ rounds 0 number
    · simp
    · simpa using short
    · decide
  subst same
  apply within
  have bits : ((number : ℕ) : ℚ) < 2 ^ 53 := by exact_mod_cast short
  have wider : (2 : ℚ) ^ 53 ≤ 2 ^ 1024 := pow_le_pow_right₀ one_le_two (by decide)
  rw [abs_of_nonneg (Nat.cast_nonneg number)]
  exact lt_of_lt_of_le bits wider

theorem isNearest_toFloat (bits : UInt64) : IsNearest bits.toNat bits.toFloat := by
  have nearest : IsNearest ((bits.toNat : ℤ) * 2 ^ (0 : ℤ)) bits.toFloat := nearest_normalize _ 0 .positive
  simpa using nearest

end TenPuzzle.Number
