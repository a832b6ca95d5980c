import Mathlib.Algebra.Order.Field.Power
import Mathlib.Algebra.Order.Field.Rat
import Mathlib.Algebra.Ring.Parity
import Mathlib.Tactic.Linarith
import Mathlib.Tactic.Positivity
import Mathlib.Tactic.Push
import Mathlib.Tactic.Ring

/-!
Rounding of rational numbers to doubles. A double of some magnitude is a whole number of units, and
the unit is a power of two that the magnitude fixes.
-/

namespace TenPuzzle.Number

/-- The nearest multiple of the unit that belongs to a number's magnitude, and of two equally near
ones the even multiple. -/
def RoundsTo (exact rounded : ℚ) : Prop :=
  ∃ unit multiple : ℤ, -1074 ≤ unit ∧ (unit = -1074 ∨ (2 : ℚ) ^ (unit + 52) ≤ |exact|) ∧
    |exact| < (2 : ℚ) ^ (unit + 53) ∧ rounded = multiple * (2 : ℚ) ^ unit ∧
    |rounded - exact| ≤ (2 : ℚ) ^ unit / 2 ∧ (|rounded - exact| = (2 : ℚ) ^ unit / 2 → Even multiple)

theorem two_zpow_pos (power : ℤ) : (0 : ℚ) < 2 ^ power := by positivity

theorem two_zpow_add (left right : ℤ) : (2 : ℚ) ^ (left + right) = 2 ^ left * 2 ^ right :=
  zpow_add₀ two_ne_zero left right

theorem two_zpow_le {left right : ℤ} : (2 : ℚ) ^ left ≤ 2 ^ right ↔ left ≤ right :=
  zpow_le_zpow_iff_right₀ one_lt_two

theorem two_zpow_lt {left right : ℤ} : (2 : ℚ) ^ left < 2 ^ right ↔ left < right :=
  zpow_lt_zpow_iff_right₀ one_lt_two

theorem two_zpow_half (power : ℤ) : (2 : ℚ) ^ power / 2 = 2 ^ (power - 1) := by
  rw [zpow_sub_one₀ two_ne_zero, div_eq_mul_inv]

theorem RoundsTo.neg {exact rounded : ℚ} (rounds : RoundsTo exact rounded) :
    RoundsTo (-exact) (-rounded) := by
  obtain ⟨unit, multiple, least, normal, bound, isMultiple, near, tie⟩ := rounds
  have distance : |-rounded - -exact| = |rounded - exact| := by
    rw [← abs_neg, neg_sub_neg, neg_sub, abs_sub_comm]
  refine ⟨unit, -multiple, least, ?_, ?_, ?_, ?_, ?_⟩
  · rwa [abs_neg]
  · rwa [abs_neg]
  · rw [isMultiple]
    push_cast
    ring
  · rwa [distance]
  · rw [distance]
    intro isTie
    exact (tie isTie).neg

theorem roundsTo_of_near {scaled : ℚ} {unit : ℤ} {multiple : ℕ} (least : -1074 ≤ unit)
    (nonneg : 0 ≤ scaled) (short : scaled < 2 ^ 53) (normal : 2 ^ 52 ≤ scaled ∨ unit = -1074)
    (near : |(multiple : ℚ) - scaled| ≤ 1 / 2)
    (tie : |(multiple : ℚ) - scaled| = 1 / 2 → Even multiple) :
    RoundsTo (scaled * 2 ^ unit) (multiple * 2 ^ unit) := by
  have positive := two_zpow_pos unit
  have magnitude : |scaled * 2 ^ unit| = scaled * 2 ^ unit := abs_of_nonneg (mul_nonneg nonneg positive.le)
  have distance : |multiple * 2 ^ unit - scaled * 2 ^ unit| = |(multiple : ℚ) - scaled| * 2 ^ unit := by
    rw [← sub_mul, abs_mul, abs_of_pos positive]
  refine ⟨unit, multiple, least, ?_, ?_, ?_, ?_, ?_⟩
  · rw [magnitude, two_zpow_add, mul_comm (2 ^ unit)]
    rcases normal with normal | isLeast
    · exact .inr (mul_le_mul_of_nonneg_right normal positive.le)
    · exact .inl isLeast
  · rw [magnitude, two_zpow_add, mul_comm (2 ^ unit)]
    exact mul_lt_mul_of_pos_right short positive
  · simp
  · rw [distance]
    linarith [mul_le_mul_of_nonneg_right near positive.le]
  · rw [distance]
    intro isTie
    have half : |(multiple : ℚ) - scaled| = 1 / 2 := by
      apply mul_right_cancel₀ positive.ne'
      linarith
    exact_mod_cast tie half

/-- Rounding moves a number by at most one part in two to the fifty-third, or by half of the least unit. -/
theorem RoundsTo.error {exact rounded : ℚ} (rounds : RoundsTo exact rounded) :
    |rounded - exact| ≤ |exact| / 2 ^ 53 + 2 ^ (-1075 : ℤ) := by
  obtain ⟨unit, multiple, least, normal, bound, isMultiple, near, tie⟩ := rounds
  rcases normal with rfl | normal
  · have magnitude : 0 ≤ |exact| / 2 ^ 53 := by positivity
    rw [two_zpow_half, show (-1074 - 1 : ℤ) = -1075 from rfl] at near
    linarith
  · have scaled : (2 : ℚ) ^ (unit + 52) = 2 ^ unit * 2 ^ 52 := by
      rw [two_zpow_add]
      norm_num
    rw [scaled] at normal
    have least := two_zpow_pos (-1075)
    have relative : (2 : ℚ) ^ unit / 2 ≤ |exact| / 2 ^ 53 := by
      rw [div_le_div_iff₀ (by norm_num) (by positivity)]
      linarith
    linarith

theorem RoundsTo.eq_of_multiple {exact rounded : ℚ} (rounds : RoundsTo exact rounded) {scale : ℤ} {units : ℤ}
    (isMultiple : exact = units * (2 : ℚ) ^ scale) (short : |units| < 2 ^ 53) (fine : -1074 ≤ scale) :
    rounded = exact := by
  obtain ⟨unit, multiple, least, normal, bound, isRounded, near, tie⟩ := rounds
  have finer : unit ≤ scale := by
    rcases normal with rfl | normal
    · exact fine
    · have magnitude : |exact| < (2 : ℚ) ^ (scale + 53) := by
        rw [isMultiple, abs_mul, abs_of_pos (two_zpow_pos scale), two_zpow_add, mul_comm]
        have cast : (|units| : ℚ) < 2 ^ (53 : ℤ) := by exact_mod_cast short
        exact mul_lt_mul_of_pos_left cast (two_zpow_pos scale)
      have exponents := two_zpow_lt.mp (lt_of_le_of_lt normal magnitude)
      omega
  obtain ⟨steps, rfl⟩ : ∃ steps : ℕ, scale = unit + steps := ⟨(scale - unit).toNat, by omega⟩
  have whole : exact = ((units * 2 ^ steps : ℤ) : ℚ) * 2 ^ unit := by
    rw [isMultiple, two_zpow_add, zpow_natCast]
    push_cast
    ring
  have close : |(multiple - units * 2 ^ steps : ℤ)| < 1 := by
    rw [isRounded, whole, ← sub_mul, abs_mul, abs_of_pos (two_zpow_pos unit)] at near
    have half : |((multiple : ℤ) : ℚ) - ((units * 2 ^ steps : ℤ) : ℚ)| ≤ 1 / 2 := by
      have positive := two_zpow_pos unit
      by_contra far
      have more : (2 : ℚ) ^ unit / 2 < |(multiple : ℚ) - ((units * 2 ^ steps : ℤ) : ℚ)| * 2 ^ unit := by
        nlinarith
      linarith
    have below : |((multiple : ℤ) : ℚ) - ((units * 2 ^ steps : ℤ) : ℚ)| < 1 := by linarith
    exact_mod_cast below
  have same : multiple = units * 2 ^ steps := by
    have zero := Int.abs_lt_one_iff.mp close
    omega
  rw [isRounded, same, ← whole]

end TenPuzzle.Number
