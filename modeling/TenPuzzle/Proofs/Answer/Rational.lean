import Mathlib.Algebra.Order.Field.Rat
import Mathlib.Tactic.FieldSimp
import Mathlib.Tactic.GCongr
import Mathlib.Tactic.Linarith
import Mathlib.Tactic.Positivity
import Mathlib.Tactic.Ring
import TenPuzzle.Expression.Basic
import TenPuzzle.Proofs.Expression.Evaluation

/-!
Exact values of expressions over digits. They are fractions whose parts are bounded by powers of
nine, so two different ones, or one and a whole number, cannot lie close together.
-/

namespace TenPuzzle

def rationalOperation : Operator → ℚ → ℚ → Option ℚ
  | .add, left, right => some (left + right)
  | .sub, left, right => some (left - right)
  | .mul, left, right => some (left * right)
  | .div, left, right => if right = 0 then none else some (left / right)

def Arithmetic.rationals : Arithmetic ℚ where
  number digits := Number.valueOfDigits digits
  negate value := -value
  group value := value
  apply := rationalOperation

theorem rationals_refuses : Arithmetic.rationals.Refuses fun value => value = 0 := by
  intro operator left right
  cases operator <;> simp [Arithmetic.rationals, rationalOperation]

/-- A fraction that so many digits can make. -/
def OfDigits (count : ℕ) (exact : ℚ) : Prop :=
  ∃ (dividend : ℤ) (divisor : ℕ), exact = dividend / divisor ∧ 0 < divisor ∧
    divisor * 9 ≤ 9 ^ count ∧ |dividend| ≤ 9 ^ count

theorem ofDigits_one {value : ℕ} (small : value ≤ 9) : OfDigits 1 value :=
  ⟨value, 1, by simp, Nat.one_pos, by simp, by simpa using small⟩

section

variable {leftCount rightCount : ℕ} {left right : ℚ}

theorem abs_mul_le {dividend : ℤ} {divisor : ℕ} (bound : |dividend| ≤ 9 ^ leftCount)
    (small : divisor * 9 ≤ 9 ^ rightCount) : |dividend * divisor| * 9 ≤ 9 ^ (leftCount + rightCount) := by
  have small : (divisor : ℤ) * 9 ≤ 9 ^ rightCount := by exact_mod_cast small
  rw [abs_mul, Nat.abs_cast, mul_assoc, pow_add]
  exact mul_le_mul bound small (by positivity) (by positivity)

theorem OfDigits.add (isLeft : OfDigits leftCount left) (isRight : OfDigits rightCount right) :
    OfDigits (leftCount + rightCount) (left + right) := by
  obtain ⟨dividend, divisor, rfl, positive, small, bound⟩ := isLeft
  obtain ⟨other, factor, rfl, above, short, limit⟩ := isRight
  refine ⟨dividend * factor + other * divisor, divisor * factor, ?_, Nat.mul_pos positive above, ?_, ?_⟩
  · have first : (divisor : ℚ) ≠ 0 := by exact_mod_cast positive.ne'
    have second : (factor : ℚ) ≠ 0 := by exact_mod_cast above.ne'
    push_cast
    field_simp
  · rw [pow_add]
    nlinarith [Nat.mul_le_mul small short]
  · have first := abs_mul_le bound short
    have second := abs_mul_le limit small
    have triangle := abs_add_le (dividend * (factor : ℤ)) (other * (divisor : ℤ))
    rw [Nat.add_comm rightCount leftCount] at second
    have magnitude : (0 : ℤ) ≤ 9 ^ (leftCount + rightCount) := by positivity
    linarith

theorem OfDigits.neg {count : ℕ} {exact : ℚ} (isExact : OfDigits count exact) : OfDigits count (-exact) := by
  obtain ⟨dividend, divisor, rfl, positive, small, bound⟩ := isExact
  refine ⟨-dividend, divisor, ?_, positive, small, by rwa [abs_neg]⟩
  push_cast
  ring

theorem OfDigits.sub (isLeft : OfDigits leftCount left) (isRight : OfDigits rightCount right) :
    OfDigits (leftCount + rightCount) (left - right) := by
  rw [sub_eq_add_neg]
  exact isLeft.add isRight.neg

theorem OfDigits.mul (isLeft : OfDigits leftCount left) (isRight : OfDigits rightCount right) :
    OfDigits (leftCount + rightCount) (left * right) := by
  obtain ⟨dividend, divisor, rfl, positive, small, bound⟩ := isLeft
  obtain ⟨other, factor, rfl, above, short, limit⟩ := isRight
  refine ⟨dividend * other, divisor * factor, ?_, Nat.mul_pos positive above, ?_, ?_⟩
  · push_cast
    exact div_mul_div_comm _ _ _ _
  · rw [pow_add]
    nlinarith [Nat.mul_le_mul small short]
  · rw [abs_mul, pow_add]
    exact mul_le_mul bound limit (abs_nonneg _) (by positivity)

theorem OfDigits.div_fraction {magnitude factor : ℕ} (isLeft : OfDigits leftCount left)
    (positive : 0 < magnitude) (short : factor * 9 ≤ 9 ^ rightCount) (limit : magnitude ≤ 9 ^ rightCount) :
    OfDigits (leftCount + rightCount) (left / (magnitude / factor)) := by
  obtain ⟨dividend, divisor, rfl, begun, small, bound⟩ := isLeft
  refine ⟨dividend * factor, divisor * magnitude, ?_, Nat.mul_pos begun positive, ?_, ?_⟩
  · push_cast
    exact div_div_div_eq _ _ _ _
  · rw [pow_add]
    nlinarith [Nat.mul_le_mul small limit]
  · have product := abs_mul_le bound short
    have magnitude := abs_nonneg (dividend * (factor : ℤ))
    linarith

theorem OfDigits.div (isLeft : OfDigits leftCount left) (isRight : OfDigits rightCount right)
    (nonzero : right ≠ 0) : OfDigits (leftCount + rightCount) (left / right) := by
  obtain ⟨other, factor, rfl, _, short, limit⟩ := isRight
  obtain ⟨magnitude, isMagnitude⟩ := other.eq_nat_or_neg
  have positive : 0 < magnitude := by
    apply Nat.pos_of_ne_zero
    rintro rfl
    simp_all
  rcases isMagnitude with rfl | rfl
  · rw [Nat.abs_cast] at limit
    exact isLeft.div_fraction positive short (by exact_mod_cast limit)
  · rw [abs_neg, Nat.abs_cast] at limit
    have quotient := isLeft.div_fraction positive short (by exact_mod_cast limit)
    have opposite : left / (((-magnitude : ℤ) : ℚ) / factor) = -(left / (magnitude / factor)) := by
      push_cast
      rw [neg_div, div_neg]
    rw [opposite]
    exact quotient.neg

end

theorem OfDigits.magnitude {count : ℕ} {exact : ℚ} (isExact : OfDigits count exact) : |exact| ≤ 9 ^ count := by
  obtain ⟨dividend, divisor, rfl, positive, small, bound⟩ := isExact
  have bound : |(dividend : ℚ)| ≤ 9 ^ count := by exact_mod_cast bound
  have begun : (1 : ℚ) ≤ divisor := by exact_mod_cast positive
  rw [abs_div, Nat.abs_cast]
  exact div_le_of_le_mul₀ (by linarith) (by positivity) (by nlinarith [abs_nonneg (dividend : ℚ)])

/-- A fraction over digits that is not a given whole number stays away from it. -/
theorem OfDigits.apart {count : ℕ} {exact : ℚ} (isExact : OfDigits count exact) {whole : ℤ}
    (different : exact ≠ whole) : 9 / 9 ^ count ≤ |exact - whole| := by
  obtain ⟨dividend, divisor, rfl, positive, small, bound⟩ := isExact
  have begun : (0 : ℚ) < divisor := by exact_mod_cast positive
  have difference : (dividend / divisor - whole : ℚ) = ((dividend - whole * divisor : ℤ) : ℚ) / divisor := by
    push_cast
    field_simp
  have nonzero : dividend - whole * divisor ≠ 0 := by
    intro same
    apply different
    rw [← sub_eq_zero, difference, same, Int.cast_zero, zero_div]
  have least : (1 : ℚ) ≤ |((dividend - whole * divisor : ℤ) : ℚ)| := by
    exact_mod_cast Int.one_le_abs nonzero
  have small : (divisor : ℚ) * 9 ≤ 9 ^ count := by exact_mod_cast small
  rw [difference, abs_div, Nat.abs_cast, div_le_div_iff₀ (by positivity) begun]
  have power : (0 : ℚ) < 9 ^ count := by positivity
  nlinarith

end TenPuzzle
