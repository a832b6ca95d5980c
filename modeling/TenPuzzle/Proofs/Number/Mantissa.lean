import Mathlib.Algebra.Order.Field.Basic
import Mathlib.Algebra.Order.Field.Rat
import Mathlib.Algebra.Ring.Parity
import Mathlib.Tactic.FieldSimp
import Mathlib.Tactic.Linarith
import Mathlib.Tactic.NormNum

/-!
Mantissas with the two bits that rounding needs: which numbers they stand for, and that they round
to the nearest whole number.
-/

namespace TenPuzzle.Number

open Float.Model.UnpackedFloat

/-- A mantissa with a round bit and a sticky bit stands for a number in its quarter of the unit. -/
def Describes (extended : ExtendedMantissa) (exact : ℚ) : Prop :=
  match extended.roundBit, extended.stickyBit with
  | false, false => exact = extended.mantissa
  | false, true => extended.mantissa < exact ∧ exact < extended.mantissa + 1 / 2
  | true, false => exact = extended.mantissa + 1 / 2
  | true, true => extended.mantissa + 1 / 2 < exact ∧ exact < extended.mantissa + 1

theorem describes_exact (mantissa : Nat) :
    Describes (.ofMantissaAndAccuracy mantissa .exact) mantissa := rfl

theorem describes_fraction (mantissa : Nat) {left divisor : Nat} (less : left < divisor) :
    Describes (.ofMantissaAndAccuracy mantissa (accuracyOfFraction left divisor))
      (mantissa + left / divisor) := by
  have positive : (0 : ℚ) < divisor := by exact_mod_cast Nat.zero_lt_of_lt less
  have fraction : (left : ℚ) / divisor < 1 := by
    rw [div_lt_one positive]
    exact_mod_cast less
  unfold accuracyOfFraction
  split
  · next noneLeft => simp [noneLeft, Describes, ExtendedMantissa.ofMantissaAndAccuracy]
  · next someLeft =>
      have begun : (0 : ℚ) < left / divisor := by
        apply div_pos _ positive
        exact_mod_cast Nat.pos_of_ne_zero someLeft
      cases order : compare (2 * left) divisor with
      | lt =>
          have half : (2 * left : ℚ) < divisor := by exact_mod_cast Nat.compare_eq_lt.mp order
          have under : (left : ℚ) / divisor < 1 / 2 := by
            rw [div_lt_div_iff₀ positive two_pos]
            linarith
          simp only [Describes, ExtendedMantissa.ofMantissaAndAccuracy]
          constructor <;> linarith
      | eq =>
          have half : (2 * left : ℚ) = divisor := by exact_mod_cast Nat.compare_eq_eq.mp order
          have same : (left : ℚ) / divisor = 1 / 2 := by
            rw [div_eq_div_iff positive.ne' two_ne_zero]
            linarith
          simp only [Describes, ExtendedMantissa.ofMantissaAndAccuracy]
          rw [same]
      | gt =>
          have half : (divisor : ℚ) < 2 * left := by exact_mod_cast Nat.compare_eq_gt.mp order
          have beyond : (1 : ℚ) / 2 < left / divisor := by
            rw [div_lt_div_iff₀ two_pos positive]
            linarith
          simp only [Describes, ExtendedMantissa.ofMantissaAndAccuracy]
          constructor <;> linarith

theorem describes_quotient (dividend : Nat) {divisor : Nat} (positive : 0 < divisor) :
    Describes (.ofMantissaAndAccuracy (dividend / divisor) (accuracyOfFraction (dividend % divisor) divisor))
      (dividend / divisor) := by
  have isWhole : (dividend : ℚ) / divisor = (dividend / divisor : ℕ) + (dividend % divisor : ℕ) / divisor := by
    have nonzero : (divisor : ℚ) ≠ 0 := by exact_mod_cast positive.ne'
    have parts : ((divisor * (dividend / divisor) + dividend % divisor : ℕ) : ℚ) = dividend := by
      rw [Nat.div_add_mod]
    push_cast at parts
    field_simp
    linarith
  rw [isWhole]
  exact describes_fraction _ (Nat.mod_lt dividend positive)

theorem Describes.bounds {extended : ExtendedMantissa} {exact : ℚ} (describes : Describes extended exact) :
    extended.mantissa ≤ exact ∧ exact < extended.mantissa + 1 := by
  obtain ⟨mantissa, roundBit, stickyBit⟩ := extended
  cases roundBit <;> cases stickyBit <;> simp only [Describes] at describes ⊢
  · constructor <;> linarith
  · constructor <;> linarith
  · constructor <;> linarith
  · constructor <;> linarith

theorem even_add_mod (mantissa : Nat) : Even (mantissa + mantissa % 2) := by
  rw [Nat.even_iff]
  omega

/-- The rounded mantissa is the nearest whole number, and the even one of two. -/
theorem Describes.rounded {extended : ExtendedMantissa} {exact : ℚ} (describes : Describes extended exact) :
    |(extended.roundedMantissa : ℚ) - exact| ≤ 1 / 2 ∧
      (|(extended.roundedMantissa : ℚ) - exact| = 1 / 2 → Even extended.roundedMantissa) := by
  obtain ⟨mantissa, roundBit, stickyBit⟩ := extended
  cases roundBit <;> cases stickyBit <;>
    simp only [Describes, ExtendedMantissa.roundedMantissa, ExtendedMantissa.accuracy,
      Accuracy.roundToNearestEven] at describes ⊢
  · rw [describes, sub_self, abs_zero]
    norm_num
  · have below : (mantissa : ℚ) - exact < 0 := by linarith
    rw [abs_of_neg below]
    exact ⟨by linarith, fun tie => by linarith⟩
  · refine ⟨?_, fun _ => even_add_mod mantissa⟩
    have parity : mantissa % 2 = 0 ∨ mantissa % 2 = 1 := by omega
    rw [abs_le]
    rcases parity with isEven | isOdd
    · rw [isEven]
      push_cast
      constructor <;> linarith
    · rw [isOdd]
      push_cast
      constructor <;> linarith
  · have above : 0 < ((mantissa + 1 : ℕ) : ℚ) - exact := by
      push_cast
      linarith
    rw [abs_of_pos above]
    push_cast
    exact ⟨by linarith, fun tie => by linarith⟩

theorem Describes.shiftRightOne {extended : ExtendedMantissa} {exact : ℚ} (describes : Describes extended exact) :
    Describes extended.shiftRightOne (exact / 2) := by
  obtain ⟨mantissa, roundBit, stickyBit⟩ := extended
  have parts : ((2 * (mantissa / 2) + mantissa % 2 : ℕ) : ℚ) = mantissa := by rw [Nat.div_add_mod]
  have parity : mantissa % 2 = 0 ∨ mantissa % 2 = 1 := by omega
  rcases parity with isEven | isOdd
  · rw [isEven] at parts
    push_cast at parts
    cases roundBit <;> cases stickyBit <;>
      simp only [Describes, ExtendedMantissa.shiftRightOne, isEven, bne_self_eq_false, Bool.or_self,
        Bool.or_true, Bool.true_or] at describes ⊢
    · linarith
    · constructor <;> linarith
    · constructor <;> linarith
    · constructor <;> linarith
  · rw [isOdd] at parts
    push_cast at parts
    cases roundBit <;> cases stickyBit <;>
      simp only [Describes, ExtendedMantissa.shiftRightOne, isOdd, Bool.or_self, Bool.or_true,
        Bool.true_or, show (1 != 0) = true from rfl] at describes ⊢
    · linarith
    · constructor <;> linarith
    · constructor <;> linarith
    · constructor <;> linarith

theorem Describes.shiftRight {extended : ExtendedMantissa} {exact : ℚ} (describes : Describes extended exact)
    (count : Nat) : Describes (extended >>> count) (exact / 2 ^ count) := by
  change Describes (Nat.repeat ExtendedMantissa.shiftRightOne count extended) _
  induction count with
  | zero => simpa [Nat.repeat] using describes
  | succ count ih =>
      have halves : exact / 2 ^ (count + 1) = exact / 2 ^ count / 2 := by
        rw [pow_succ, div_mul_eq_div_div]
      rw [Nat.repeat, halves]
      exact ih.shiftRightOne

end TenPuzzle.Number
