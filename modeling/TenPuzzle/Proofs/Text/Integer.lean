import Mathlib.Algebra.Order.Ring.Int
import Mathlib.Tactic.Positivity
import Mathlib.Tactic.Zify
import TenPuzzle.Proofs.Number.Numeral
import TenPuzzle.Text.Integer

/-!
Integers that can be written: those that do not have too many digits.
-/

namespace TenPuzzle

def IsShort (value : Int) : Prop :=
  (Number.decimalDigits value.natAbs).length ≤ Text.digitLimit

theorem isShort_iff {value : Int} : IsShort value ↔ value.natAbs < 10 ^ Text.digitLimit :=
  Number.decimalDigits_length_le (by decide)

theorem isShort_of_lt {value : Int} (above : 0 ≤ value) (below : value < 10 ^ Text.digitLimit) : IsShort value := by
  rw [isShort_iff]
  zify
  rwa [abs_of_nonneg above]

theorem isShort_zero : IsShort 0 :=
  isShort_of_lt le_rfl (by positivity)

theorem not_isShort_pow : ¬IsShort (10 ^ Text.digitLimit) := by
  have base : Int.natAbs 10 = 10 := rfl
  rw [isShort_iff, Int.natAbs_pow, base]
  exact lt_irrefl _

theorem isTooLong_iff {value : Int} : Text.isTooLong value = true ↔ ¬IsShort value := by
  rw [Text.isTooLong, decide_eq_true_iff, Nat.pow_eq, isShort_iff, Nat.not_lt]

theorem isTooLong_eq_false {value : Int} : Text.isTooLong value = false ↔ IsShort value := by
  rw [← Bool.not_eq_true, isTooLong_iff, not_not]

theorem isShort_digit {digit : Char} (isDigit : digit.isDigit = true) :
    IsShort (Number.valueOfDigits [digit] : Int) := by
  have below : Number.valueOfDigits [digit] < 10 ^ 1 := Number.valueOfDigits_lt (by simpa using isDigit)
  rw [isShort_iff, Int.natAbs_natCast]
  exact below.trans_le (Nat.pow_le_pow_right (by decide) (by decide))

end TenPuzzle
