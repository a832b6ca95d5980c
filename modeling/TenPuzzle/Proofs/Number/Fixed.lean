import Mathlib.Data.Nat.Cast.Order.Field
import TenPuzzle.Number.Fixed
import TenPuzzle.Proofs.Number.Layout
import TenPuzzle.Proofs.Number.Whole

/-!
How long decimals with a fixed number of places are. Rounding adds at most one unit of the last place, and the digits
are no more than those of the magnitude in such units.
-/

namespace TenPuzzle.Number

open Float.Model Float.Model.UnpackedFloat

theorem roundHalfEven_le (numerator denominator : Nat) :
    roundHalfEven numerator denominator ≤ numerator / denominator + 1 := by
  unfold roundHalfEven
  dsimp only
  split
  · omega
  · split
    · omega
    · have parity := Nat.mod_lt (numerator / denominator) Nat.two_pos
      omega

theorem atPlaces_le (decimal : ExactDecimal) (places : Nat) :
    (decimal.atPlaces places : ℚ) ≤ decimal.value * 10 ^ places + 1 := by
  have scaled : decimal.value * 10 ^ places = decimal.units * 10 ^ (decimal.exponent + places) := by
    rw [ExactDecimal.value, mul_assoc, ten_zpow_add, zpow_natCast]
  rw [scaled]
  unfold ExactDecimal.atPlaces
  cases decimal.exponent + (places : ℤ) with
  | ofNat power =>
      have whole : ((decimal.units * Nat.pow 10 power : ℕ) : ℚ) = decimal.units * 10 ^ (Int.ofNat power) := by
        rw [Int.ofNat_eq_natCast, zpow_natCast]
        change ((decimal.units * 10 ^ power : ℕ) : ℚ) = _
        push_cast
        rfl
      dsimp only
      rw [whole]
      exact (lt_add_one _).le
  | negSucc power =>
      have rounds : (roundHalfEven decimal.units (10 ^ (power + 1)) : ℚ) ≤
          (decimal.units / 10 ^ (power + 1) : ℕ) + 1 := by
        exact_mod_cast roundHalfEven_le decimal.units (10 ^ (power + 1))
      have quotient : ((decimal.units / 10 ^ (power + 1) : ℕ) : ℚ) ≤ decimal.units / (10 ^ (power + 1) : ℕ) :=
        Nat.cast_div_le
      rw [Nat.cast_pow, Nat.cast_ofNat] at quotient
      rw [zpow_negSucc, ← div_eq_mul_inv]
      change (roundHalfEven decimal.units (10 ^ (power + 1)) : ℚ) ≤ _
      linarith

theorem padLeft_length_le {width places value : Nat} (wide : places < width) (below : value < 10 ^ width) :
    (padLeft (places + 1) (decimalDigits value)).length ≤ width := by
  have digits := (decimalDigits_length_le (Nat.zero_lt_of_lt wide)).mpr below
  rw [padLeft, List.length_append, List.length_replicate]
  omega

/-- A sign and a point are all that comes to the digits. -/
theorem pointed_length_le (negative : Bool) (digits : List Char) (places : Nat) :
    ((if negative then ['-'] else []) ++ digits.take (digits.length - places) ++
      (if places = 0 then [] else '.' :: digits.drop (digits.length - places))).length ≤ digits.length + 2 := by
  have sign : (if negative then ['-'] else []).length ≤ 1 := by cases negative <;> decide
  have point : (if places = 0 then [] else '.' :: digits.drop (digits.length - places)).length ≤
      1 + (digits.length - (digits.length - places)) := by
    split
    · exact Nat.zero_le _
    · rw [List.length_cons, List.length_drop]
      omega
  rw [List.length_append, List.length_append, List.length_take]
  omega

theorem fixed_of_finite {value : Float} {places width : Nat} {negative : Bool} {mantissa : Nat} {exponent : Int}
    (parts : Binary64.ofFloat value = .finite negative mantissa exponent) (wide : places < width)
    (below : (mantissa * 2 ^ exponent * 10 ^ places + 1 : ℚ) < 10 ^ width) :
    (fixed places value).length ≤ width + 2 := by
  have units := (atPlaces_le (.ofBinary mantissa exponent) places).trans_lt (value_ofBinary mantissa exponent ▸ below)
  have padded := padLeft_length_le wide (show (ExactDecimal.ofBinary mantissa exponent).atPlaces places < 10 ^ width
    by exact_mod_cast units)
  unfold fixed
  rw [parts]
  dsimp only
  rw [String.length_ofList]
  exact (pointed_length_le _ _ _).trans (Nat.add_le_add_right padded 2)

/-- The digits of a decimal, with its sign and its point. -/
theorem fixed_length_le {value : Float} {exact : ℚ} {places width : Nat} (isValue : exactValue value = some exact)
    (wide : places < width) (below : |exact| * 10 ^ places + 1 < 10 ^ width) :
    (fixed places value).length ≤ width + 2 := by
  rcases finite_cases isValue with ⟨sign, isZero, rfl⟩ | ⟨sign, mantissa, exponent, positive, unpacks, rfl⟩
  · have parts : Binary64.ofFloat value = .finite (isNegative sign) 0 Binary64.leastExponent := by
      rw [ofFloat_eq_partsOf, isZero, partsOf_zero]
    apply fixed_of_finite parts wide
    simpa using below
  · have parts : Binary64.ofFloat value = .finite (isNegative sign) mantissa exponent := by
      rw [ofFloat_eq_partsOf, unpacks, partsOf_finite]
    apply fixed_of_finite parts wide
    have nonneg : (0 : ℚ) ≤ mantissa * 2 ^ exponent := mul_nonneg (Nat.cast_nonneg _) (two_zpow_pos exponent).le
    rwa [abs_signed, abs_of_nonneg nonneg] at below

end TenPuzzle.Number
