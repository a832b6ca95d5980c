import Mathlib.Data.Rat.Floor
import TenPuzzle.Proofs.Number.Bits
import TenPuzzle.Proofs.Number.Scientific

/-!
Running totals. A moderate amount never carries a total beyond the doubles, however large the total is
already, and the whole part of a total is its floor.
-/

namespace TenPuzzle.Number

open Float.Model Float.Model.UnpackedFloat

/-- A number that is less than half a unit beyond the greatest double rounds to a double. -/
theorem RoundsTo.abs_lt {exact rounded : ℚ} (rounds : RoundsTo exact rounded)
    (below : |exact| < 2 ^ 1024 - 2 ^ (971 : ℤ) / 2) : |rounded| < 2 ^ 1024 := by
  obtain ⟨unit, multiple, _, normal, _, _, near, _⟩ := rounds
  have greatest := two_zpow_pos 971
  have most : unit ≤ 971 := by
    rcases normal with rfl | normal
    · decide
    · have less := (normal.trans_lt below).trans (sub_lt_self _ (half_pos greatest))
      rw [← zpow_natCast] at less
      have exponents := two_zpow_lt.mp less
      omega
  have close := near.trans (div_le_div_of_nonneg_right (two_zpow_le.mpr most) zero_le_two)
  have triangle : |rounded| ≤ |rounded - exact| + |exact| := by
    simpa using abs_add_le (rounded - exact) exact
  calc
    |rounded| ≤ |rounded - exact| + |exact| := triangle
    _ < 2 ^ (971 : ℤ) / 2 + (2 ^ 1024 - 2 ^ (971 : ℤ) / 2) := add_lt_add_of_le_of_lt close below
    _ = 2 ^ 1024 := add_sub_cancel _ _

theorem RoundsTo.nonneg {exact rounded : ℚ} (rounds : RoundsTo exact rounded) (nonneg : 0 ≤ exact) :
    0 ≤ rounded := by
  obtain ⟨unit, multiple, _, _, _, rfl, near, _⟩ := rounds
  have positive := two_zpow_pos unit
  by_contra negative
  have below : multiple ≤ -1 := by
    by_contra notBelow
    have begun : (0 : ℚ) ≤ multiple := by exact_mod_cast (by omega : 0 ≤ multiple)
    exact negative (mul_nonneg begun positive.le)
  have unitBelow : (multiple * 2 ^ unit : ℚ) ≤ -1 * 2 ^ unit :=
    mul_le_mul_of_nonneg_right (by exact_mod_cast below) positive.le
  have far := (abs_le.mp near).1
  linarith

theorem exactValue_add_moderate {total amount : Float} {exact more : ℚ} (isTotal : exactValue total = some exact)
    (isAmount : exactValue amount = some more) (moderate : |more| ≤ 2 ^ 65) :
    ∃ sum, exactValue (total + amount) = some sum ∧ RoundsTo (exact + more) sum := by
  obtain ⟨sum, rounds, within, _⟩ := isNearest_add isTotal isAmount
  have bound := exactValue_le isTotal
  have room : (2 : ℚ) ^ 65 < 2 ^ (971 : ℤ) / 2 := by
    rw [two_zpow_half, ← zpow_natCast]
    exact two_zpow_lt.mpr (by decide)
  have triangle := abs_add_le exact more
  refine ⟨sum, within (rounds.abs_lt ?_), rounds⟩
  generalize (2 : ℚ) ^ 65 = most at moderate room
  generalize (2 : ℚ) ^ 1024 = top at bound ⊢
  generalize (2 : ℚ) ^ (971 : ℤ) = unit at bound room ⊢
  linarith

theorem exactValue_add {total amount : Float} {exact more : ℚ} (isTotal : exactValue total = some exact)
    (isAmount : exactValue amount = some more) (nonneg : 0 ≤ exact) (adds : 0 ≤ more) (moderate : more ≤ 2 ^ 65) :
    ∃ sum, exactValue (total + amount) = some sum ∧ 0 ≤ sum := by
  obtain ⟨sum, isSum, rounds⟩ := exactValue_add_moderate isTotal isAmount (by rwa [abs_of_nonneg adds])
  exact ⟨sum, isSum, rounds.nonneg (add_nonneg nonneg adds)⟩

theorem exactValue_ofNat {number : Nat} (bounded : number ≤ 2 ^ 63) :
    ∃ exact, exactValue (Float.ofInt number) = some exact ∧ 0 ≤ exact ∧ exact ≤ 2 ^ 65 := by
  have nonneg : (0 : ℚ) ≤ number := Nat.cast_nonneg number
  have bound : (number : ℚ) ≤ 2 ^ 63 := by exact_mod_cast bounded
  have least : (2 : ℚ) ^ (-1075 : ℤ) ≤ 1 := zpow_le_one_of_nonpos₀ one_le_two (by decide)
  obtain ⟨rounded, rounds, within, _⟩ := isNearest_ofNat number
  have error := rounds.error
  rw [abs_of_nonneg nonneg] at error
  have high := (abs_le.mp error).2
  have small : rounded ≤ 2 ^ 65 := by linarith
  refine ⟨rounded, within ?_, rounds.nonneg nonneg, small⟩
  rw [abs_of_nonneg (rounds.nonneg nonneg)]
  have wider : (2 : ℚ) ^ 65 < 2 ^ 1024 := pow_lt_pow_right₀ one_lt_two (by decide)
  exact lt_of_le_of_lt small wider

theorem floor_magnitude (mantissa : Nat) (exponent : Int) :
    ⌊(mantissa * 2 ^ exponent : ℚ)⌋ = (match exponent with
      | .ofNat power => (mantissa * Nat.pow 2 power : Int)
      | .negSucc power => mantissa / Nat.pow 2 (power + 1)) := by
  cases exponent with
  | ofNat power =>
      have whole : (mantissa * 2 ^ (Int.ofNat power) : ℚ) = ((mantissa * 2 ^ power : ℤ) : ℚ) := by
        rw [Int.ofNat_eq_natCast, zpow_natCast]
        push_cast
        rfl
      rw [whole, Int.floor_intCast]
      rfl
  | negSucc power =>
      rw [zpow_negSucc, ← div_eq_mul_inv]
      have quotient := Rat.floor_natCast_div_natCast mantissa (2 ^ (power + 1))
      rw [Nat.cast_pow, Nat.cast_ofNat] at quotient
      exact quotient

theorem wholePart_finite {value : Float} {negative : Bool} {mantissa : Nat} {exponent : Int}
    (parts : Binary64.ofFloat value = .finite negative mantissa exponent) :
    wholePart value = .ok (if negative then -⌊(mantissa * 2 ^ exponent : ℚ)⌋ else ⌊(mantissa * 2 ^ exponent : ℚ)⌋) := by
  rw [wholePart, parts]
  exact congrArg (fun magnitude : Int => Except.ok (if negative then -magnitude else magnitude))
    (floor_magnitude mantissa exponent).symm

theorem wholePart_of_nonneg {value : Float} {exact : ℚ} (isValue : exactValue value = some exact)
    (nonneg : 0 ≤ exact) : wholePart value = .ok ⌊exact⌋ := by
  rcases finite_cases isValue with ⟨sign, isZero, rfl⟩ | ⟨sign, mantissa, exponent, positive, unpacks, rfl⟩
  · have parts : Binary64.ofFloat value = .finite (isNegative sign) 0 Binary64.leastExponent := by
      rw [ofFloat_eq_partsOf, isZero, partsOf_zero]
    rw [wholePart_finite parts]
    simp
  · have parts : Binary64.ofFloat value = .finite (isNegative sign) mantissa exponent := by
      rw [ofFloat_eq_partsOf, unpacks, partsOf_finite]
    rw [wholePart_finite parts]
    have magnitude : (0 : ℚ) < mantissa * 2 ^ exponent :=
      mul_pos (Nat.cast_pos.mpr positive) (two_zpow_pos exponent)
    cases sign with
    | negative =>
        simp only [signed] at nonneg
        linarith
    | positive => rfl

end TenPuzzle.Number
