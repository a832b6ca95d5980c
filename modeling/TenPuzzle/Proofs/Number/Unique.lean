import TenPuzzle.Proofs.Number.Bits
import TenPuzzle.Proofs.Number.Double

/-!
Rounding has one result, and a number other than zero has one double. So a double is found again from
any number that rounds to it.
-/

namespace TenPuzzle.Number

open Float.Model Float.Model.UnpackedFloat

theorem unit_le {exact : ℚ} {unit other : ℤ} (least : -1074 ≤ unit)
    (normalOther : other = -1074 ∨ (2 : ℚ) ^ (other + 52) ≤ |exact|)
    (bound : |exact| < (2 : ℚ) ^ (unit + 53)) : other ≤ unit := by
  rcases normalOther with isLeast | normal
  · omega
  · have exponents := two_zpow_lt.mp (lt_of_le_of_lt normal bound)
    omega

theorem RoundsTo.unique {exact first second : ℚ} (rounds : RoundsTo exact first)
    (roundsOther : RoundsTo exact second) : first = second := by
  obtain ⟨unit, multiple, least, normal, bound, rfl, near, tie⟩ := rounds
  obtain ⟨other, factor, leastOther, normalOther, boundOther, rfl, nearOther, tieOther⟩ := roundsOther
  obtain rfl : unit = other := le_antisymm (unit_le leastOther normal boundOther)
    (unit_le least normalOther bound)
  have positive := two_zpow_pos unit
  have apart : |(multiple * 2 ^ unit - exact) - (factor * 2 ^ unit - exact)| =
      |((multiple - factor : ℤ) : ℚ)| * 2 ^ unit := by
    rw [sub_sub_sub_cancel_right, ← sub_mul, abs_mul, abs_of_pos positive]
    push_cast
    rfl
  have triangle := abs_sub (multiple * 2 ^ unit - exact) (factor * 2 ^ unit - exact)
  rw [apart] at triangle
  have close : |((multiple - factor : ℤ) : ℚ)| ≤ 1 := by
    by_contra far
    nlinarith
  have within : |multiple - factor| ≤ 1 := by exact_mod_cast close
  by_cases same : multiple = factor
  · rw [same]
  · have one : |multiple - factor| = 1 :=
      le_antisymm within (Int.one_le_abs (sub_ne_zero.mpr same))
    have oneStep : |((multiple - factor : ℤ) : ℚ)| = 1 := by exact_mod_cast one
    rw [oneStep, one_mul] at triangle
    have isEven := (tie (by linarith)).sub (tieOther (by linarith))
    rcases (abs_eq zero_le_one).mp one with above | below
    · rw [above] at isEven
      exact absurd isEven (by decide)
    · rw [below] at isEven
      exact absurd isEven (by decide)

theorem Fits.eq_of_value {mantissa factor : Nat} {exponent power : Int} (fits : Fits mantissa exponent)
    (fitsFactor : Fits factor power) (same : (mantissa * 2 ^ exponent : ℚ) = factor * 2 ^ power) :
    mantissa = factor ∧ exponent = power := by
  have notLess := mt (fits.compare_lt fitsFactor).mp (by rw [same]; exact lt_irrefl _)
  have notGreater := mt (fitsFactor.compare_lt fits).mp (by rw [same]; exact lt_irrefl _)
  obtain less | rfl | greater := lt_trichotomy exponent power
  · rw [Int.compare_eq_lt.mpr less] at notLess
    exact (notLess rfl).elim
  · rw [Int.compare_eq_eq.mpr rfl, Ordering.eq_then, Nat.compare_eq_lt] at notLess notGreater
    exact ⟨by omega, rfl⟩
  · rw [Int.compare_eq_lt.mpr greater] at notGreater
    exact (notGreater rfl).elim

/-- A number other than zero is the value of one double only. -/
theorem eq_of_exactValue {left right : Float} {exact : ℚ} (isLeft : exactValue left = some exact)
    (isRight : exactValue right = some exact) (nonzero : exact ≠ 0) : left = right := by
  have leftCanonical := unpack_isCanonical left.toModel
  have rightCanonical := unpack_isCanonical right.toModel
  apply eq_of_unpack
  rcases finite_cases isLeft with ⟨_, _, rfl⟩ | ⟨sign, mantissa, exponent, positive, unpacks, rfl⟩
  · exact (nonzero rfl).elim
  rcases finite_cases isRight with ⟨_, _, isZero⟩ | ⟨other, factor, power, above, unpacksOther, same⟩
  · exact (nonzero isZero).elim
  rw [unpacks] at leftCanonical
  rw [unpacksOther] at rightCanonical
  have magnitude : (0 : ℚ) < mantissa * 2 ^ exponent :=
    mul_pos (by exact_mod_cast positive) (two_zpow_pos exponent)
  have magnitudeOther : (0 : ℚ) < factor * 2 ^ power :=
    mul_pos (by exact_mod_cast above) (two_zpow_pos power)
  have signs : sign = other := by
    cases sign <;> cases other <;> simp only [signed] at same <;> first | rfl | linarith
  subst signs
  have values : (mantissa * 2 ^ exponent : ℚ) = factor * 2 ^ power := by
    cases sign <;> simpa [signed] using same
  obtain ⟨rfl, rfl⟩ := leftCanonical.1.eq_of_value rightCanonical.1 values
  rw [unpacks, unpacksOther]

theorem IsNearest.eq_of_roundsTo {exact rounded : ℚ} {value found : Float} (nearest : IsNearest exact found)
    (isValue : exactValue value = some rounded) (rounds : RoundsTo exact rounded) (nonzero : rounded ≠ 0) :
    found = value := by
  obtain ⟨result, roundsResult, within, _⟩ := nearest
  obtain rfl := roundsResult.unique rounds
  exact eq_of_exactValue (within (exactValue_lt isValue)) isValue nonzero

end TenPuzzle.Number
