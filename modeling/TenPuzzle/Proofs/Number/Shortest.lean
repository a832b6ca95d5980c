import TenPuzzle.Number.Shortest
import TenPuzzle.Proofs.Number.Nearest

/-!
Shortest decimals lie where they round back to the double that they are written for.
-/

namespace TenPuzzle.Number

def ExactDecimal.value (decimal : ExactDecimal) : ℚ :=
  decimal.units * 10 ^ decimal.exponent

theorem value_ofBinary (mantissa : Nat) (exponent : Int) :
    (ExactDecimal.ofBinary mantissa exponent).value = mantissa * 2 ^ exponent := by
  cases exponent with
  | ofNat power =>
      change ((mantissa * 2 ^ power : ℕ) : ℚ) * 10 ^ (0 : ℤ) = mantissa * 2 ^ (power : ℤ)
      rw [zpow_zero, mul_one, zpow_natCast]
      push_cast
      rfl
  | negSucc power =>
      change ((mantissa * 5 ^ (power + 1) : ℕ) : ℚ) * 10 ^ (Int.negSucc power) = mantissa * 2 ^ (Int.negSucc power)
      have ten : (10 : ℚ) ^ (power + 1) = 2 ^ (power + 1) * 5 ^ (power + 1) := by
        rw [← mul_pow]
        norm_num
      rw [zpow_negSucc, zpow_negSucc, ten]
      push_cast
      field_simp

theorem units_pos (exponent : Int) : 0 < (ExactDecimal.ofBinary 1 exponent).units := by
  cases exponent with
  | ofNat power =>
      change 0 < 1 * 2 ^ power
      positivity
  | negSucc power =>
      change 0 < 1 * 5 ^ (power + 1)
      positivity

theorem Rounding.holds_onGrid {rounding : Rounding} {grid units : Nat}
    (found : rounding.onGrid? grid = some units) : rounding.holds (units * grid) = true := by
  unfold onGrid? at found
  dsimp only at found
  split at found
  · next fits =>
      cases found
      rw [Bool.and_eq_true] at fits
      exact fits.1
  · split at found
    · next fits =>
        cases found
        exact fits
    · cases found

/-- Every decimal tried lies in the interval, and the exact value is there when none is found. -/
theorem Rounding.shortest_holds {rounding : Rounding} (holdsValue : rounding.holds rounding.value = true)
    (length tries digits : Nat) :
    ∃ held, rounding.holds held = true ∧
      (rounding.shortest length tries digits).value = held * 10 ^ rounding.exponent := by
  induction tries generalizing digits with
  | zero => exact ⟨rounding.value, holdsValue, rfl⟩
  | succ tries ih =>
      unfold shortest
      split
      · next units found =>
          refine ⟨units * Nat.pow 10 (length - digits), holds_onGrid found, ?_⟩
          change (units : ℚ) * 10 ^ (rounding.exponent + (length - digits : ℕ)) = _
          rw [zpow_add₀ (by norm_num), zpow_natCast, Nat.cast_mul, Nat.pow_eq]
          push_cast
          ring
      · exact ih (digits + 1)

/-- How many quarters of its unit a double reaches down; below a power of two it is half as many. -/
def reach (mantissa : Nat) (exponent : Int) : Nat :=
  if mantissa = Binary64.normalMantissa ∧ exponent ≠ Binary64.leastExponent then 1 else 2

theorem reach_pos (mantissa : Nat) (exponent : Int) : 0 < reach mantissa exponent := by
  unfold reach
  split <;> decide

theorem reach_le (mantissa : Nat) (exponent : Int) : reach mantissa exponent ≤ 2 := by
  unfold reach
  split <;> decide

theorem two_zpow_double (power : ℤ) : (2 : ℚ) ^ power = 2 ^ (power - 1) * 2 := by
  rw [← zpow_add_one₀ two_ne_zero, sub_add_cancel]

theorem two_zpow_quadruple (power : ℤ) : (2 : ℚ) ^ power = 2 ^ (power - 2) * 4 := by
  rw [two_zpow_double power, two_zpow_double (power - 1), mul_assoc, sub_sub]
  norm_num

section

variable {mantissa : Nat} {exponent : Int}

theorem Rounding.of_holds_value (positive : 0 < mantissa) :
    (Rounding.of mantissa exponent).holds (Rounding.of mantissa exponent).value = true := by
  have units := units_pos (exponent - 2)
  have begun := reach_pos mantissa exponent
  have low : (4 * mantissa - reach mantissa exponent) * (ExactDecimal.ofBinary 1 (exponent - 2)).units <
      4 * mantissa * (ExactDecimal.ofBinary 1 (exponent - 2)).units :=
    Nat.mul_lt_mul_of_pos_right (by omega) units
  have high : 4 * mantissa * (ExactDecimal.ofBinary 1 (exponent - 2)).units <
      (4 * mantissa + 2) * (ExactDecimal.ofBinary 1 (exponent - 2)).units :=
    Nat.mul_lt_mul_of_pos_right (by omega) units
  unfold Rounding.holds
  split
  · rw [Bool.and_eq_true]
    exact ⟨decide_eq_true low.le, decide_eq_true high.le⟩
  · rw [Bool.and_eq_true]
    exact ⟨decide_eq_true low, decide_eq_true high⟩

/-- The interval in quarters of the unit. -/
theorem Rounding.quarters {held : Nat} (positive : 0 < mantissa)
    (holds : (Rounding.of mantissa exponent).holds held = true) :
    ∃ quarters : ℚ, held * (10 : ℚ) ^ (Rounding.of mantissa exponent).exponent = quarters * 2 ^ (exponent - 2) ∧
      4 * mantissa - reach mantissa exponent ≤ quarters ∧ quarters ≤ 4 * mantissa + 2 ∧
      (¬Even mantissa → 4 * mantissa - reach mantissa exponent < quarters ∧ quarters < 4 * mantissa + 2) := by
  have units : (0 : ℚ) < (ExactDecimal.ofBinary 1 (exponent - 2)).units := by exact_mod_cast units_pos _
  have scale := value_ofBinary 1 (exponent - 2)
  rw [ExactDecimal.value, Nat.cast_one, one_mul] at scale
  have small := reach_le mantissa exponent
  have difference : ((4 * mantissa - reach mantissa exponent : ℕ) : ℚ) = 4 * mantissa - reach mantissa exponent := by
    rw [Nat.cast_sub (by omega)]
    push_cast
    rfl
  rw [← difference]
  refine ⟨held / (ExactDecimal.ofBinary 1 (exponent - 2)).units, ?_, ?_⟩
  · rw [← scale]
    change _ * _ ^ (ExactDecimal.ofBinary 1 (exponent - 2)).exponent = _
    field_simp
  · rw [le_div_iff₀ units, div_le_iff₀ units, lt_div_iff₀ units, div_lt_iff₀ units]
    have closed : (Rounding.of mantissa exponent).closed = decide (mantissa % 2 = 0) := rfl
    unfold Rounding.holds at holds
    rw [closed] at holds
    split at holds
    · next isEven =>
        rw [Bool.and_eq_true, decide_eq_true_eq, decide_eq_true_eq] at holds
        refine ⟨by exact_mod_cast holds.1, by exact_mod_cast holds.2, ?_⟩
        intro isOdd
        exact (isOdd (Nat.even_iff.mpr (of_decide_eq_true isEven))).elim
    · rw [Bool.and_eq_true, decide_eq_true_eq, decide_eq_true_eq] at holds
      obtain ⟨low, high⟩ := holds
      refine ⟨by exact_mod_cast low.le, by exact_mod_cast high.le, fun _ => ⟨?_, ?_⟩⟩
      · exact_mod_cast low
      · exact_mod_cast high

/-- Just below a power of two the unit is half as large. -/
theorem roundsTo_power {quarters : ℚ} (above : -1074 < exponent) (low : 4 * 2 ^ 52 - 1 ≤ quarters)
    (below : quarters < 4 * 2 ^ 52) : RoundsTo (quarters * 2 ^ (exponent - 2)) (2 ^ 52 * 2 ^ exponent) := by
  have near : |((2 ^ 53 : ℕ) : ℚ) - quarters / 2| ≤ 1 / 2 := by
    push_cast
    rw [abs_le]
    constructor <;> linarith
  have halves : quarters * 2 ^ (exponent - 2) = quarters / 2 * 2 ^ (exponent - 1) := by
    have same := two_zpow_double exponent
    rw [two_zpow_quadruple exponent] at same
    have half : (2 : ℚ) ^ (exponent - 1) = 2 ^ (exponent - 2) * 2 := by linarith
    rw [half]
    ring
  have doubled : (2 ^ 52 * 2 ^ exponent : ℚ) = (2 ^ 53 : ℕ) * 2 ^ (exponent - 1) := by
    rw [two_zpow_double exponent]
    push_cast
    ring
  rw [halves, doubled]
  apply roundsTo_of_near (by omega) (by linarith) (by linarith) (.inl (by linarith)) near
  intro _
  decide

theorem Fits.normal_quarters {quarters : ℚ} (fits : Fits mantissa exponent) (low : 4 * mantissa - 2 ≤ quarters)
    (full : ¬(quarters < 4 * mantissa ∧ mantissa = 2 ^ 52 ∧ exponent ≠ -1074)) :
    2 ^ 52 ≤ quarters / 4 ∨ exponent = -1074 := by
  by_cases isLeast : exponent = -1074
  · exact .inr isLeast
  · left
    have normal := fits.normal.resolve_right isLeast
    by_cases isPower : mantissa = 2 ^ 52
    · have above : 4 * (mantissa : ℚ) ≤ quarters := by
        by_contra below
        exact full ⟨lt_of_not_ge below, isPower, isLeast⟩
      have cast : (mantissa : ℚ) = 2 ^ 52 := by exact_mod_cast isPower
      linarith
    · have larger : 2 ^ 52 + 1 ≤ mantissa := by omega
      have cast : ((2 ^ 52 + 1 : ℕ) : ℚ) ≤ mantissa := by exact_mod_cast larger
      push_cast at cast
      linarith

theorem Rounding.roundsTo {held : Nat} (fits : Fits mantissa exponent) (positive : 0 < mantissa)
    (holds : (Rounding.of mantissa exponent).holds held = true) :
    RoundsTo (held * (10 : ℚ) ^ (Rounding.of mantissa exponent).exponent) (mantissa * 2 ^ exponent) := by
  obtain ⟨quarters, value, low, high, odd⟩ := Rounding.quarters positive holds
  have down : (reach mantissa exponent : ℚ) ≤ 2 := by exact_mod_cast reach_le mantissa exponent
  have least := fits.least
  rw [value]
  by_cases halved : quarters < 4 * mantissa ∧ mantissa = 2 ^ 52 ∧ exponent ≠ -1074
  · obtain ⟨below, isPower, notLeast⟩ := halved
    have one : reach mantissa exponent = 1 := if_pos ⟨isPower, notLeast⟩
    have cast : (mantissa : ℚ) = 2 ^ 52 := by exact_mod_cast isPower
    rw [one, cast, Nat.cast_one] at low
    rw [cast] at below ⊢
    exact roundsTo_power (by omega) low below
  · have begun : (1 : ℚ) ≤ mantissa := by exact_mod_cast positive
    have short : (mantissa + 1 : ℚ) ≤ 2 ^ 53 := by exact_mod_cast fits.short
    have near : |(mantissa : ℚ) - quarters / 4| ≤ 1 / 2 := by
      rw [abs_le]
      constructor <;> linarith
    have whole : quarters * 2 ^ (exponent - 2) = quarters / 4 * 2 ^ exponent := by
      rw [two_zpow_quadruple exponent]
      ring
    have normal := fits.normal_quarters (by linarith) halved
    rw [whole]
    apply roundsTo_of_near least (by linarith) (by linarith) normal near
    intro tie
    by_contra isOdd
    obtain ⟨above, under⟩ := odd isOdd
    have inside : |(mantissa : ℚ) - quarters / 4| < 1 / 2 := by
      rw [abs_lt]
      constructor <;> linarith
    exact absurd tie inside.ne

/-- The shortest decimal of a double rounds to that double. -/
theorem shortestDecimal_roundsTo (fits : Fits mantissa exponent) (positive : 0 < mantissa) :
    RoundsTo (shortestDecimal mantissa exponent).value (mantissa * 2 ^ exponent) := by
  obtain ⟨held, holds, value⟩ := Rounding.shortest_holds (Rounding.of_holds_value positive)
    (decimalDigits (Rounding.of mantissa exponent).value).length 17 1
  rw [shortestDecimal, value]
  exact Rounding.roundsTo fits positive holds

end

end TenPuzzle.Number
