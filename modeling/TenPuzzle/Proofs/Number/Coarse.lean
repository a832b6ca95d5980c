import TenPuzzle.Proofs.Number.Order
import TenPuzzle.Proofs.Number.Whole

/-!
Coarse numbers. Beyond two to the hundred-and-tenth doubles lie so far apart that no moderate amount reaches from
one to the next.
-/

namespace TenPuzzle.Number

open Float.Model Float.Model.UnpackedFloat

def coarseBound : ℚ := 2 ^ (110 : ℤ)

/-- What lies less than half a unit above a multiple is not rounded to a greater one. -/
theorem multiple_le {exact : ℚ} {unit multiple whole : ℤ}
    (near : |multiple * 2 ^ unit - exact| ≤ (2 : ℚ) ^ unit / 2) (below : exact < whole * 2 ^ unit + 2 ^ unit / 2) :
    (multiple * 2 ^ unit : ℚ) ≤ whole * 2 ^ unit := by
  have positive := two_zpow_pos unit
  have close := (abs_le.mp near).2
  by_contra beyond
  have less : whole + 1 ≤ multiple := by
    by_contra notLess
    have atMost : (multiple : ℚ) ≤ whole := by exact_mod_cast (by omega : multiple ≤ whole)
    exact beyond (mul_le_mul_of_nonneg_right atMost positive.le)
  have next : ((whole : ℚ) + 1) * 2 ^ unit ≤ multiple * 2 ^ unit :=
    mul_le_mul_of_nonneg_right (by exact_mod_cast less) positive.le
  linarith

section

variable {exact : ℚ} {units unit multiple scale : ℤ}

/-- Where a sum has no greater unit than the coarse number, that number is a multiple of the unit. -/
theorem le_of_coarse_fine (fine : unit ≤ scale) (bound : |exact| < (2 : ℚ) ^ (unit + 53))
    (near : |multiple * 2 ^ unit - exact| ≤ (2 : ℚ) ^ unit / 2) (coarse : coarseBound ≤ |(units * 2 ^ scale : ℚ)|)
    (close : exact ≤ units * 2 ^ scale + 2 ^ (53 : ℤ)) : (multiple * 2 ^ unit : ℚ) ≤ units * 2 ^ scale := by
  obtain ⟨steps, rfl⟩ : ∃ steps : ℕ, scale = unit + steps := ⟨(scale - unit).toNat, by omega⟩
  have whole : (units * 2 ^ (unit + (steps : ℤ)) : ℚ) = ((units * 2 ^ steps : ℤ) : ℚ) * 2 ^ unit := by
    rw [two_zpow_add, zpow_natCast]
    push_cast
    ring
  rw [whole] at coarse close ⊢
  apply multiple_le near
  by_contra far
  have half : (2 : ℚ) ^ unit / 2 ≤ 2 ^ (53 : ℤ) := by linarith
  rw [two_zpow_half] at half
  have exponents := two_zpow_le.mp half
  have small : |exact| < (2 : ℚ) ^ (107 : ℤ) := bound.trans_le (two_zpow_le.mpr (by omega))
  have apart := abs_sub_abs_le_abs_sub (((units * 2 ^ steps : ℤ) : ℚ) * 2 ^ unit) exact
  have step : |((units * 2 ^ steps : ℤ) : ℚ) * 2 ^ unit - exact| ≤ 2 ^ (53 : ℤ) := by
    have positive := two_zpow_pos unit
    rw [abs_le]
    constructor <;> linarith
  have room : (2 : ℚ) ^ (107 : ℤ) + 2 ^ (53 : ℤ) < coarseBound := by norm_num [coarseBound]
  linarith

/-- Where a sum has a greater unit, it lies on the negative side, and further out than the coarse number. -/
theorem le_of_coarse_wide (wide : scale < unit) (least : -1074 ≤ scale)
    (normal : unit = -1074 ∨ (2 : ℚ) ^ (unit + 52) ≤ |exact|)
    (near : |multiple * 2 ^ unit - exact| ≤ (2 : ℚ) ^ unit / 2) (short : |units| < 2 ^ 53)
    (coarse : coarseBound ≤ |(units * 2 ^ scale : ℚ)|) (close : exact ≤ units * 2 ^ scale + 2 ^ (53 : ℤ)) :
    (multiple * 2 ^ unit : ℚ) ≤ units * 2 ^ scale := by
  have positive := two_zpow_pos scale
  have magnitude : |(units * 2 ^ scale : ℚ)| ≤ 2 ^ (scale + 53) - 2 ^ scale := by
    have most : (|units| : ℚ) ≤ 2 ^ (53 : ℤ) - 1 := by exact_mod_cast (by omega : |units| ≤ 2 ^ 53 - 1)
    rw [abs_mul, abs_of_pos positive, two_zpow_add, mul_comm (2 ^ scale)]
    linarith [mul_le_mul_of_nonneg_right most positive.le]
  have large : (2 : ℚ) ^ (53 : ℤ) < 2 ^ scale := by
    have above : (2 : ℚ) ^ (110 : ℤ) < 2 ^ (scale + 53) := lt_of_le_of_lt (coarse.trans magnitude) (by linarith)
    have exponents := two_zpow_lt.mp above
    exact two_zpow_lt.mpr (by omega)
  have outer : (2 : ℚ) ^ (scale + 53) ≤ 2 ^ (unit + 52) := two_zpow_le.mpr (by omega)
  have beyond := normal.resolve_left (by omega)
  obtain ⟨low, high⟩ := abs_le.mp magnitude
  have negative : exact ≤ -2 ^ (unit + 52) := by
    rcases abs_cases exact with ⟨same, _⟩ | ⟨same, _⟩
    · rw [same] at beyond
      linarith
    · rw [same] at beyond
      linarith
  have whole : (-2 ^ (unit + 52) : ℚ) = ((-2 ^ 52 : ℤ) : ℚ) * 2 ^ unit := by
    rw [two_zpow_add]
    push_cast
    ring
  have reached : (multiple * 2 ^ unit : ℚ) ≤ ((-2 ^ 52 : ℤ) : ℚ) * 2 ^ unit := by
    apply multiple_le near
    rw [← whole]
    linarith [two_zpow_pos unit]
  rw [← whole] at reached
  linarith

theorem RoundsTo.le_of_coarse {rounded : ℚ} (rounds : RoundsTo exact rounded) (least : -1074 ≤ scale)
    (short : |units| < 2 ^ 53) (coarse : coarseBound ≤ |(units * 2 ^ scale : ℚ)|)
    (close : exact ≤ units * 2 ^ scale + 2 ^ (53 : ℤ)) : rounded ≤ units * 2 ^ scale := by
  obtain ⟨unit, multiple, _, normal, bound, rfl, near, _⟩ := rounds
  rcases le_or_gt unit scale with fine | wide
  · exact le_of_coarse_fine fine bound near coarse close
  · exact le_of_coarse_wide wide least normal near short coarse close

end

theorem units_of_exactValue {value : Float} {exact : ℚ} (isValue : exactValue value = some exact) :
    ∃ units scale : ℤ, -1074 ≤ scale ∧ |units| < 2 ^ 53 ∧ exact = units * 2 ^ scale := by
  have canonical := unpack_isCanonical value.toModel
  rcases finite_cases isValue with ⟨_, _, rfl⟩ | ⟨sign, mantissa, exponent, positive, unpacks, rfl⟩
  · exact ⟨0, 0, by decide, by decide, by simp⟩
  · rw [unpacks] at canonical
    obtain ⟨fits, _⟩ := canonical
    refine ⟨sign.apply mantissa, exponent, fits.least, ?_, ?_⟩
    · have short := fits.short
      cases sign <;> simp only [Sign.apply, abs_neg, Nat.abs_cast] <;> exact_mod_cast short
    · rw [cast_apply, signed_mul_right]

/-- A moderate amount added to at most a coarse double does not lead beyond it. -/
theorem RoundsTo.le_of_coarse_double {value : Float} {bound exact amount rounded : ℚ}
    (isBound : exactValue value = some bound) (coarse : coarseBound ≤ |bound|) (below : exact ≤ bound)
    (moderate : amount ≤ 2 ^ (53 : ℤ)) (rounds : RoundsTo (exact + amount) rounded) : rounded ≤ bound := by
  obtain ⟨units, scale, least, short, rfl⟩ := units_of_exactValue isBound
  exact rounds.le_of_coarse least short coarse (add_le_add below moderate)

theorem RoundsTo.le_coarseBound {exact amount rounded : ℚ} (below : exact ≤ coarseBound)
    (moderate : amount ≤ 2 ^ (53 : ℤ)) (rounds : RoundsTo (exact + amount) rounded) : rounded ≤ coarseBound := by
  have isBound : coarseBound = ((1 : ℤ) : ℚ) * 2 ^ (110 : ℤ) := by simp [coarseBound]
  have positive : 0 ≤ coarseBound := (two_zpow_pos 110).le
  rw [isBound] at below positive ⊢
  apply rounds.le_of_coarse (by decide) (by decide)
  · rw [abs_of_nonneg positive, ← isBound]
  · exact add_le_add below moderate

/-- A difference that a double shows to be positive is positive. -/
theorem pos_of_isNearest {value : Float} {exact : ℚ} (nearest : IsNearest exact value) (positive : 0.0 < value) :
    0 < exact := by
  by_contra notPositive
  obtain ⟨rounded, rounds, within, beyond⟩ := nearest
  have negated := rounds.neg.nonneg (neg_nonneg.mpr (not_lt.mp notPositive))
  have zero : exactValue 0.0 = some 0 := by decide +kernel
  by_cases finite : |rounded| < 2 ^ 1024
  · have positive := (lt_iff_exactValue zero (within finite)).mp positive
    linarith
  · obtain ⟨sign, isInfinite, signs⟩ := beyond (not_lt.mp finite)
    cases sign with
    | positive =>
        have large : (0 : ℚ) < 2 ^ 1024 := by positivity
        have far := large.trans_le (not_lt.mp finite)
        rw [show rounded = |rounded| from signs] at negated
        exact absurd negated (neg_neg_of_pos far).not_ge
    | negative =>
        obtain ⟨x, y, isZero, isValue, less⟩ := lt_iff_place.mp positive
        rw [place, isInfinite] at isValue
        cases isValue
        exact not_lt_bot less

end TenPuzzle.Number
