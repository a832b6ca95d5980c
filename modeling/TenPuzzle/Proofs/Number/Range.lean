import TenPuzzle.Proofs.Number.Coarse
import TenPuzzle.Proofs.Number.Reading

/-!
The range of doubles. A result is finite exactly if its exact value lies below the point halfway between the greatest
double and the power of two that would come next, and once an operand is not finite the result is not finite either,
unless the operand is an infinite divisor.
-/

namespace TenPuzzle.Number

open Float.Model Float.Model.UnpackedFloat

/-- Numbers of this magnitude, and all greater ones, round to infinity. -/
def rangeEnd : ℚ := 2 ^ 1024 - 2 ^ (971 : ℤ) / 2

section

variable {exact rounded : ℚ} {unit multiple : ℤ} {power : ℕ}

theorem abs_multiple_eq : |(multiple * 2 ^ unit : ℚ)| = ((|multiple| : ℤ) : ℚ) * 2 ^ unit := by
  rw [abs_mul, abs_of_pos (two_zpow_pos unit), Int.cast_abs]

/-- What lies less than half a unit below a multiple is not rounded to a lesser one. -/
theorem le_abs_multiple {whole : ℤ} (near : |multiple * 2 ^ unit - exact| ≤ (2 : ℚ) ^ unit / 2)
    (beyond : whole * 2 ^ unit - 2 ^ unit / 2 < |exact|) : whole ≤ |multiple| := by
  have apart := abs_sub_abs_le_abs_sub exact (multiple * 2 ^ unit)
  rw [abs_sub_comm exact, abs_multiple_eq] at apart
  by_contra short
  have most : ((|multiple| : ℤ) : ℚ) ≤ whole - 1 := by exact_mod_cast (by omega : |multiple| ≤ whole - 1)
  have scaled := mul_le_mul_of_nonneg_right most (two_zpow_pos unit).le
  linarith

/-- Half a unit short of a power of two, the nearest multiples are that power and an odd one, so that even a tie is
carried. -/
theorem carried (near : |multiple * 2 ^ unit - exact| ≤ (2 : ℚ) ^ unit / 2)
    (tie : |multiple * 2 ^ unit - exact| = (2 : ℚ) ^ unit / 2 → Even multiple)
    (beyond : 2 ^ 53 * 2 ^ unit - 2 ^ unit / 2 ≤ |exact|) : 2 ^ 53 ≤ |multiple| := by
  have positive := two_zpow_pos unit
  have least : 2 ^ 53 - 1 ≤ |multiple| := by
    apply le_abs_multiple near
    push_cast
    linarith
  by_contra short
  have isOdd : |multiple| = 2 ^ 53 - 1 := by omega
  have apart := abs_sub_abs_le_abs_sub exact (multiple * 2 ^ unit)
  rw [abs_sub_comm exact, abs_multiple_eq, isOdd] at apart
  push_cast at apart
  have isEven := even_abs.mpr (tie (le_antisymm near (by linarith)))
  rw [isOdd] at isEven
  exact absurd isEven (by decide)

theorem le_unit_of_beyond (bound : |exact| < 2 ^ (unit + 53)) (beyond : rangeEnd ≤ |exact|) : 971 ≤ unit := by
  have room : (2 : ℚ) ^ (1023 : ℤ) ≤ rangeEnd := by
    have top : (2 : ℚ) ^ 1024 = 2 ^ (1023 : ℤ) + 2 ^ (1023 : ℤ) := by
      rw [← mul_two, ← zpow_add_one₀ two_ne_zero, ← zpow_natCast]
      rfl
    have half : (2 : ℚ) ^ (971 : ℤ) / 2 ≤ 2 ^ (1023 : ℤ) := by
      rw [two_zpow_half]
      exact two_zpow_le.mpr (by decide)
    rw [rangeEnd, top, add_sub_assoc]
    exact le_add_of_nonneg_right (sub_nonneg.mpr half)
  have exponents := two_zpow_lt.mp ((room.trans beyond).trans_lt bound)
  omega

/-- A number rounds to a lesser magnitude than all doubles keep within exactly if it lies below the end of the range. -/
theorem RoundsTo.abs_lt_iff (rounds : RoundsTo exact rounded) : |rounded| < 2 ^ 1024 ↔ |exact| < rangeEnd := by
  refine ⟨?_, rounds.abs_lt⟩
  contrapose!
  intro beyond
  obtain ⟨unit, multiple, _, normal, bound, rfl, near, tie⟩ := rounds
  have positive := two_zpow_pos unit
  rw [abs_multiple_eq]
  rcases (le_unit_of_beyond bound beyond).eq_or_lt with rfl | wide
  · rw [rangeEnd, two_pow_1024] at beyond
    have reaches : (2 ^ 53 : ℚ) ≤ (|multiple| : ℤ) := by exact_mod_cast carried near tie beyond
    rw [two_pow_1024]
    exact mul_le_mul_of_nonneg_right reaches positive.le
  · have normal := normal.resolve_left (by omega)
    have least : 2 ^ 52 ≤ |multiple| := by
      apply le_abs_multiple near
      rw [two_zpow_add] at normal
      push_cast
      linarith
    calc
      (2 : ℚ) ^ 1024 ≤ 2 ^ (52 + unit) := by
        rw [← zpow_natCast]
        exact two_zpow_le.mpr (by omega)
      _ = 2 ^ (52 : ℤ) * 2 ^ unit := two_zpow_add 52 unit
      _ ≤ (|multiple| : ℤ) * 2 ^ unit := mul_le_mul_of_nonneg_right (by exact_mod_cast least) positive.le

theorem RoundsTo.le_pow (rounds : RoundsTo exact rounded) (bounded : |exact| ≤ 2 ^ power) :
    rounded ≤ 2 ^ power := by
  obtain ⟨unit, multiple, _, normal, _, rfl, near, _⟩ := rounds
  have fine : unit ≤ power := by
    rcases normal with rfl | normal
    · omega
    · have exponents := normal.trans bounded
      rw [← zpow_natCast, two_zpow_le] at exponents
      omega
  obtain ⟨steps, isPower⟩ : ∃ steps : ℕ, (power : ℤ) = unit + steps := ⟨(power - unit).toNat, by omega⟩
  have whole : (2 : ℚ) ^ power = ((2 ^ steps : ℤ) : ℚ) * 2 ^ unit := by
    rw [← zpow_natCast, isPower, two_zpow_add, zpow_natCast]
    push_cast
    ring
  rw [whole] at bounded ⊢
  apply multiple_le near
  linarith [le_abs_self exact, two_zpow_pos unit]

/-- Rounding leads beyond no power of two that the number keeps within. -/
theorem RoundsTo.abs_le_pow (rounds : RoundsTo exact rounded) (bounded : |exact| ≤ 2 ^ power) :
    |rounded| ≤ 2 ^ power :=
  abs_le'.mpr ⟨rounds.le_pow bounded, rounds.neg.le_pow (by rwa [abs_neg])⟩

end

section

variable {value : Float} {exact : ℚ}

theorem isFinite_iff : value.isFinite = true ↔ ∃ exact, exactValue value = some exact := by
  refine ⟨exactValue_of_isFinite, ?_⟩
  rintro ⟨exact, isValue⟩
  change value.toModel.unpack.isFinite = true
  rcases finite_cases isValue with ⟨sign, isZero, _⟩ | ⟨sign, mantissa, exponent, positive, unpacks, _⟩
  · rw [isZero]
    rfl
  · rw [unpacks]
    rfl

theorem IsNearest.isFinite_iff (nearest : IsNearest exact value) : value.isFinite = true ↔ |exact| < rangeEnd := by
  obtain ⟨rounded, rounds, within, beyond⟩ := nearest
  rw [← rounds.abs_lt_iff, Number.isFinite_iff]
  constructor
  · rintro ⟨found, isValue⟩
    by_contra large
    obtain ⟨sign, isInfinite, _⟩ := beyond (not_lt.mp large)
    rw [exactValue, isInfinite] at isValue
    cases isValue
  · exact fun small => ⟨rounded, within small⟩

theorem IsNearest.bounded {power : ℕ} (nearest : IsNearest exact value) (bounded : |exact| ≤ 2 ^ power)
    (inRange : power < 1024) : ∃ rounded, exactValue value = some rounded ∧ |rounded| ≤ 2 ^ power := by
  obtain ⟨rounded, rounds, within, _⟩ := nearest
  have small := rounds.abs_le_pow bounded
  exact ⟨rounded, within (small.trans_lt (pow_lt_pow_right₀ one_lt_two inRange)), small⟩

end

/-! Operands that are not finite. -/

theorem isFinite_pack {unpacked : Float.Model.UnpackedFloat} (special : unpacked.isFinite = false) :
    (Float.Model.pack unpacked).unpack.isFinite = false := by
  have canonical : IsCanonical unpacked := by
    cases unpacked with
    | notANumber => trivial
    | infinity sign => trivial
    | zero sign => trivial
    | finite sign mantissa exponent positive => cases special
  rw [unpack_pack canonical, special]

theorem isFinite_ite {condition : Prop} [Decidable condition] (sign : Sign) :
    (if condition then UnpackedFloat.infinity sign else .notANumber).isFinite = false := by
  split <;> rfl

section

variable {left right : Float.Model.UnpackedFloat}

theorem add_special (special : left.isFinite = false ∨ right.isFinite = false) :
    (left.add Format.binary64 right).isFinite = false := by
  rcases special with isLeft | isRight
  · cases left <;> cases right <;> first | rfl | exact isFinite_ite _ | cases isLeft
  · cases left <;> cases right <;> first | rfl | exact isFinite_ite _ | cases isRight

theorem sub_special (special : left.isFinite = false ∨ right.isFinite = false) :
    (left.sub Format.binary64 right).isFinite = false := by
  rcases special with isLeft | isRight
  · cases left <;> cases right <;> first | rfl | exact isFinite_ite _ | cases isLeft
  · cases left <;> cases right <;> first | rfl | exact isFinite_ite _ | cases isRight

theorem mul_special (special : left.isFinite = false ∨ right.isFinite = false) :
    (left.mul Format.binary64 right).isFinite = false := by
  rcases special with isLeft | isRight
  · cases left <;> cases right <;> first | rfl | cases isLeft
  · cases left <;> cases right <;> first | rfl | cases isRight

/-- An infinite divisor is not among the operands that keep a quotient from being finite. -/
theorem div_special (special : left.isFinite = false ∨ right.isFinite = false ∧ right.isInf = false) :
    (left.div Format.binary64 right).isFinite = false := by
  rcases special with isLeft | ⟨isRight, notInfinite⟩
  · cases left <;> cases right <;> first | rfl | cases isLeft
  · cases right with
    | notANumber => cases left <;> rfl
    | infinity sign => cases notInfinite
    | zero sign => cases isRight
    | finite sign mantissa exponent positive => cases isRight

theorem div_infinite (isLeft : left.isFinite = true) (isRight : right.isInf = true) :
    ∃ sign, left.div Format.binary64 right = .zero sign := by
  cases right with
  | infinity other =>
      cases left with
      | notANumber => cases isLeft
      | infinity sign => cases isLeft
      | zero sign => exact ⟨_, rfl⟩
      | finite sign mantissa exponent positive => exact ⟨_, rfl⟩
  | notANumber => cases isRight
  | zero sign => cases isRight
  | finite sign mantissa exponent positive => cases isRight

end

section

variable {left right : Float}

theorem isFinite_add (special : left.isFinite = false ∨ right.isFinite = false) :
    (left + right).isFinite = false :=
  isFinite_pack (add_special special)

theorem isFinite_sub (special : left.isFinite = false ∨ right.isFinite = false) :
    (left - right).isFinite = false :=
  isFinite_pack (sub_special special)

theorem isFinite_mul (special : left.isFinite = false ∨ right.isFinite = false) :
    (left * right).isFinite = false :=
  isFinite_pack (mul_special special)

theorem isFinite_div (special : left.isFinite = false ∨ right.isFinite = false ∧ right.isInf = false) :
    (left / right).isFinite = false :=
  isFinite_pack (div_special special)

theorem isFinite_div_infinite (isLeft : left.isFinite = true) (isRight : right.isInf = true) :
    (left / right).isFinite = true := by
  change (Float.Model.pack (left.toModel.unpack.div Format.binary64 right.toModel.unpack)).unpack.isFinite = true
  obtain ⟨sign, isZero⟩ := div_infinite isLeft isRight
  have canonical : IsCanonical (.zero sign) := trivial
  rw [isZero, unpack_pack canonical]
  rfl

theorem isFinite_neg (value : Float) : (-value).isFinite = value.isFinite := by
  change (-value).toModel.unpack.isFinite = value.toModel.unpack.isFinite
  rw [unpack_neg]
  cases value.toModel.unpack <;> rfl

theorem isFinite_of_abs_lt {value bound : Float} (below : value.abs < bound) : value.isFinite = true := by
  obtain ⟨first, second, isFirst, _, less⟩ := lt_iff_place.mp below
  rw [place, unpack_abs] at isFirst
  change value.toModel.unpack.isFinite = true
  cases unpacks : value.toModel.unpack with
  | notANumber =>
      rw [unpacks] at isFirst
      cases isFirst
  | infinity sign =>
      rw [unpacks] at isFirst
      cases isFirst
      exact absurd less (not_lt.mpr le_top)
  | zero sign => rfl
  | finite sign mantissa exponent positive => rfl

theorem exactValue_neg {value : Float} {exact : ℚ} (isValue : exactValue value = some exact) :
    exactValue (-value) = some (-exact) := by
  rw [exactValue, unpack_neg]
  rcases finite_cases isValue with ⟨sign, isZero, rfl⟩ | ⟨sign, mantissa, exponent, positive, unpacks, rfl⟩
  · rw [isZero, neg_zero]
    rfl
  · rw [unpacks, ← signed_neg]
    rfl

end

end TenPuzzle.Number
