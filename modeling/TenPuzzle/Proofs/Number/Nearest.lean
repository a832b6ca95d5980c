import TenPuzzle.Proofs.Number.Mantissa
import TenPuzzle.Proofs.Number.Packing
import TenPuzzle.Proofs.Number.Rounding

/-!
Correctly rounded doubles: the rational number a double stands for, and that rounding a mantissa
gives the double nearest to the number it describes.
-/

namespace TenPuzzle.Number

open Float.Model Float.Model.UnpackedFloat

def signed : Sign → ℚ → ℚ
  | .negative, magnitude => -magnitude
  | .positive, magnitude => magnitude

theorem abs_signed (sign : Sign) (magnitude : ℚ) : |signed sign magnitude| = |magnitude| := by
  cases sign with
  | negative => exact abs_neg magnitude
  | positive => rfl

theorem RoundsTo.signed {exact rounded : ℚ} (rounds : RoundsTo exact rounded) (sign : Sign) :
    RoundsTo (signed sign exact) (signed sign rounded) := by
  cases sign with
  | negative => exact rounds.neg
  | positive => exact rounds

def rationalOf : Float.Model.UnpackedFloat → Option ℚ
  | .zero _ => some 0
  | .finite sign mantissa exponent _ => some (signed sign (mantissa * 2 ^ exponent))
  | _ => none

theorem rationalOf_zero (sign : Sign) : rationalOf (.zero sign) = some 0 := rfl

theorem rationalOf_finite (sign : Sign) {mantissa : Nat} (exponent : Int) (positive : 0 < mantissa) :
    rationalOf (.finite sign mantissa exponent positive) = some (signed sign (mantissa * 2 ^ exponent)) := rfl

def exactValue (value : Float) : Option ℚ :=
  rationalOf value.toModel.unpack

/-- The double nearest to a number, which is infinite if the number rounds beyond all doubles. -/
def Nearest (exact : ℚ) (result : Float.Model.UnpackedFloat) : Prop :=
  ∃ rounded, RoundsTo exact rounded ∧ (|rounded| < 2 ^ 1024 → rationalOf result = some rounded) ∧
    (2 ^ 1024 ≤ |rounded| → ∃ sign, result = .infinity sign ∧ rounded = signed sign |rounded|)

def IsNearest (exact : ℚ) (value : Float) : Prop :=
  Nearest exact value.toModel.unpack

theorem Fits.pack {mantissa : Nat} {exponent : Int} (fits : Fits mantissa exponent) (sign : Sign)
    (positive : 0 < mantissa) :
    ((mantissa * 2 ^ exponent : ℚ) < 2 ^ 1024 →
      (Float.Model.pack (.finite sign mantissa exponent positive)).unpack =
        .finite sign mantissa exponent positive) ∧
    ((2 : ℚ) ^ 1024 ≤ mantissa * 2 ^ exponent →
      (Float.Model.pack (.finite sign mantissa exponent positive)).unpack = .infinity sign) := by
  have unit := two_zpow_pos exponent
  by_cases inRange : exponent ≤ 971
  · refine ⟨fun _ => unpack_pack ⟨fits, inRange⟩, ?_⟩
    intro beyond
    have short : (mantissa : ℚ) < 2 ^ (53 : ℤ) := by exact_mod_cast fits.short
    have magnitude : (mantissa * 2 ^ exponent : ℚ) < 2 ^ (1024 : ℤ) := calc
      (mantissa * 2 ^ exponent : ℚ) < 2 ^ (53 : ℤ) * 2 ^ exponent := mul_lt_mul_of_pos_right short unit
      _ = 2 ^ (53 + exponent) := (two_zpow_add 53 exponent).symm
      _ ≤ 2 ^ (1024 : ℤ) := two_zpow_le.mpr (by omega)
    exact absurd (lt_of_le_of_lt beyond magnitude) (lt_irrefl _)
  · refine ⟨?_, fun _ => unpack_pack_overflow sign positive (by omega)⟩
    intro within
    have normal : (2 : ℚ) ^ (52 : ℤ) ≤ mantissa := by
      exact_mod_cast fits.normal.resolve_right (by omega)
    have magnitude : (2 : ℚ) ^ (1024 : ℤ) ≤ mantissa * 2 ^ exponent := calc
      (2 : ℚ) ^ (1024 : ℤ) ≤ 2 ^ (52 + exponent) := two_zpow_le.mpr (by omega)
      _ = 2 ^ (52 : ℤ) * 2 ^ exponent := two_zpow_add 52 exponent
      _ ≤ mantissa * 2 ^ exponent := mul_le_mul_of_nonneg_right normal unit.le
    exact absurd (lt_of_lt_of_le within magnitude) (lt_irrefl _)

theorem targetExponent_eq (mantissa : Nat) (exponent : Int) :
    Format.binary64.targetExponent (totalExponent mantissa exponent) =
      max (mantissa.log2 + exponent - 52) (-1074) := by
  have bits : ((Format.binary64.mantissaBits : ℕ) : ℤ) = 53 := rfl
  have least : Format.binary64.minExponent = -1074 := rfl
  rw [Format.targetExponent, totalExponent, bits, least]
  congr 1
  omega

theorem Describes.within {mantissa : Nat} {accuracy : Accuracy} {exact : ℚ}
    (describes : Describes (.ofMantissaAndAccuracy mantissa accuracy) exact) :
    mantissa ≤ exact ∧ exact < mantissa + 1 := by
  have isMantissa : (ExtendedMantissa.ofMantissaAndAccuracy mantissa accuracy).mantissa = mantissa := by
    cases accuracy with
    | exact => rfl
    | inexact order => cases order <;> rfl
  have bounds := describes.bounds
  rw [isMantissa] at bounds
  exact bounds

section

variable {mantissa count : Nat} {exponent : Int} {exact : ℚ}

theorem scaled_short (ceiling : exact < mantissa + 1)
    (isTarget : exponent + count = max (mantissa.log2 + exponent - 52) (-1074)) :
    exact / 2 ^ count < 2 ^ 53 := by
  have bits : mantissa < 2 ^ (mantissa.log2 + 1) := Nat.lt_log2_self
  have wider : 2 ^ (mantissa.log2 + 1) ≤ 2 ^ (count + 53) := Nat.pow_le_pow_right two_pos (by omega)
  have above : ((mantissa + 1 : ℕ) : ℚ) ≤ (2 ^ (count + 53) : ℕ) := by
    exact_mod_cast (by omega : mantissa + 1 ≤ 2 ^ (count + 53))
  rw [div_lt_iff₀ (by positivity), ← pow_add, add_comm 53 count]
  push_cast at above
  linarith

theorem scaled_normal (floor : mantissa ≤ exact)
    (isTarget : exponent + count = max (mantissa.log2 + exponent - 52) (-1074)) :
    2 ^ 52 ≤ exact / 2 ^ count ∨ exponent + (count : ℤ) = -1074 := by
  by_cases isLeast : exponent + (count : ℤ) = -1074
  · exact .inr isLeast
  · left
    have bits : mantissa.log2 = 52 + count := by omega
    have begun : mantissa ≠ 0 := by
      intro none
      rw [none, Nat.log2_zero] at bits
      omega
    have below : ((2 ^ (52 + count) : ℕ) : ℚ) ≤ mantissa := by
      rw [← bits]
      exact_mod_cast Nat.log2_self_le begun
    rw [le_div_iff₀ (by positivity), ← pow_add]
    push_cast at below
    linarith

theorem rounded_le {scaled : ℚ} {rounded : Nat} (short : scaled < 2 ^ 53) (near : |rounded - scaled| ≤ 1 / 2) :
    rounded ≤ 2 ^ 53 := by
  have below : (rounded : ℚ) < ((2 ^ 53 + 1 : ℕ) : ℚ) := by
    push_cast
    linarith [(abs_le.mp near).2]
  exact Nat.lt_succ_iff.mp (by exact_mod_cast below)

theorem le_rounded {scaled : ℚ} {rounded : Nat} (normal : 2 ^ 52 ≤ scaled) (near : |rounded - scaled| ≤ 1 / 2) :
    2 ^ 52 ≤ rounded := by
  have above : ((2 ^ 52 : ℕ) : ℚ) < ((rounded + 1 : ℕ) : ℚ) := by
    push_cast
    linarith [(abs_le.mp near).1]
  exact Nat.lt_succ_iff.mp (by exact_mod_cast above)

end

/-- The first of the two shifts in rounding does the rounding. -/
theorem Describes.roundsTo {mantissa : Nat} {exponent target : Int} {accuracy : Accuracy} {exact : ℚ}
    (describes : Describes (.ofMantissaAndAccuracy mantissa accuracy) exact)
    (isTarget : target = max (mantissa.log2 + exponent - 52) (-1074)) (fine : exponent ≤ target)
    {rounded : Nat} (isRounded : rounded =
      (ExtendedMantissa.ofMantissaAndAccuracy mantissa accuracy >>> (target - exponent).toNat).roundedMantissa) :
    RoundsTo (exact * 2 ^ exponent) (rounded * 2 ^ target) ∧ rounded ≤ 2 ^ 53 ∧
      (2 ^ 52 ≤ rounded ∨ target = -1074) := by
  obtain ⟨count, rfl⟩ : ∃ count : ℕ, target = exponent + count := ⟨(target - exponent).toNat, by omega⟩
  have steps : (exponent + count - exponent).toNat = count := by omega
  rw [steps] at isRounded
  have shifted := (describes.shiftRight count).rounded
  rw [← isRounded] at shifted
  obtain ⟨near, tie⟩ := shifted
  obtain ⟨floor, ceiling⟩ := describes.within
  have nonneg : 0 ≤ exact / 2 ^ count := div_nonneg (le_trans (Nat.cast_nonneg _) floor) (by positivity)
  have short := scaled_short ceiling isTarget
  have normal := scaled_normal floor isTarget
  have scaled : exact * 2 ^ exponent = exact / 2 ^ count * 2 ^ (exponent + (count : ℤ)) := by
    rw [two_zpow_add, zpow_natCast]
    field_simp
  refine ⟨?_, rounded_le short near, ?_⟩
  · rw [scaled]
    exact roundsTo_of_near (by omega) nonneg short normal near tie
  · rcases normal with normal | isLeast
    · exact .inl (le_rounded normal near)
    · exact .inr isLeast

theorem shiftToTargetExponent_eq (mantissa : Nat) (exponent : Int) (accuracy : Accuracy) :
    shiftToTargetExponent Format.binary64 mantissa exponent accuracy =
      (ExtendedMantissa.ofMantissaAndAccuracy mantissa accuracy >>>
          (max (mantissa.log2 + exponent - 52) (-1074) - exponent).toNat,
        exponent + (max (mantissa.log2 + exponent - 52) (-1074) - exponent).toNat) := by
  unfold shiftToTargetExponent
  rw [targetExponent_eq]
  rfl

theorem shift_short {mantissa : Nat} {exponent : Int} (short : mantissa < 2 ^ 53) (least : -1074 ≤ exponent) :
    shiftToTargetExponent Format.binary64 mantissa exponent .exact = (⟨mantissa, false, false⟩, exponent) := by
  have bits : mantissa.log2 ≤ 52 := by
    by_cases isZero : mantissa = 0
    · rw [isZero, Nat.log2_zero]
      omega
    · have below := (Nat.log2_lt isZero).mpr short
      omega
  have none : (max (mantissa.log2 + exponent - 52) (-1074) - exponent).toNat = 0 := by omega
  rw [shiftToTargetExponent_eq, none]
  simp only [Nat.cast_zero, add_zero]
  rfl

theorem shift_carried {exponent : Int} (least : -1074 ≤ exponent) :
    shiftToTargetExponent Format.binary64 (2 ^ 53) exponent .exact =
      (⟨2 ^ 52, false, false⟩, exponent + 1) := by
  have once : (max (((2 ^ 53 : ℕ).log2 : ℤ) + exponent - 52) (-1074) - exponent).toNat = 1 := by
    rw [Nat.log2_two_pow]
    omega
  rw [shiftToTargetExponent_eq, once]
  rfl

def ofShifted (sign : Sign) (shifted : ExtendedMantissa × Int) : Float.Model.UnpackedFloat :=
  if isZero : shifted.1.mantissa = 0 then .zero sign
  else .finite sign shifted.1.mantissa shifted.2 (Nat.pos_of_ne_zero isZero)

theorem roundWithAccuracy_eq (sign : Sign) {mantissa : Nat} {exponent target : Int} {accuracy : Accuracy}
    (isTarget : target = max (mantissa.log2 + exponent - 52) (-1074)) (fine : exponent ≤ target)
    {rounded : Nat} (isRounded : rounded =
      (ExtendedMantissa.ofMantissaAndAccuracy mantissa accuracy >>> (target - exponent).toNat).roundedMantissa)
    (carried : rounded ≤ 2 ^ 53) :
    roundWithAccuracy Format.binary64 sign mantissa exponent accuracy =
      if isZero : rounded = 0 then .zero sign
      else if rounded < 2 ^ 53 then .finite sign rounded target (Nat.pos_of_ne_zero isZero)
      else .finite sign (2 ^ 52) (target + 1) (Nat.two_pow_pos 52) := by
  have reached : exponent + (target - exponent).toNat = target := by omega
  have twice : roundWithAccuracy Format.binary64 sign mantissa exponent accuracy =
      ofShifted sign (shiftToTargetExponent Format.binary64
        (shiftToTargetExponent Format.binary64 mantissa exponent accuracy).1.roundedMantissa
        (shiftToTargetExponent Format.binary64 mantissa exponent accuracy).2 .exact) := rfl
  rw [twice, shiftToTargetExponent_eq mantissa, ← isTarget, reached, ← isRounded]
  by_cases short : rounded < 2 ^ 53
  · rw [shift_short short (by omega)]
    unfold ofShifted
    dsimp only
    by_cases isZero : rounded = 0
    · rw [dif_pos isZero, dif_pos isZero]
    · rw [dif_neg isZero, dif_neg isZero, if_pos short]
  · obtain rfl : rounded = 2 ^ 53 := by omega
    rw [shift_carried (by omega)]
    rfl

/-- Rounding a mantissa gives the double nearest to the number that it describes. -/
theorem Describes.nearest {mantissa : Nat} {exponent : Int} {accuracy : Accuracy} {exact : ℚ}
    (describes : Describes (.ofMantissaAndAccuracy mantissa accuracy) exact)
    (fine : exponent ≤ max (mantissa.log2 + exponent - 52) (-1074)) (sign : Sign) :
    Nearest (signed sign (exact * 2 ^ exponent))
      (Float.Model.pack (roundWithAccuracy Format.binary64 sign mantissa exponent accuracy)).unpack := by
  generalize isTarget : max (mantissa.log2 + exponent - 52) (-1074) = target at fine
  generalize isRounded :
    (ExtendedMantissa.ofMantissaAndAccuracy mantissa accuracy >>> (target - exponent).toNat).roundedMantissa = rounded
  obtain ⟨rounds, carried, normal⟩ := describes.roundsTo isTarget.symm fine isRounded.symm
  rw [roundWithAccuracy_eq sign isTarget.symm fine isRounded.symm carried]
  have magnitude : |signed sign (rounded * 2 ^ target)| = rounded * 2 ^ target := by
    rw [abs_signed, abs_of_nonneg (mul_nonneg (Nat.cast_nonneg _) (two_zpow_pos target).le)]
  refine ⟨signed sign (rounded * 2 ^ target), rounds.signed sign, ?_⟩
  rw [magnitude]
  by_cases isZero : rounded = 0
  · have nothing : signed sign ((rounded : ℚ) * 2 ^ target) = 0 := by
      cases sign <;> simp [signed, isZero]
    have survives : IsCanonical (.zero sign) := trivial
    rw [dif_pos isZero, nothing, unpack_pack survives]
    refine ⟨fun _ => rfl, ?_⟩
    intro beyond
    have large : (0 : ℚ) < 2 ^ 1024 := by positivity
    rw [isZero, Nat.cast_zero, zero_mul] at beyond
    exact absurd beyond large.not_ge
  · rw [dif_neg isZero]
    by_cases short : rounded < 2 ^ 53
    · obtain ⟨within, beyond⟩ := Fits.pack ⟨short, by omega, normal⟩ sign (Nat.pos_of_ne_zero isZero)
      rw [if_pos short]
      refine ⟨fun small => ?_, fun large => ⟨sign, beyond large, rfl⟩⟩
      rw [within small]
      rfl
    · obtain rfl : rounded = 2 ^ 53 := by omega
      have halved : ((2 ^ 53 : ℕ) : ℚ) * 2 ^ target = (2 ^ 52 : ℕ) * 2 ^ (target + 1) := by
        rw [two_zpow_add]
        push_cast
        ring
      obtain ⟨within, beyond⟩ :=
        @Fits.pack (2 ^ 52) (target + 1) ⟨by omega, by omega, .inl (by omega)⟩ sign (Nat.two_pow_pos 52)
      rw [if_neg short, halved]
      refine ⟨fun small => ?_, fun large => ⟨sign, beyond large, rfl⟩⟩
      rw [within small]
      rfl

end TenPuzzle.Number
