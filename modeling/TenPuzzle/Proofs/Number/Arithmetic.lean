import TenPuzzle.Proofs.Number.Nearest

/-!
Double arithmetic is correctly rounded: sums, differences, products and quotients of finite doubles
are the doubles nearest to the exact results.
-/

namespace TenPuzzle.Number

open Float.Model Float.Model.UnpackedFloat

theorem cast_apply (sign : Sign) (mantissa : Nat) : ((sign.apply mantissa : ℤ) : ℚ) = signed sign mantissa := by
  cases sign <;> simp [Sign.apply, signed]

theorem signed_mul_right (sign : Sign) (magnitude factor : ℚ) :
    signed sign magnitude * factor = signed sign (magnitude * factor) := by
  cases sign <;> simp [signed]

/-- A double in normal form is what its value rounds to. -/
theorem Fits.roundsTo {mantissa : Nat} {exponent : Int} (fits : Fits mantissa exponent) (sign : Sign) :
    RoundsTo (signed sign (mantissa * 2 ^ exponent)) (signed sign (mantissa * 2 ^ exponent)) := by
  apply RoundsTo.signed
  apply roundsTo_of_near fits.least (Nat.cast_nonneg mantissa)
  · exact_mod_cast fits.short
  · rcases fits.normal with normal | isLeast
    · left
      exact_mod_cast normal
    · exact .inr isLeast
  · rw [sub_self, abs_zero]
    norm_num
  · rw [sub_self, abs_zero]
    intro tie
    norm_num at tie

theorem nearest_zero (sign : Sign) : Nearest 0 (.zero sign) := by
  have zero : Fits 0 (-1074) := ⟨by decide, by decide, .inr rfl⟩
  have rounds := zero.roundsTo .positive
  have nothing : signed .positive (((0 : ℕ) : ℚ) * 2 ^ (-1074 : ℤ)) = 0 := by simp [signed]
  rw [nothing] at rounds
  refine ⟨0, rounds, fun _ => rfl, ?_⟩
  intro beyond
  rw [abs_zero] at beyond
  have large : (0 : ℚ) < 2 ^ 1024 := by positivity
  exact absurd beyond large.not_ge

theorem nearest_pack_zero (sign : Sign) : Nearest 0 (Float.Model.pack (.zero sign)).unpack := by
  have survives : IsCanonical (.zero sign) := trivial
  rw [unpack_pack survives]
  exact nearest_zero sign

theorem nearest_pack_self {unpacked : Float.Model.UnpackedFloat} {exact : ℚ} (canonical : IsCanonical unpacked)
    (isValue : rationalOf unpacked = some exact) : Nearest exact (Float.Model.pack unpacked).unpack := by
  cases unpacked with
  | notANumber => cases isValue
  | infinity sign => cases isValue
  | zero sign =>
      cases isValue
      exact nearest_pack_zero sign
  | finite sign mantissa exponent positive =>
      cases isValue
      obtain ⟨fits, inRange⟩ := canonical
      have survives := unpack_pack (show IsCanonical (.finite sign mantissa exponent positive) from ⟨fits, inRange⟩)
      obtain ⟨_, beyond⟩ := fits.pack sign positive
      refine ⟨_, fits.roundsTo sign, ?_, ?_⟩
      · intro _
        rw [survives]
        rfl
      · rw [abs_signed, abs_of_nonneg (mul_nonneg (Nat.cast_nonneg _) (two_zpow_pos exponent).le)]
        exact fun large => ⟨sign, beyond large, rfl⟩

theorem decreaseExponent_value (mantissa : Nat) (exponent target : Int) :
    ((decreaseExponent mantissa exponent target).1 : ℚ) * 2 ^ (decreaseExponent mantissa exponent target).2 =
      mantissa * 2 ^ exponent := by
  change ((mantissa <<< (exponent - target).toNat : ℕ) : ℚ) * 2 ^ (exponent - (exponent - target).toNat) = _
  generalize (exponent - target).toNat = count
  rw [Nat.shiftLeft_eq, zpow_sub₀ two_ne_zero, zpow_natCast]
  push_cast
  field_simp

theorem log2_shiftLeft {mantissa : Nat} (positive : 0 < mantissa) (count : Nat) :
    (mantissa <<< count).log2 = mantissa.log2 + count := by
  rw [Nat.shiftLeft_eq]
  apply (Nat.log2_eq_iff (Nat.mul_pos positive (Nat.two_pow_pos count)).ne').mpr
  rw [Nat.pow_add, Nat.add_right_comm, Nat.pow_add]
  exact ⟨Nat.mul_le_mul_right _ (Nat.log2_self_le positive.ne'),
    Nat.mul_lt_mul_of_pos_right Nat.lt_log2_self (Nat.two_pow_pos count)⟩

theorem nearest_round (sign : Sign) {mantissa : Nat} (exponent : Int) (positive : 0 < mantissa) :
    Nearest (signed sign (mantissa * 2 ^ exponent))
      (Float.Model.pack (round Format.binary64 sign mantissa exponent)).unpack := by
  have value := decreaseExponent_value mantissa exponent
    (Format.binary64.targetExponent (totalExponent mantissa exponent))
  rw [← value]
  apply (describes_exact _).nearest
  rw [targetExponent_eq]
  generalize isCount : (exponent - max (mantissa.log2 + exponent - 52) (-1074)).toNat = count
  have shifted : (decreaseExponent mantissa exponent (max (mantissa.log2 + exponent - 52) (-1074))) =
      (mantissa <<< count, exponent - count) := by
    rw [← isCount]
    rfl
  rw [shifted, log2_shiftLeft positive]
  push_cast
  omega

theorem nearest_normalize (mantissa exponent : Int) (zeroSign : Sign) :
    Nearest (mantissa * 2 ^ exponent)
      (Float.Model.pack (UnpackedFloat.normalize Format.binary64 mantissa exponent zeroSign)).unpack := by
  unfold UnpackedFloat.normalize
  split
  · next isNegative =>
      have negative := Int.compare_eq_lt.mp isNegative
      obtain ⟨magnitude, rfl⟩ : ∃ magnitude : ℕ, mantissa = -magnitude := ⟨mantissa.natAbs, by omega⟩
      have value : ((-magnitude : ℤ) : ℚ) * 2 ^ exponent = signed .negative (magnitude * 2 ^ exponent) := by
        simp [signed]
      rw [value, Int.neg_neg, Int.toNat_natCast]
      exact nearest_round .negative exponent (by omega)
  · next isZero =>
      rw [Int.compare_eq_eq.mp isZero, Int.cast_zero, zero_mul]
      exact nearest_pack_zero zeroSign
  · next isPositive =>
      have positive := Int.compare_eq_gt.mp isPositive
      obtain ⟨magnitude, rfl⟩ : ∃ magnitude : ℕ, mantissa = magnitude := ⟨mantissa.toNat, by omega⟩
      rw [Int.toNat_natCast]
      exact nearest_round .positive exponent (by omega)

theorem finite_cases {unpacked : Float.Model.UnpackedFloat} {exact : ℚ} (isValue : rationalOf unpacked = some exact) :
    (∃ sign, unpacked = .zero sign ∧ exact = 0) ∨
      ∃ sign mantissa exponent positive, unpacked = .finite sign mantissa exponent positive ∧
        exact = signed sign (mantissa * 2 ^ exponent) := by
  cases unpacked with
  | notANumber => cases isValue
  | infinity sign => cases isValue
  | zero sign =>
      cases isValue
      exact .inl ⟨sign, rfl, rfl⟩
  | finite sign mantissa exponent positive =>
      cases isValue
      exact .inr ⟨sign, mantissa, exponent, positive, rfl, rfl⟩

theorem signed_neg (sign : Sign) (magnitude : ℚ) : signed (-sign) magnitude = -signed sign magnitude := by
  cases sign with
  | negative => exact (neg_neg magnitude).symm
  | positive => rfl

theorem aligned_value (sign : Sign) (mantissa : Nat) {exponent target : Int} (below : target ≤ exponent) :
    ((sign.apply (decreaseExponent mantissa exponent target).1 : ℤ) : ℚ) * 2 ^ target =
      signed sign (mantissa * 2 ^ exponent) := by
  have value := decreaseExponent_value mantissa exponent target
  have reached : (decreaseExponent mantissa exponent target).2 = target := by
    change exponent - (exponent - target).toNat = target
    omega
  rw [reached] at value
  rw [cast_apply, signed_mul_right, value]

section

variable {left right : Float.Model.UnpackedFloat} {leftExact rightExact : ℚ}

theorem nearest_add (leftCanonical : IsCanonical left) (rightCanonical : IsCanonical right)
    (isLeft : rationalOf left = some leftExact) (isRight : rationalOf right = some rightExact) :
    Nearest (leftExact + rightExact) (Float.Model.pack (left.add Format.binary64 right)).unpack := by
  rcases finite_cases isLeft with ⟨sign, rfl, rfl⟩ | ⟨sign, mantissa, exponent, positive, rfl, rfl⟩
  · rw [zero_add]
    rcases finite_cases isRight with ⟨other, rfl, rfl⟩ | ⟨other, factor, power, above, rfl, rfl⟩
    · unfold UnpackedFloat.add
      dsimp only
      split
      · exact nearest_pack_zero sign
      · exact nearest_pack_zero .positive
    · exact nearest_pack_self rightCanonical isRight
  · rcases finite_cases isRight with ⟨other, rfl, rfl⟩ | ⟨other, factor, power, above, rfl, rfl⟩
    · rw [add_zero]
      exact nearest_pack_self leftCanonical isLeft
    · rw [← aligned_value sign mantissa (min_le_left exponent power),
        ← aligned_value other factor (min_le_right exponent power), ← add_mul, ← Int.cast_add]
      exact nearest_normalize _ _ .positive

theorem nearest_sub (leftCanonical : IsCanonical left) (rightCanonical : IsCanonical right)
    (isLeft : rationalOf left = some leftExact) (isRight : rationalOf right = some rightExact) :
    Nearest (leftExact - rightExact) (Float.Model.pack (left.sub Format.binary64 right)).unpack := by
  rcases finite_cases isLeft with ⟨sign, rfl, rfl⟩ | ⟨sign, mantissa, exponent, positive, rfl, rfl⟩
  · rw [zero_sub]
    rcases finite_cases isRight with ⟨other, rfl, rfl⟩ | ⟨other, factor, power, above, rfl, rfl⟩
    · rw [neg_zero]
      unfold UnpackedFloat.sub
      dsimp only
      split
      · exact nearest_pack_zero sign
      · exact nearest_pack_zero .positive
    · rw [← signed_neg]
      exact @nearest_pack_self (.finite (-other) factor power above) _ rightCanonical rfl
  · rcases finite_cases isRight with ⟨other, rfl, rfl⟩ | ⟨other, factor, power, above, rfl, rfl⟩
    · rw [sub_zero]
      exact nearest_pack_self leftCanonical isLeft
    · rw [← aligned_value sign mantissa (min_le_left exponent power),
        ← aligned_value other factor (min_le_right exponent power), ← sub_mul, ← Int.cast_sub]
      exact nearest_normalize _ _ .positive

theorem signed_mul_signed (sign other : Sign) (magnitude factor : ℚ) :
    signed sign magnitude * signed other factor = signed (sign * other) (magnitude * factor) := by
  cases sign with
  | negative =>
      cases other with
      | negative => exact neg_mul_neg magnitude factor
      | positive => exact neg_mul magnitude factor
  | positive =>
      cases other with
      | negative => exact mul_neg magnitude factor
      | positive => rfl

theorem Fits.mul_fine {mantissa factor : Nat} {exponent power : Int} (fits : Fits mantissa exponent)
    (fitsFactor : Fits factor power) (positive : 0 < mantissa) (above : 0 < factor) :
    exponent + power ≤ max ((mantissa * factor).log2 + (exponent + power) - 52) (-1074) := by
  have product := Nat.mul_pos positive above
  by_cases normal : 2 ^ 52 ≤ mantissa * factor
  · have bits := (Nat.le_log2 product.ne').mpr normal
    omega
  · have subnormal : exponent = -1074 := fits.normal.resolve_left fun large =>
      normal (Nat.le_trans large (Nat.le_mul_of_pos_right _ above))
    have subnormalFactor : power = -1074 := fitsFactor.normal.resolve_left fun large =>
      normal (Nat.le_trans large (Nat.le_mul_of_pos_left _ positive))
    omega

theorem nearest_mul (leftCanonical : IsCanonical left) (rightCanonical : IsCanonical right)
    (isLeft : rationalOf left = some leftExact) (isRight : rationalOf right = some rightExact) :
    Nearest (leftExact * rightExact) (Float.Model.pack (left.mul Format.binary64 right)).unpack := by
  rcases finite_cases isLeft with ⟨sign, rfl, rfl⟩ | ⟨sign, mantissa, exponent, positive, rfl, rfl⟩
  · rw [zero_mul]
    rcases finite_cases isRight with ⟨other, rfl, rfl⟩ | ⟨other, factor, power, above, rfl, rfl⟩
    · exact nearest_pack_zero (sign * other)
    · exact nearest_pack_zero (sign * other)
  · rcases finite_cases isRight with ⟨other, rfl, rfl⟩ | ⟨other, factor, power, above, rfl, rfl⟩
    · rw [mul_zero]
      exact nearest_pack_zero (sign * other)
    · have value : (mantissa * 2 ^ exponent : ℚ) * (factor * 2 ^ power) =
          (mantissa * factor : ℕ) * 2 ^ (exponent + power) := by
        rw [two_zpow_add]
        push_cast
        ring
      rw [signed_mul_signed, value]
      exact (describes_exact _).nearest (leftCanonical.1.mul_fine rightCanonical.1 positive above) (sign * other)

theorem targetExponent_eq_max (total : Int) :
    Format.binary64.targetExponent total = max (total - 53) (-1074) := rfl

/-- The dividend is shifted far enough for the quotient to have all the bits of a double. -/
theorem quotient_fine {mantissa factor count : Nat} {exponent power target : Int} (positive : 0 < mantissa)
    (above : 0 < factor) (isTarget : target = min (exponent - power)
      (Format.binary64.targetExponent (totalExponent mantissa exponent - totalExponent factor power)))
    (isCount : count = (exponent - power - target).toNat) :
    target ≤ max ((mantissa <<< count / factor).log2 + target - 52) (-1074) := by
  rw [targetExponent_eq_max] at isTarget
  unfold totalExponent at isTarget
  by_cases subnormal : target ≤ -1074
  · omega
  · have enough : factor.log2 + 53 ≤ mantissa.log2 + count := by omega
    have large : 2 ^ 52 ≤ mantissa <<< count / factor := by
      rw [Nat.le_div_iff_mul_le above, Nat.shiftLeft_eq]
      calc
        2 ^ 52 * factor ≤ 2 ^ 52 * 2 ^ (factor.log2 + 1) := Nat.mul_le_mul_left _ Nat.lt_log2_self.le
        _ = 2 ^ (factor.log2 + 53) := by rw [← Nat.pow_add, Nat.add_comm 52, Nat.add_assoc]
        _ ≤ 2 ^ (mantissa.log2 + count) := Nat.pow_le_pow_right two_pos enough
        _ = 2 ^ mantissa.log2 * 2 ^ count := Nat.pow_add 2 _ _
        _ ≤ mantissa * 2 ^ count := Nat.mul_le_mul_right _ (Nat.log2_self_le positive.ne')
    have nonzero : mantissa <<< count / factor ≠ 0 := by
      have bits : 0 < 2 ^ 52 := Nat.two_pow_pos 52
      omega
    have bits := (Nat.le_log2 nonzero).mpr large
    omega

theorem signed_div_signed (sign other : Sign) (magnitude factor : ℚ) :
    signed sign magnitude / signed other factor = signed (sign / other) (magnitude / factor) := by
  cases sign with
  | negative =>
      cases other with
      | negative => exact neg_div_neg_eq magnitude factor
      | positive => exact neg_div factor magnitude
  | positive =>
      cases other with
      | negative => exact div_neg magnitude
      | positive => rfl

theorem nearest_div (isLeft : rationalOf left = some leftExact) (isRight : rationalOf right = some rightExact)
    (nonzero : rightExact ≠ 0) :
    Nearest (leftExact / rightExact) (Float.Model.pack (left.div Format.binary64 right)).unpack := by
  rcases finite_cases isRight with ⟨other, rfl, rfl⟩ | ⟨other, factor, power, above, rfl, rfl⟩
  · exact (nonzero rfl).elim
  · rcases finite_cases isLeft with ⟨sign, rfl, rfl⟩ | ⟨sign, mantissa, exponent, positive, rfl, rfl⟩
    · rw [zero_div]
      exact nearest_pack_zero (sign / other)
    · generalize isTarget : min (exponent - power)
        (Format.binary64.targetExponent (totalExponent mantissa exponent - totalExponent factor power)) = target
      generalize isCount : (exponent - power - target).toNat = count
      have quotient : UnpackedFloat.div Format.binary64 (.finite sign mantissa exponent positive)
          (.finite other factor power above) = roundWithAccuracy Format.binary64 (sign / other)
            (mantissa <<< count / factor) target (accuracyOfFraction (mantissa <<< count % factor) factor) := by
        rw [← isCount, ← isTarget]
        rfl
      have value : (mantissa * 2 ^ exponent : ℚ) / (factor * 2 ^ power) =
          ((mantissa <<< count : ℕ) : ℚ) / factor * 2 ^ target := by
        have exponents : exponent = power + target + count := by omega
        have cancel : (factor : ℚ) ≠ 0 := by exact_mod_cast above.ne'
        rw [Nat.shiftLeft_eq, exponents, two_zpow_add, two_zpow_add, zpow_natCast]
        push_cast
        field_simp
      rw [quotient, signed_div_signed, value]
      exact (describes_quotient _ above).nearest
        (quotient_fine positive above isTarget.symm isCount.symm) (sign / other)

end

end TenPuzzle.Number
