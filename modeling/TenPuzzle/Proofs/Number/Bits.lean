import TenPuzzle.Number.Binary64
import TenPuzzle.Proofs.Number.Nearest

/-!
The bits of a double as one number. Its fields are read off by division, the parts that printing uses
are those of the unpacked form, and doubles with one unpacked form are the same double.
-/

namespace TenPuzzle.Number

open Float.Model Float.Model.UnpackedFloat

def signOf (bits : Nat) : Sign :=
  if bits / 2 ^ 63 = 1 then .negative else .positive

theorem toNat_unpackMantissa (bits : BitVec 64) :
    (@unpackMantissa Format.binary64 bits).toNat = bits.toNat % 2 ^ 52 := by
  unfold unpackMantissa
  rw [BitVec.toNat_cast, BitVec.extractLsb_toNat]
  rfl

theorem toNat_unpackExponent (bits : BitVec 64) :
    (@unpackExponent Format.binary64 bits).toNat = bits.toNat / 2 ^ 52 % 2 ^ 11 := by
  unfold unpackExponent
  rw [BitVec.toNat_cast, BitVec.extractLsb_toNat, Nat.shiftRight_eq_div_pow]
  rfl

theorem ofBitVec_unpackSign (bits : BitVec 64) :
    Sign.ofBitVec (@unpackSign Format.binary64 bits) = signOf bits.toNat := by
  have isBit : (@unpackSign Format.binary64 bits).toNat = bits.toNat / 2 ^ 63 % 2 := by
    unfold unpackSign
    rw [BitVec.toNat_cast, BitVec.extractLsb_toNat, Nat.shiftRight_eq_div_pow]
    rfl
  have bound := bits.isLt
  unfold Sign.ofBitVec signOf
  by_cases isNegative : bits.toNat / 2 ^ 63 = 1
  · rw [if_pos isNegative, if_neg]
    intro isZero
    rw [isZero, isNegative] at isBit
    exact absurd isBit (by decide)
  · rw [if_neg isNegative, if_pos]
    apply BitVec.toNat_inj.mp
    rw [isBit]
    change bits.toNat / 2 ^ 63 % 2 = 0
    omega

theorem unpack_toBits (value : Float) :
    value.toModel.unpack = ofFields (signOf value.toBits.toNat)
      (value.toBits.toNat / 2 ^ 52 % 2 ^ 11) (value.toBits.toNat % 2 ^ 52) := by
  change UnpackedFloat.unpack Format.binary64 value.toBits.toBitVec = _
  rw [unpack_eq_ofFields, ofBitVec_unpackSign, toNat_unpackExponent, toNat_unpackMantissa]
  rfl

/-- The fields that an unpacked form comes from. What is not a number has many, and any will do. -/
def fieldsOf : Float.Model.UnpackedFloat → Sign × Nat × Nat
  | .notANumber => (.positive, 2047, 1)
  | .infinity sign => (sign, 2047, 0)
  | .zero sign => (sign, 0, 0)
  | .finite sign mantissa exponent _ =>
    if mantissa < 2 ^ 52 then (sign, 0, mantissa)
    else (sign, (exponent + 1075).toNat, mantissa - 2 ^ 52)

theorem fieldsOf_finite (sign : Sign) {mantissa : Nat} (exponent : Int) (positive : 0 < mantissa) :
    fieldsOf (.finite sign mantissa exponent positive) =
      if mantissa < 2 ^ 52 then (sign, 0, mantissa) else (sign, (exponent + 1075).toNat, mantissa - 2 ^ 52) := rfl

theorem fieldsOf_ofFields (sign : Sign) {biased fraction : Nat} (short : fraction < 2 ^ 52)
    (isNumber : ofFields sign biased fraction ≠ .notANumber) :
    fieldsOf (ofFields sign biased fraction) = (sign, biased, fraction) := by
  unfold ofFields at isNumber ⊢
  by_cases isGreatest : biased = 2047
  · rw [if_pos isGreatest] at isNumber ⊢
    by_cases isEmpty : fraction = 0
    · rw [if_pos isEmpty, isGreatest, isEmpty]
      rfl
    · exact absurd (if_neg isEmpty) isNumber
  · rw [if_neg isGreatest]
    by_cases isLeast : biased = 0
    · rw [if_pos isLeast, isLeast]
      by_cases isEmpty : fraction = 0
      · rw [dif_pos isEmpty, isEmpty]
        rfl
      · rw [dif_neg isEmpty, fieldsOf_finite, if_pos short]
    · have exponent : ((biased : Int) - 1075 + 1075).toNat = biased := by omega
      rw [if_neg isLeast, fieldsOf_finite, if_neg (by omega), exponent, Nat.add_sub_cancel_left]

theorem toBits_inj {left right : Float} (same : left.toBits = right.toBits) : left = right := by
  obtain ⟨⟨leftBits, leftValid⟩⟩ := left
  obtain ⟨⟨rightBits, rightValid⟩⟩ := right
  cases same
  rfl

theorem ofFields_eq_notANumber {sign : Sign} {biased fraction : Nat}
    (noNumber : ofFields sign biased fraction = .notANumber) : biased = 2047 ∧ fraction ≠ 0 := by
  unfold ofFields at noNumber
  by_cases isGreatest : biased = 2047
  · refine ⟨isGreatest, ?_⟩
    intro isEmpty
    rw [if_pos isGreatest, if_pos isEmpty] at noNumber
    cases noNumber
  · rw [if_neg isGreatest] at noNumber
    by_cases isLeast : biased = 0
    · rw [if_pos isLeast] at noNumber
      by_cases isEmpty : fraction = 0
      · rw [dif_pos isEmpty] at noNumber
        cases noNumber
      · rw [dif_neg isEmpty] at noNumber
        cases noNumber
    · rw [if_neg isLeast] at noNumber
      cases noNumber

theorem toBits_of_notANumber {value : Float} (unpacks : value.toModel.unpack = .notANumber) :
    value.toBits.toBitVec = packedNaN Format.binary64 := by
  have fields := unpack_eq_ofFields value.toModel.toBits.toBitVec
  change value.toModel.unpack = _ at fields
  rw [unpacks] at fields
  obtain ⟨isGreatest, isNonempty⟩ := ofFields_eq_notANumber fields.symm
  apply value.toModel.valid.eq_packedNaN
  · apply BitVec.toNat_inj.mp
    rw [isGreatest]
    rfl
  · intro isZero
    rw [isZero] at isNonempty
    exact isNonempty rfl

theorem eq_of_unpack {left right : Float} (same : left.toModel.unpack = right.toModel.unpack) :
    left = right := by
  apply toBits_inj
  by_cases isNumber : left.toModel.unpack = .notANumber
  · have leftBits := toBits_of_notANumber isNumber
    rw [same] at isNumber
    apply UInt64.toBitVec_inj.mp
    rw [leftBits, toBits_of_notANumber isNumber]
  · rw [unpack_toBits, unpack_toBits] at same
    rw [unpack_toBits] at isNumber
    have short (bits : Nat) : bits % 2 ^ 52 < 2 ^ 52 := Nat.mod_lt _ (Nat.two_pow_pos 52)
    have fields := fieldsOf_ofFields _ (short _) isNumber
    rw [same] at isNumber fields
    rw [fieldsOf_ofFields _ (short _) isNumber] at fields
    simp only [Prod.mk.injEq] at fields
    obtain ⟨signs, exponents, fractions⟩ := fields
    have leftBound := left.toBits.toNat_lt
    have rightBound := right.toBits.toNat_lt
    have leading : left.toBits.toNat / 2 ^ 63 = 1 ↔ right.toBits.toNat / 2 ^ 63 = 1 := by
      unfold signOf at signs
      split at signs <;> split at signs <;> simp_all
    apply UInt64.toNat_inj.mp
    omega

def isNegative : Sign → Bool
  | .negative => true
  | .positive => false

def partsOf : Float.Model.UnpackedFloat → Binary64
  | .notANumber => .notANumber
  | .infinity sign => .infinite (isNegative sign)
  | .zero sign => .finite (isNegative sign) 0 Binary64.leastExponent
  | .finite sign mantissa exponent _ => .finite (isNegative sign) mantissa exponent

theorem partsOf_zero (sign : Sign) :
    partsOf (.zero sign) = .finite (isNegative sign) 0 Binary64.leastExponent := rfl

theorem partsOf_finite (sign : Sign) {mantissa : Nat} (exponent : Int) (positive : 0 < mantissa) :
    partsOf (.finite sign mantissa exponent positive) = .finite (isNegative sign) mantissa exponent := rfl

theorem isNegative_signOf (bits : Nat) : isNegative (signOf bits) = (bits / 2 ^ 63 == 1) := by
  unfold signOf
  by_cases isOne : bits / 2 ^ 63 = 1
  · rw [if_pos isOne, isOne]
    rfl
  · rw [if_neg isOne, beq_false_of_ne isOne]
    rfl

theorem ofFloat_eq_partsOf (value : Float) : Binary64.ofFloat value = partsOf value.toModel.unpack := by
  rw [unpack_toBits]
  have sign : (value.toBits.toNat / Nat.pow 2 63 == 1) = isNegative (signOf value.toBits.toNat) :=
    (isNegative_signOf _).symm
  have normal : Binary64.normalMantissa = 2 ^ 52 := rfl
  have width : Nat.pow 2 11 = 2 ^ 11 := rfl
  unfold Binary64.ofFloat ofFields
  dsimp only
  rw [sign, normal, width]
  generalize value.toBits.toNat / 2 ^ 52 % 2 ^ 11 = biased
  generalize value.toBits.toNat % 2 ^ 52 = fraction
  by_cases isGreatest : biased = 2047
  · rw [if_pos isGreatest, if_pos isGreatest]
    by_cases isEmpty : fraction = 0
    · rw [if_pos isEmpty, if_pos isEmpty]
      rfl
    · rw [if_neg isEmpty, if_neg isEmpty]
      rfl
  · rw [if_neg isGreatest, if_neg isGreatest]
    by_cases isLeast : biased = 0
    · rw [if_pos isLeast, if_pos isLeast]
      by_cases isEmpty : fraction = 0
      · rw [dif_pos isEmpty, isEmpty]
        rfl
      · rw [dif_neg isEmpty]
        rfl
    · rw [if_neg isLeast, if_neg isLeast]
      have exponent : Binary64.leastExponent + biased - 1 = biased - 1075 := by
        unfold Binary64.leastExponent
        omega
      rw [exponent, Nat.add_comm]
      rfl

end TenPuzzle.Number
