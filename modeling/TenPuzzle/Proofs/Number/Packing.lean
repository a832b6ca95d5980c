import Mathlib.Data.Nat.Log
import Mathlib.Tactic.NormNum

/-!
The bits of doubles: taken apart, they give a mantissa and an exponent in normal form, and these are
put together again without a change.
-/

namespace TenPuzzle.Number

open Float.Model Float.Model.UnpackedFloat

/-- The mantissa has all its bits, unless the exponent is the least one. -/
structure Fits (mantissa : Nat) (exponent : Int) : Prop where
  short : mantissa < 2 ^ 53
  least : -1074 ≤ exponent
  normal : 2 ^ 52 ≤ mantissa ∨ exponent = -1074

def IsCanonical : Float.Model.UnpackedFloat → Prop
  | .finite _ mantissa exponent _ => Fits mantissa exponent ∧ exponent ≤ 971
  | _ => True

theorem IsCanonical.abs {unpacked : Float.Model.UnpackedFloat} (canonical : IsCanonical unpacked) :
    IsCanonical unpacked.abs := by
  cases unpacked with
  | finite sign mantissa exponent positive => exact canonical
  | _ => trivial

theorem IsCanonical.neg {unpacked : Float.Model.UnpackedFloat} (canonical : IsCanonical unpacked) :
    IsCanonical unpacked.neg := by
  cases unpacked with
  | finite sign mantissa exponent positive => exact canonical
  | _ => trivial

def ofFields (sign : Sign) (biased fraction : Nat) : Float.Model.UnpackedFloat :=
  if biased = 2047 then
    if fraction = 0 then .infinity sign else .notANumber
  else if biased = 0 then
    if isZero : fraction = 0 then .zero sign
    else .finite sign fraction (-1074) (Nat.pos_of_ne_zero isZero)
  else .finite sign (2 ^ 52 + fraction) (biased - 1075) (Nat.add_pos_left (Nat.two_pow_pos 52) fraction)

theorem toNat_implicit (mantissa : BitVec 52) : (1#1 ++ mantissa).toNat = 2 ^ 52 + mantissa.toNat := by
  rw [BitVec.toNat_append, ← Nat.shiftLeft_add_eq_or_of_lt mantissa.isLt]
  rfl

theorem finite_congr {sign : Sign} {mantissa other : Nat} {exponent power : Int} (same : mantissa = other)
    (equal : exponent = power) (positive : 0 < mantissa) (positive' : 0 < other) :
    Float.Model.UnpackedFloat.finite sign mantissa exponent positive = .finite sign other power positive' := by
  subst same equal
  rfl

theorem toNat_eq_iff {width value : Nat} (bits : BitVec width) (small : value < 2 ^ width) :
    bits = BitVec.ofNat width value ↔ bits.toNat = value := by
  rw [← BitVec.toNat_inj, BitVec.toNat_ofNat, Nat.mod_eq_of_lt small]

theorem unpack_eq_ofFields (bits : BitVec 64) :
    UnpackedFloat.unpack Format.binary64 bits =
      ofFields (Sign.ofBitVec (@unpackSign Format.binary64 bits))
        (@unpackExponent Format.binary64 bits).toNat (@unpackMantissa Format.binary64 bits).toNat := by
  have bias : ((Format.binary64.exponentBias : ℕ) : ℤ) + (Format.binary64.mantissaBitsWithoutImplicit : ℕ) = 1075 :=
    rfl
  have all : (-1#11 : BitVec 11) = BitVec.ofNat 11 2047 := rfl
  have greatest := toNat_eq_iff (@unpackExponent Format.binary64 bits) (show 2047 < 2 ^ 11 by decide)
  have least := toNat_eq_iff (@unpackExponent Format.binary64 bits) (show 0 < 2 ^ 11 by decide)
  have empty := toNat_eq_iff (@unpackMantissa Format.binary64 bits) (show 0 < 2 ^ 52 by decide)
  unfold UnpackedFloat.unpack ofFields
  dsimp only
  rw [bias, all]
  by_cases isGreatest : @unpackExponent Format.binary64 bits = BitVec.ofNat 11 2047
  · rw [if_pos isGreatest, if_pos (greatest.mp isGreatest)]
    by_cases isEmpty : @unpackMantissa Format.binary64 bits = BitVec.ofNat 52 0
    · rw [if_pos isEmpty, if_pos (empty.mp isEmpty)]
    · rw [if_neg isEmpty, if_neg (mt empty.mpr isEmpty)]
  · rw [if_neg isGreatest, if_neg (mt greatest.mpr isGreatest)]
    by_cases isLeast : @unpackExponent Format.binary64 bits = BitVec.ofNat 11 0
    · rw [if_pos isLeast, if_pos (least.mp isLeast)]
      by_cases isEmpty : @unpackMantissa Format.binary64 bits = BitVec.ofNat 52 0
      · rw [dif_pos isEmpty, dif_pos (empty.mp isEmpty)]
      · rw [dif_neg isEmpty, dif_neg (mt empty.mpr isEmpty)]
        have isZero := least.mp isLeast
        apply finite_congr rfl
        omega
    · rw [if_neg isLeast, if_neg (mt least.mpr isLeast)]
      exact finite_congr (toNat_implicit _) rfl _ _

theorem ofFields_isCanonical (sign : Sign) {biased fraction : Nat} (exponentBound : biased < 2 ^ 11)
    (fractionBound : fraction < 2 ^ 52) : IsCanonical (ofFields sign biased fraction) := by
  unfold ofFields
  by_cases isGreatest : biased = 2047
  · rw [if_pos isGreatest]
    split <;> exact trivial
  · rw [if_neg isGreatest]
    by_cases isLeast : biased = 0
    · rw [if_pos isLeast]
      by_cases isZero : fraction = 0
      · rw [dif_pos isZero]
        exact trivial
      · rw [dif_neg isZero]
        exact ⟨⟨by omega, by omega, .inr rfl⟩, by omega⟩
    · rw [if_neg isLeast]
      exact ⟨⟨by omega, by omega, .inl (by omega)⟩, by omega⟩

theorem unpack_isCanonical (model : Float.Model) : IsCanonical model.unpack := by
  unfold Float.Model.unpack
  rw [unpack_eq_ofFields]
  exact ofFields_isCanonical _ (BitVec.isLt _) (BitVec.isLt _)

theorem unpackSign_packComponents {spec : Format} {sign exponent mantissa} :
    unpackSign (packComponents spec sign exponent mantissa) = sign.toBitVec := by
  ext position small
  have first : spec.mantissaBitsWithoutImplicit + spec.exponentBits + position -
      spec.mantissaBitsWithoutImplicit - spec.exponentBits = position := by omega
  unfold unpackSign packComponents
  simp only [BitVec.getElem_cast, BitVec.getElem_extract, BitVec.getLsbD_append]
  rw [if_neg (by omega), if_neg (by omega), first, BitVec.getLsbD_eq_getElem small]

theorem unpack_packComponents (sign : Sign) {biased : Nat} (fraction : Nat) (bound : biased < 2 ^ 11) :
    UnpackedFloat.unpack Format.binary64
        (packComponents Format.binary64 sign (BitVec.ofNat 11 biased) (BitVec.ofNat 52 fraction)) =
      ofFields sign biased (fraction % 2 ^ 52) := by
  have same : Sign.ofBitVec sign.toBitVec = sign := by
    cases sign <;> rfl
  rw [unpack_eq_ofFields, unpackSign_packComponents, unpackExponent_packComponents,
    unpackMantissa_packComponents, BitVec.toNat_ofNat, BitVec.toNat_ofNat, Nat.mod_eq_of_lt bound, same]

theorem unpack_packedInfinity (sign : Sign) :
    UnpackedFloat.unpack Format.binary64 (packedInfinity Format.binary64 sign) = .infinity sign := by
  have fields : packedInfinity Format.binary64 sign =
      packComponents Format.binary64 sign (BitVec.ofNat 11 2047) (BitVec.ofNat 52 0) := rfl
  rw [fields, unpack_packComponents sign 0 (by decide)]
  rfl

theorem unpack_packedNaN :
    UnpackedFloat.unpack Format.binary64 (packedNaN Format.binary64) = .notANumber := by
  have fields : packedNaN Format.binary64 =
      packComponents Format.binary64 .positive (BitVec.ofNat 11 2047) (BitVec.ofNat 52 2251799813685248) := by
    decide
  rw [fields, unpack_packComponents .positive _ (by decide)]
  rfl

theorem unpack_packedZero (sign : Sign) :
    UnpackedFloat.unpack Format.binary64 (packedZero Format.binary64 sign) = .zero sign := by
  have fields : packedZero Format.binary64 sign =
      packComponents Format.binary64 sign (BitVec.ofNat 11 0) (BitVec.ofNat 52 0) := rfl
  rw [fields, unpack_packComponents sign 0 (by decide)]
  rfl

theorem log2_eq_of_bounds {mantissa : Nat} (normal : 2 ^ 52 ≤ mantissa) (short : mantissa < 2 ^ 53) :
    mantissa.log2 = 52 :=
  (Nat.log2_eq_iff (by omega)).mpr ⟨normal, short⟩

theorem pack_finite (sign : Sign) {mantissa : Nat} {exponent : Int} (positive : 0 < mantissa) :
    UnpackedFloat.pack Format.binary64 (.finite sign mantissa exponent positive) =
      if 2 ^ 11 ≤ (exponent + 1075).toNat + 1 then packedInfinity Format.binary64 sign
      else if mantissa.log2 + 1 = 53 then
        packComponents Format.binary64 sign (BitVec.ofNat 11 (exponent + 1075).toNat) (BitVec.ofNat 52 mantissa)
      else packComponents Format.binary64 sign (BitVec.ofNat 11 0) (BitVec.ofNat 52 mantissa) := by
  have bias : exponent + ((Format.binary64.exponentBias : ℕ) : ℤ) +
      (Format.binary64.mantissaBitsWithoutImplicit : ℕ) = exponent + 1075 := by
    change exponent + 1023 + 52 = exponent + 1075
    omega
  unfold UnpackedFloat.pack
  dsimp only
  rw [bias]
  rfl

/-- Doubles in normal form survive packing. -/
theorem unpack_pack {unpacked : Float.Model.UnpackedFloat} (canonical : IsCanonical unpacked) :
    (Float.Model.pack unpacked).unpack = unpacked := by
  change UnpackedFloat.unpack Format.binary64 (UnpackedFloat.pack Format.binary64 unpacked) = unpacked
  cases unpacked with
  | notANumber => exact unpack_packedNaN
  | infinity sign => exact unpack_packedInfinity sign
  | zero sign => exact unpack_packedZero sign
  | finite sign mantissa exponent positive =>
      obtain ⟨⟨short, least, normal⟩, bounded⟩ := canonical
      rw [pack_finite, if_neg (by omega)]
      by_cases isNormal : 2 ^ 52 ≤ mantissa
      · have fraction : mantissa % 2 ^ 52 = mantissa - 2 ^ 52 := by omega
        rw [if_pos (by rw [log2_eq_of_bounds isNormal short]),
          unpack_packComponents _ _ (by omega), fraction]
        unfold ofFields
        rw [if_neg (by omega), if_neg (by omega)]
        exact finite_congr (by omega) (by omega) _ _
      · have subnormal : exponent = -1074 := normal.resolve_left isNormal
        have small : mantissa < 2 ^ 52 := by omega
        have logarithm : mantissa.log2 < 52 := (Nat.log2_lt positive.ne').mpr small
        rw [if_neg (by omega), unpack_packComponents _ _ (by decide), Nat.mod_eq_of_lt small]
        unfold ofFields
        rw [if_neg (by decide), if_pos rfl, dif_neg positive.ne']
        exact finite_congr rfl subnormal.symm _ _

theorem unpack_pack_overflow (sign : Sign) {mantissa : Nat} {exponent : Int} (positive : 0 < mantissa)
    (beyond : 971 < exponent) :
    (Float.Model.pack (.finite sign mantissa exponent positive)).unpack = .infinity sign := by
  change UnpackedFloat.unpack Format.binary64 (UnpackedFloat.pack Format.binary64 _) = _
  rw [pack_finite, if_pos (by omega)]
  exact unpack_packedInfinity sign

end TenPuzzle.Number
