import Mathlib.Algebra.Order.Ring.WithTop
import TenPuzzle.Proofs.Number.Double

/-!
The order of doubles. Whatever is a number has its place on the rational line, or at one of its ends, and
comparisons go by places; what is not a number has none.
-/

namespace TenPuzzle.Number

open Float.Model Float.Model.UnpackedFloat

def placeOf : Float.Model.UnpackedFloat → Option (WithBot (WithTop ℚ))
  | .notANumber => none
  | .infinity .negative => some ⊥
  | .infinity .positive => some ((⊤ : WithTop ℚ) : WithBot (WithTop ℚ))
  | .zero _ => some (((0 : ℚ) : WithTop ℚ) : WithBot (WithTop ℚ))
  | .finite sign mantissa exponent _ =>
    some (((signed sign (mantissa * 2 ^ exponent) : ℚ) : WithTop ℚ) : WithBot (WithTop ℚ))

theorem placeOf_zero (sign : Sign) :
    placeOf (.zero sign) = some (((0 : ℚ) : WithTop ℚ) : WithBot (WithTop ℚ)) := rfl

theorem placeOf_finite (sign : Sign) {mantissa : Nat} (exponent : Int) (positive : 0 < mantissa) :
    placeOf (.finite sign mantissa exponent positive) =
      some (((signed sign (mantissa * 2 ^ exponent) : ℚ) : WithTop ℚ) : WithBot (WithTop ℚ)) := rfl

def place (value : Float) : Option (WithBot (WithTop ℚ)) :=
  placeOf value.toModel.unpack

theorem place_of_exactValue {value : Float} {exact : ℚ} (isValue : exactValue value = some exact) :
    place value = some ((exact : WithTop ℚ) : WithBot (WithTop ℚ)) := by
  unfold place
  rcases finite_cases isValue with ⟨sign, isZero, rfl⟩ | ⟨sign, mantissa, exponent, positive, unpacks, rfl⟩
  · rw [isZero, placeOf_zero]
  · rw [unpacks, placeOf_finite]

theorem Fits.compare_eq {mantissa factor : Nat} {exponent power : Int} (fits : Fits mantissa exponent)
    (fitsFactor : Fits factor power) :
    (compare exponent power).then (compare mantissa factor) =
      cmp (mantissa * 2 ^ exponent : ℚ) (factor * 2 ^ power) := by
  have below := fits.compare_lt fitsFactor
  have above := fitsFactor.compare_lt fits
  rw [← Int.compare_swap, ← Nat.compare_swap, ← Ordering.swap_then, Ordering.swap_eq_lt] at above
  cases order : (compare exponent power).then (compare mantissa factor) with
  | lt => exact (below.mp order).cmp_eq_lt.symm
  | gt => exact (above.mp order).cmp_eq_gt.symm
  | eq =>
      rw [order] at below above
      have notBelow := mt below.mpr (by decide)
      have notAbove := mt above.mpr (by decide)
      exact (le_antisymm (not_lt.mp notAbove) (not_lt.mp notBelow)).cmp_eq_eq.symm

theorem cmp_coe (left right : ℚ) :
    cmp ((left : WithTop ℚ) : WithBot (WithTop ℚ)) ((right : WithTop ℚ) : WithBot (WithTop ℚ)) =
      cmp left right := by
  rw [WithBot.coe_strictMono.cmp_map_eq, WithTop.coe_strictMono.cmp_map_eq]

theorem magnitude_pos {mantissa : Nat} (positive : 0 < mantissa) (exponent : Int) :
    (0 : ℚ) < mantissa * 2 ^ exponent :=
  mul_pos (Nat.cast_pos.mpr positive) (two_zpow_pos exponent)

/-- Comparing two unpacked numbers compares their places. -/
theorem compare_eq_cmp {left right : Float.Model.UnpackedFloat} (isLeft : IsCanonical left)
    (isRight : IsCanonical right) : left.compare right = Option.map₂ cmp (placeOf left) (placeOf right) := by
  cases left with
  | notANumber => rfl
  | infinity sign =>
      cases right with
      | notANumber => cases sign <;> rfl
      | infinity other => cases sign <;> cases other <;> rfl
      | zero other => cases sign <;> rfl
      | finite other mantissa exponent positive => cases sign <;> rfl
  | zero sign =>
      cases right with
      | notANumber => rfl
      | infinity other => cases other <;> rfl
      | zero other => rfl
      | finite other mantissa exponent positive =>
          have above := magnitude_pos positive exponent
          rw [placeOf_zero, placeOf_finite, Option.map₂_some_some, cmp_coe]
          cases other with
          | positive => exact congrArg some above.cmp_eq_lt.symm
          | negative => exact congrArg some (neg_neg_of_pos above).cmp_eq_gt.symm
  | finite sign mantissa exponent positive =>
      have above := magnitude_pos positive exponent
      cases right with
      | notANumber => rfl
      | infinity other => cases other <;> rfl
      | zero other =>
          rw [placeOf_finite, placeOf_zero, Option.map₂_some_some, cmp_coe]
          cases sign with
          | positive => exact congrArg some above.cmp_eq_gt.symm
          | negative => exact congrArg some (neg_neg_of_pos above).cmp_eq_lt.symm
      | finite other factor power begun =>
          have beyond := magnitude_pos begun power
          have compares := isLeft.1.compare_eq isRight.1
          rw [placeOf_finite, placeOf_finite, Option.map₂_some_some, cmp_coe]
          cases sign with
          | positive =>
              cases other with
              | positive => exact congrArg some compares
              | negative => exact congrArg some ((neg_neg_of_pos beyond).trans above).cmp_eq_gt.symm
          | negative =>
              cases other with
              | positive => exact congrArg some ((neg_neg_of_pos above).trans beyond).cmp_eq_lt.symm
              | negative =>
                  have swapped := congrArg Ordering.swap compares
                  rw [cmp_swap] at swapped
                  have negated : StrictAnti fun exact : ℚ => -exact := fun _ _ => neg_lt_neg
                  exact congrArg some (swapped.trans (negated.cmp_map_eq _ _).symm)

section

variable {left middle right : Float}

theorem lt_iff_place : left < right ↔ ∃ x y, place left = some x ∧ place right = some y ∧ x < y := by
  change decide (left.toModel < right.toModel) = true ↔ _
  rw [decide_eq_true_iff]
  change (UnpackedFloat.compare left.toModel.unpack right.toModel.unpack == some .lt) = true ↔ _
  rw [beq_iff_eq, compare_eq_cmp (unpack_isCanonical _) (unpack_isCanonical _), Option.map₂_eq_some_iff]
  exact exists_congr fun x => exists_congr fun y => and_congr Iff.rfl (and_congr Iff.rfl (cmp_eq_lt_iff x y))

theorem le_iff_place : left ≤ right ↔ ∃ x y, place left = some x ∧ place right = some y ∧ x ≤ y := by
  change decide (left.toModel ≤ right.toModel) = true ↔ _
  rw [decide_eq_true_iff]
  change (UnpackedFloat.compare left.toModel.unpack right.toModel.unpack).any (·.isLE) = true ↔ _
  rw [compare_eq_cmp (unpack_isCanonical _) (unpack_isCanonical _)]
  change (Option.map₂ cmp (place left) (place right)).any (·.isLE) = true ↔ _
  cases place left with
  | none => exact ⟨fun impossible => (by cases impossible), fun ⟨_, _, impossible, _⟩ => (by cases impossible)⟩
  | some x =>
      cases place right with
      | none => exact ⟨fun impossible => (by cases impossible), fun ⟨_, _, _, impossible, _⟩ => (by cases impossible)⟩
      | some y =>
          have order : (cmp x y).isLE = true ↔ x ≤ y :=
            Ordering.isLE_iff_ne_gt.trans ((not_congr (cmp_eq_gt_iff x y)).trans not_lt)
          change (cmp x y).isLE = true ↔ _
          rw [order]
          simp

theorem beq_iff_place : (left == right) = true ↔ ∃ x, place left = some x ∧ place right = some x := by
  change (UnpackedFloat.compare left.toModel.unpack right.toModel.unpack == some .eq) = true ↔ _
  rw [beq_iff_eq, compare_eq_cmp (unpack_isCanonical _) (unpack_isCanonical _), Option.map₂_eq_some_iff]
  constructor
  · rintro ⟨x, y, isLeft, isRight, same⟩
    obtain rfl := (cmp_eq_eq_iff x y).mp same
    exact ⟨x, isLeft, isRight⟩
  · rintro ⟨x, isLeft, isRight⟩
    exact ⟨x, x, isLeft, isRight, (cmp_eq_eq_iff x x).mpr rfl⟩

theorem le_trans_float (first : left ≤ middle) (second : middle ≤ right) : left ≤ right := by
  obtain ⟨x, y, isLeft, isMiddle, low⟩ := le_iff_place.mp first
  obtain ⟨y', z, isMiddle', isRight, high⟩ := le_iff_place.mp second
  rw [isMiddle, Option.some.injEq] at isMiddle'
  subst isMiddle'
  exact le_iff_place.mpr ⟨x, z, isLeft, isRight, low.trans high⟩

theorem lt_iff_not_le (isLeft : (place left).isSome) (isRight : (place right).isSome) :
    left < right ↔ ¬right ≤ left := by
  obtain ⟨x, isLeft⟩ := Option.isSome_iff_exists.mp isLeft
  obtain ⟨y, isRight⟩ := Option.isSome_iff_exists.mp isRight
  simp [lt_iff_place, le_iff_place, isLeft, isRight]

end

section

variable {left right : Float} {exact other : ℚ}

theorem lt_iff_exactValue (isLeft : exactValue left = some exact) (isRight : exactValue right = some other) :
    left < right ↔ exact < other := by
  simp [lt_iff_place, place_of_exactValue isLeft, place_of_exactValue isRight]

theorem le_iff_exactValue (isLeft : exactValue left = some exact) (isRight : exactValue right = some other) :
    left ≤ right ↔ exact ≤ other := by
  simp [le_iff_place, place_of_exactValue isLeft, place_of_exactValue isRight]

theorem abs_lt_iff (isLeft : exactValue left = some exact) (isRight : exactValue right = some other) :
    left.abs < right ↔ |exact| < other :=
  lt_iff_exactValue (exactValue_abs isLeft) isRight

end

theorem IsNearest.place_isSome {exact : ℚ} {value : Float} (nearest : IsNearest exact value) :
    (place value).isSome = true := by
  obtain ⟨rounded, _, within, beyond⟩ := nearest
  by_cases finite : |rounded| < 2 ^ 1024
  · have isValue : exactValue value = some rounded := within finite
    rw [place_of_exactValue isValue]
    rfl
  · obtain ⟨sign, isInfinite, _⟩ := beyond (not_lt.mp finite)
    rw [place, isInfinite]
    cases sign <;> rfl

/-- A finite double plus any number is a number. -/
theorem place_add {left right : Float} {exact : ℚ} (isLeft : exactValue left = some exact)
    (isRight : (place right).isSome = true) : (place (left + right)).isSome = true := by
  cases unpacks : right.toModel.unpack with
  | notANumber =>
      rw [place, unpacks] at isRight
      cases isRight
  | infinity sign =>
      have adds : (left + right).toModel.unpack = .infinity sign := by
        change (Float.Model.pack (UnpackedFloat.add Format.binary64 left.toModel.unpack
          right.toModel.unpack)).unpack = _
        have sum : UnpackedFloat.add Format.binary64 left.toModel.unpack right.toModel.unpack =
            .infinity sign := by
          rw [unpacks]
          rcases finite_cases isLeft with ⟨other, isZero, _⟩ | ⟨other, mantissa, exponent, positive, isFinite, _⟩
          · rw [isZero]
            rfl
          · rw [isFinite]
            rfl
        have canonical : IsCanonical (.infinity sign) := trivial
        rw [sum]
        exact unpack_pack canonical
      rw [place, adds]
      cases sign <;> rfl
  | zero sign =>
      have zero : exactValue right = some 0 := by rw [exactValue, unpacks, rationalOf_zero]
      exact (isNearest_add isLeft zero).place_isSome
  | finite sign mantissa exponent positive =>
      have finite : exactValue right = some (signed sign (mantissa * 2 ^ exponent)) := by
        rw [exactValue, unpacks, rationalOf_finite]
      exact (isNearest_add isLeft finite).place_isSome

theorem exactValue_of_isFinite {value : Float} (finite : value.isFinite = true) :
    ∃ exact, exactValue value = some exact := by
  change value.toModel.unpack.isFinite = true at finite
  unfold exactValue
  cases unpacks : value.toModel.unpack with
  | notANumber =>
      rw [unpacks] at finite
      cases finite
  | infinity sign =>
      rw [unpacks] at finite
      cases finite
  | zero sign => exact ⟨0, rfl⟩
  | finite sign mantissa exponent positive => exact ⟨_, rfl⟩

end TenPuzzle.Number
