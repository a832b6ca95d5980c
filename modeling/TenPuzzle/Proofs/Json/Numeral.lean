import TenPuzzle.Json.Reader
import TenPuzzle.Json.Writer
import TenPuzzle.Proofs.Expression.Grammar
import TenPuzzle.Proofs.Number.Bits
import TenPuzzle.Proofs.Number.Layout
import TenPuzzle.Proofs.Number.Reading

/-!
Numbers in JSON texts. What a written number is followed by ends it, and it reads back as itself:
whole numbers unless they are too long, doubles always, those that are not finite among them.
-/

namespace TenPuzzle.Json

open Float.Model Number

/-- What may stand behind a value that has been written. -/
def Ends : List Char → Prop
  | [] => True
  | next :: _ => next = ',' ∨ next = ']' ∨ next = '\x7d'

theorem Ends.startsNoDigit {rest : List Char} (ends : Ends rest) : StartsNoDigit rest := by
  cases rest with
  | nil => exact startsNoDigit_nil
  | cons next rest =>
      apply startsNoDigit_cons
      rcases ends with rfl | rfl | rfl <;> rfl

section

variable {digits rest : List Char}

theorem takeWhile_digits (allDigits : ∀ digit ∈ digits, digit.isDigit = true) (complete : StartsNoDigit rest) :
    (digits ++ rest).takeWhile Char.isDigit = digits := by
  rw [List.takeWhile_append_of_pos allDigits]
  cases rest with
  | nil => simp
  | cons next rest => simp [complete next rest rfl]

theorem dropWhile_digits (allDigits : ∀ digit ∈ digits, digit.isDigit = true) (complete : StartsNoDigit rest) :
    (digits ++ rest).dropWhile Char.isDigit = rest := by
  rw [List.dropWhile_append_of_pos allDigits]
  cases rest with
  | nil => rfl
  | cons next rest => simp [complete next rest rfl]

theorem splitWhole_append (isWhole : IsWholeNumeral digits) (complete : StartsNoDigit rest) :
    splitWhole (digits ++ rest) = (digits, rest) := by
  rcases isWhole with rfl | ⟨first, tail, rfl, nonzero, allDigits⟩
  · rfl
  · rw [List.cons_append, splitWhole]
    · rw [← List.cons_append, takeWhile_digits allDigits complete, dropWhile_digits allDigits complete]
    · intro other same
      exact nonzero (List.cons.inj same).1

theorem splitFraction_pointed (allDigits : ∀ digit ∈ digits, digit.isDigit = true)
    (complete : StartsNoDigit rest) (unpointed : rest.head? ≠ some '.') :
    splitFraction (pointed digits ++ rest) = (digits, rest) := by
  cases digits with
  | nil =>
      change splitFraction rest = _
      unfold splitFraction
      split
      · simp at unpointed
      · rfl
  | cons digit digits =>
      change splitFraction ('.' :: (digit :: digits ++ rest)) = _
      rw [splitFraction, takeWhile_digits allDigits complete, dropWhile_digits allDigits complete]
      rfl

theorem exponentOf_append (negative : Bool) (mark : List Char) (nonempty : digits ≠ [])
    (allDigits : ∀ digit ∈ digits, digit.isDigit = true) (complete : StartsNoDigit rest) :
    exponentOf negative mark (digits ++ rest) =
      (some (if negative then -(valueOfDigits digits : Int) else valueOfDigits digits), rest) := by
  unfold exponentOf
  dsimp only
  rw [takeWhile_digits allDigits complete, dropWhile_digits allDigits complete,
    if_neg (by simpa using nonempty)]

theorem splitExponent_mark (negative : Bool) (nonempty : digits ≠ [])
    (allDigits : ∀ digit ∈ digits, digit.isDigit = true) (complete : StartsNoDigit rest) :
    splitExponent ('e' :: exponentMark negative :: (digits ++ rest)) =
      (some (if negative then -(valueOfDigits digits : Int) else valueOfDigits digits), rest) := by
  cases negative with
  | true => exact exponentOf_append true _ nonempty allDigits complete
  | false => exact exponentOf_append false _ nonempty allDigits complete

theorem Ends.splitExponent (ends : Ends rest) : splitExponent rest = (none, rest) := by
  unfold Json.splitExponent
  split <;> simp_all [Ends] <;> rintro (rfl | rfl) <;> simp at ends

end

section

variable {text rest : List Char} (opening : List Char) (negative : Bool)

theorem readNumber_writes {mantissa : Nat} {exponent : Int} (writes : Writes text mantissa exponent)
    (ends : Ends rest) :
    readNumber opening negative (text ++ rest) =
      .ok (.float (if negative then -nearestFloat mantissa exponent else nearestFloat mantissa exponent),
        rest) := by
  have complete := ends.startsNoDigit
  cases writes with
  | @positional whole fraction isWhole nonempty allDigits =>
      have unpointed : rest.head? ≠ some '.' := by
        cases rest with
        | nil => simp
        | cons next rest => rcases ends with rfl | rfl | rfl <;> simp
      have isPointed : pointed fraction = '.' :: fraction := if_neg (by simpa using nonempty)
      have fractions := splitFraction_pointed allDigits complete unpointed
      rw [isPointed] at fractions
      have wholes := splitWhole_append isWhole (@startsNoDigit_cons '.' (fraction ++ rest) rfl)
      have filled : whole.isEmpty = false := by
        rcases isWhole with rfl | ⟨first, tail, rfl, _⟩ <;> rfl
      unfold readNumber
      simp only [List.append_assoc, List.cons_append] at fractions wholes ⊢
      rw [wholes]
      dsimp only
      rw [fractions]
      dsimp only
      rw [ends.splitExponent]
      simp [filled, nonempty]
  | @scientific first fraction digits below nonzero isDigit allDigits nonempty exponents =>
      have whole : IsWholeNumeral [first] := by
        refine .inr ⟨first, [], rfl, nonzero, ?_⟩
        intro digit member
        rw [List.mem_singleton.mp member]
        exact isDigit
      have marked : StartsNoDigit ('e' :: exponentMark below :: (digits ++ rest)) := startsNoDigit_cons rfl
      have begins : StartsNoDigit (pointed fraction ++ 'e' :: exponentMark below :: (digits ++ rest)) := by
        cases fraction with
        | nil => exact marked
        | cons digit fraction => exact startsNoDigit_cons rfl
      have wholes := splitWhole_append whole begins
      have fractions := splitFraction_pointed allDigits marked (by simp)
      unfold readNumber
      simp only [List.append_assoc, List.cons_append, List.nil_append] at fractions wholes ⊢
      rw [wholes]
      dsimp only
      rw [fractions]
      dsimp only
      rw [splitExponent_mark below nonempty exponents complete]
      simp

theorem readNumber_digits (number : Nat) (short : (decimalDigits number).length ≤ Text.digitLimit)
    (ends : Ends rest) :
    readNumber opening negative (decimalDigits number ++ rest) =
      .ok (.integer (if negative then -(number : Int) else number), rest) := by
  have wholes := splitWhole_append (decimalDigits_isWholeNumeral number) ends.startsNoDigit
  have unpointed : rest.head? ≠ some '.' := by
    cases rest with
    | nil => simp
    | cons next rest => rcases ends with rfl | rfl | rfl <;> simp
  have fractions : splitFraction rest = ([], rest) :=
    splitFraction_pointed (List.forall_mem_nil _) ends.startsNoDigit unpointed
  unfold readNumber
  dsimp only
  rw [wholes]
  dsimp only
  rw [fractions]
  dsimp only
  rw [ends.splitExponent]
  simp [decimalDigits_ne_nil, valueOfDigits_decimalDigits, Nat.not_lt.mpr short]

end

theorem readScalar_digit {first : Char} (rest : List Char) (isDigit : first.isDigit = true) :
    readScalar (first :: rest) = readNumber (first :: rest) false (first :: rest) := by
  unfold readScalar
  split <;> simp_all

theorem readScalar_minus {first : Char} (rest : List Char) (isDigit : first.isDigit = true) :
    readScalar ('-' :: first :: rest) = readNumber ('-' :: first :: rest) true (first :: rest) := by
  unfold readScalar
  split <;> simp_all

theorem integer_toList (value : Int) :
    (toString value).toList =
      if value < 0 then '-' :: decimalDigits value.natAbs else decimalDigits value.natAbs := by
  cases value with
  | ofNat number =>
      have above : ¬Int.ofNat number < 0 := by simp
      rw [if_neg above]
      exact Nat.toList_repr
  | negSucc number =>
      rw [if_pos (Int.negSucc_lt_zero number)]
      change ("-" ++ (number + 1).repr).toList = _
      rw [String.toList_append, Nat.toList_repr]
      rfl

theorem readScalar_integer {value : Int} {rest : List Char}
    (short : (decimalDigits value.natAbs).length ≤ Text.digitLimit) (ends : Ends rest) :
    readScalar ((toString value).toList ++ rest) = .ok (.integer value, rest) := by
  have reads (opening : List Char) (negative : Bool) :=
    readNumber_digits opening negative value.natAbs short ends
  obtain ⟨first, digits, isList⟩ := List.exists_cons_of_ne_nil (decimalDigits_ne_nil value.natAbs)
  have isDigit : first.isDigit = true := isDigit_of_mem_decimalDigits first (by rw [isList]; simp)
  rw [integer_toList]
  rw [isList] at reads ⊢
  split
  · next below =>
      have magnitude : -(value.natAbs : Int) = value := by omega
      rw [List.cons_append, List.cons_append, readScalar_minus _ isDigit, ← List.cons_append, reads]
      rw [if_pos rfl, magnitude]
  · next above =>
      have magnitude : (value.natAbs : Int) = value := by omega
      rw [List.cons_append, readScalar_digit _ isDigit, ← List.cons_append, reads]
      rw [if_neg Bool.false_ne_true, magnitude]

theorem Writes.begins {text : List Char} {mantissa : Nat} {exponent : Int}
    (writes : Writes text mantissa exponent) :
    ∃ first rest, text = first :: rest ∧ first.isDigit = true := by
  cases writes with
  | positional isWhole _ _ =>
      rcases isWhole with rfl | ⟨first, tail, rfl, _, allDigits⟩
      · exact ⟨'0', _, rfl, rfl⟩
      · exact ⟨first, _, rfl, allDigits first (by simp)⟩
  | scientific _ _ isDigit _ _ _ => exact ⟨_, _, rfl, isDigit⟩

theorem readScalar_writes (negative : Bool) {text rest : List Char} {mantissa : Nat} {exponent : Int}
    (writes : Writes text mantissa exponent) (ends : Ends rest) :
    readScalar ((if negative then '-' :: text else text) ++ rest) =
      .ok (.float (if negative then -nearestFloat mantissa exponent else nearestFloat mantissa exponent),
        rest) := by
  obtain ⟨first, later, rfl, isDigit⟩ := Writes.begins writes
  cases negative with
  | true =>
      simp only [if_true, List.cons_append]
      rw [readScalar_minus _ isDigit]
      exact readNumber_writes _ true writes ends
  | false =>
      simp only [Bool.false_eq_true, if_false, List.cons_append]
      rw [readScalar_digit _ isDigit]
      exact readNumber_writes _ false writes ends

theorem zero_writes : Writes ['0', '.', '0'] 0 (-1) :=
  @Writes.positional ['0'] ['0'] (.inl rfl) (by simp) (by simp)

theorem magnitude_reads {value : Float} {mantissa : Nat} {exponent : Int} {positive : 0 < mantissa}
    (unpacks : value.toModel.unpack = .finite .positive mantissa exponent positive) :
    ∃ number power, Writes (numberLayout.magnitude mantissa exponent) number power ∧
      nearestFloat number power = value := by
  have canonical := unpack_isCanonical value.toModel
  rw [unpacks] at canonical
  have isValue := exactValue_of_unpack positive unpacks
  have rounds := shortestDecimal_roundsTo canonical.1 positive
  have above : (0 : ℚ) < mantissa * 2 ^ exponent :=
    mul_pos (Nat.cast_pos.mpr positive) (two_zpow_pos exponent)
  have nonneg : 0 ≤ (shortestDecimal mantissa exponent).value :=
    mul_nonneg (Nat.cast_nonneg _) (ten_zpow_pos _).le
  have units : 0 < (shortestDecimal mantissa exponent).units := by
    have exact := roundsTo_pos rounds nonneg above
    apply Nat.pos_of_ne_zero
    intro isZero
    rw [ExactDecimal.value, isZero, Nat.cast_zero, zero_mul] at exact
    exact lt_irrefl _ exact
  obtain ⟨number, power, writes, same⟩ := numberLayout.magnitude_writes units
  rw [← same] at rounds
  exact ⟨number, power, writes, nearestFloat_of_roundsTo isValue rounds above⟩

theorem readScalar_float (value : Float) {rest : List Char} (ends : Ends rest) :
    readScalar ((numberLayout.write value).toList ++ rest) = .ok (.float value, rest) := by
  unfold Layout.write
  rw [ofFloat_eq_partsOf]
  cases unpacks : value.toModel.unpack with
  | notANumber =>
      have same : Number.notANumber = value := eq_of_unpack (Eq.trans rfl unpacks.symm)
      change Except.ok (Json.float Number.notANumber, rest) = _
      rw [same]
  | infinity sign =>
      cases sign with
      | positive =>
          have same : Number.infinity = value := eq_of_unpack (Eq.trans rfl unpacks.symm)
          change Except.ok (Json.float Number.infinity, rest) = _
          rw [same]
      | negative =>
          have same : -Number.infinity = value := eq_of_unpack (Eq.trans rfl unpacks.symm)
          change Except.ok (Json.float (-Number.infinity), rest) = _
          rw [same]
  | zero sign =>
      rw [partsOf_zero]
      simp only [if_true, String.toList_ofList]
      rw [readScalar_writes _ zero_writes ends]
      cases sign with
      | positive =>
          have same : nearestFloat 0 (-1) = value := eq_of_unpack (Eq.trans rfl unpacks.symm)
          rw [isNegative, if_neg Bool.false_ne_true, same]
      | negative =>
          have same : -nearestFloat 0 (-1) = value := eq_of_unpack (Eq.trans rfl unpacks.symm)
          rw [isNegative, if_pos rfl, same]
  | finite sign mantissa exponent positive =>
      rw [partsOf_finite]
      simp only [if_neg positive.ne', String.toList_ofList]
      cases sign with
      | positive =>
          obtain ⟨number, power, writes, reads⟩ := magnitude_reads unpacks
          have scalar := readScalar_writes false writes ends
          rw [reads] at scalar
          exact scalar
      | negative =>
          have opposite : (-value).toModel.unpack = .finite .positive mantissa exponent positive := by
            rw [unpack_neg, unpacks]
            rfl
          obtain ⟨number, power, writes, reads⟩ := magnitude_reads opposite
          have scalar := readScalar_writes true writes ends
          rw [reads, if_pos rfl, if_pos rfl, neg_neg_eq] at scalar
          exact scalar

end TenPuzzle.Json
