import Mathlib.Algebra.Group.Nat.Defs
import Mathlib.Data.List.TakeWhile
import TenPuzzle.Number.Digits

/-!
Digits and the numbers they stand for.
-/

namespace TenPuzzle.Number

theorem valueOfDigits_eq (digits : List Char) : valueOfDigits digits = Nat.ofDigitChars 10 digits 0 := by
  rw [valueOfDigits, Nat.ofDigitChars_eq_foldl]
  simp only [Nat.mul_comm]

theorem valueOfDigits_append (left right : List Char) :
    valueOfDigits (left ++ right) = valueOfDigits left * 10 ^ right.length + valueOfDigits right := by
  rw [valueOfDigits_eq, Nat.ofDigitChars_append, Nat.ofDigitChars_eq_ofDigitChars_zero, ← valueOfDigits_eq,
    ← valueOfDigits_eq, Nat.mul_comm]

theorem valueOfDigits_zeros (count : Nat) : valueOfDigits (List.replicate count '0') = 0 := by
  rw [valueOfDigits_eq, Nat.ofDigitChars_replicate_zero, Nat.mul_zero]

theorem valueOfDigits_decimalDigits (number : Nat) : valueOfDigits (decimalDigits number) = number := by
  rw [valueOfDigits_eq, decimalDigits, Nat.ofDigitChars_toDigits (by decide) (by decide)]

theorem isDigit_of_mem_decimalDigits {number : Nat} :
    ∀ digit ∈ decimalDigits number, digit.isDigit = true :=
  fun _ member => Nat.isDigit_of_mem_toDigits (by decide) (by decide) member

theorem decimalDigits_ne_nil (number : Nat) : decimalDigits number ≠ [] :=
  Nat.toDigits_ne_nil

theorem decimalDigits_length_le {number count : Nat} (positive : 0 < count) :
    (decimalDigits number).length ≤ count ↔ number < 10 ^ count :=
  Nat.length_toDigits_le_iff (by decide) positive

theorem lt_pow_length (number : Nat) : number < 10 ^ (decimalDigits number).length :=
  (decimalDigits_length_le (List.length_pos_iff.mpr (decimalDigits_ne_nil number))).mp (Nat.le_refl _)

theorem pow_length_le {number : Nat} (positive : 0 < number) :
    10 ^ ((decimalDigits number).length - 1) ≤ number := by
  by_cases single : (decimalDigits number).length ≤ 1
  · rw [Nat.sub_eq_zero_of_le single, Nat.pow_zero]
    exact positive
  · by_contra less
    have short := (decimalDigits_length_le (by omega)).mpr (Nat.lt_of_not_le less)
    omega

theorem valueOfDigits_lt {digits : List Char} (allDigits : ∀ digit ∈ digits, digit.isDigit = true) :
    valueOfDigits digits < 10 ^ digits.length := by
  induction digits with
  | nil => decide
  | cons digit digits ih =>
      have bounds : 48 ≤ digit.toNat ∧ digit.toNat ≤ 57 := by
        simpa [Char.isDigit, UInt32.le_iff_toNat_le] using allDigits digit (by simp)
      have later := ih fun other member => allDigits other (by simp [member])
      have leading : valueOfDigits [digit] = digit.toNat - 48 := by
        change 0 * 10 + (digit.toNat - 48) = digit.toNat - 48
        omega
      have parts := valueOfDigits_append [digit] digits
      have small : (digit.toNat - 48) * 10 ^ digits.length ≤ 9 * 10 ^ digits.length :=
        Nat.mul_le_mul_right _ (by omega)
      rw [leading, List.singleton_append] at parts
      rw [parts, List.length_cons, Nat.pow_succ]
      omega

/-- How a whole number is written: as a zero, or from a first digit that is none. -/
def IsWholeNumeral (digits : List Char) : Prop :=
  digits = ['0'] ∨ ∃ first rest, digits = first :: rest ∧ first ≠ '0' ∧ ∀ digit ∈ digits, digit.isDigit = true

theorem decimalDigits_cases (number : Nat) :
    number = 0 ∧ decimalDigits number = ['0'] ∨
      ∃ first rest, decimalDigits number = first :: rest ∧ first ≠ '0' := by
  by_cases isZero : number = 0
  · rw [isZero]
    exact .inl ⟨rfl, rfl⟩
  · obtain ⟨first, rest, isList⟩ := List.exists_cons_of_ne_nil (decimalDigits_ne_nil number)
    refine .inr ⟨first, rest, isList, ?_⟩
    rintro rfl
    have leading : ∀ digit ∈ rest, digit.isDigit = true := fun digit member =>
      @isDigit_of_mem_decimalDigits number digit (by rw [isList]; simp [member])
    have parts := valueOfDigits_append ['0'] rest
    have none : valueOfDigits ['0'] = 0 := rfl
    rw [List.singleton_append, ← isList, valueOfDigits_decimalDigits, none, Nat.zero_mul, Nat.zero_add] at parts
    have less := valueOfDigits_lt leading
    have least := pow_length_le (Nat.pos_of_ne_zero isZero)
    rw [isList, List.length_cons, Nat.add_sub_cancel] at least
    omega

theorem decimalDigits_isWholeNumeral (number : Nat) : IsWholeNumeral (decimalDigits number) := by
  rcases decimalDigits_cases number with ⟨_, isZero⟩ | ⟨first, rest, isList, nonzero⟩
  · exact .inl isZero
  · exact .inr ⟨first, rest, isList, nonzero, isDigit_of_mem_decimalDigits⟩

theorem dropTrailingZeros_append (digits : List Char) :
    ∃ count, digits = dropTrailingZeros digits ++ List.replicate count '0' := by
  have zeros : digits.reverse.takeWhile (· = '0') =
      List.replicate (digits.reverse.takeWhile (· = '0')).length '0' := by
    apply List.eq_replicate_of_mem
    intro digit member
    simpa using List.mem_takeWhile_imp member
  refine ⟨(digits.reverse.takeWhile (· = '0')).length, ?_⟩
  calc
    digits = (digits.reverse.takeWhile (· = '0') ++ digits.reverse.dropWhile (· = '0')).reverse := by
      rw [List.takeWhile_append_dropWhile, List.reverse_reverse]
    _ = dropTrailingZeros digits ++ (digits.reverse.takeWhile (· = '0')).reverse := List.reverse_append
    _ = dropTrailingZeros digits ++ List.replicate (digits.reverse.takeWhile (· = '0')).length '0' :=
      congrArg _ ((congrArg List.reverse zeros).trans List.reverse_replicate)

end TenPuzzle.Number
