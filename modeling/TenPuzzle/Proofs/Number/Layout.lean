import TenPuzzle.Number.Shortest
import TenPuzzle.Proofs.Number.Numeral
import TenPuzzle.Proofs.Number.Scientific
import TenPuzzle.Proofs.Number.Shortest

/-!
Decimals as they are laid out, with a point or with an exponent: either way the digits and the place of
the point stand for the decimal itself.
-/

namespace TenPuzzle.Number

def pointed (fraction : List Char) : List Char :=
  if fraction.isEmpty then [] else '.' :: fraction

def exponentMark (negative : Bool) : Char :=
  if negative then '-' else '+'

/-- A text that writes a mantissa times a power of ten, with a point or an exponent in it. -/
inductive Writes : List Char → Nat → Int → Prop
  | positional {whole fraction} : IsWholeNumeral whole → fraction ≠ [] →
      (∀ digit ∈ fraction, digit.isDigit = true) →
      Writes (whole ++ '.' :: fraction) (valueOfDigits (whole ++ fraction)) (-fraction.length)
  | scientific {first fraction digits} (negative : Bool) : first ≠ '0' → first.isDigit = true →
      (∀ digit ∈ fraction, digit.isDigit = true) → digits ≠ [] → (∀ digit ∈ digits, digit.isDigit = true) →
      Writes (first :: (pointed fraction ++ 'e' :: exponentMark negative :: digits))
        (valueOfDigits (first :: fraction))
        ((if negative then -(valueOfDigits digits : Int) else valueOfDigits digits) - fraction.length)

theorem replicate_isDigit (count : Nat) : ∀ digit ∈ List.replicate count '0', digit.isDigit = true := by
  intro digit member
  rw [List.eq_of_mem_replicate member]
  rfl

theorem append_isDigit {left right : List Char} (allLeft : ∀ digit ∈ left, digit.isDigit = true)
    (allRight : ∀ digit ∈ right, digit.isDigit = true) : ∀ digit ∈ left ++ right, digit.isDigit = true := by
  intro digit member
  rcases List.mem_append.mp member with inLeft | inRight
  · exact allLeft digit inLeft
  · exact allRight digit inRight

theorem ten_zpow_cancel (value : Nat) (count : Nat) (power : Int) :
    ((value * 10 ^ count : ℕ) : ℚ) * 10 ^ (power - count) = value * 10 ^ power := by
  rw [zpow_sub₀ (by norm_num), zpow_natCast]
  push_cast
  field_simp

section

variable {first : Char} {rest : List Char}

theorem scientific_writes (width : Nat) (exponent : Int) (nonzero : first ≠ '0')
    (allDigits : ∀ digit ∈ first :: rest, digit.isDigit = true) :
    ∃ mantissa power, Writes (scientific width (first :: rest) exponent) mantissa power ∧
      (mantissa : ℚ) * 10 ^ power = valueOfDigits (first :: rest) * 10 ^ (exponent - rest.length) := by
  have padded : valueOfDigits (padLeft width (decimalDigits exponent.natAbs)) = exponent.natAbs := by
    rw [padLeft, valueOfDigits_append, valueOfDigits_zeros, valueOfDigits_decimalDigits, Nat.zero_mul,
      Nat.zero_add]
  have nonempty : padLeft width (decimalDigits exponent.natAbs) ≠ [] := by
    simp [padLeft, decimalDigits_ne_nil]
  have digits := append_isDigit (replicate_isDigit (width - (decimalDigits exponent.natAbs).length))
    (@isDigit_of_mem_decimalDigits exponent.natAbs)
  have fraction : ∀ digit ∈ rest, digit.isDigit = true := fun digit member => allDigits digit (by simp [member])
  have writes := Writes.scientific (decide (exponent < 0)) nonzero (allDigits first (by simp)) fraction
    nonempty digits
  have layout : scientific width (first :: rest) exponent =
      first :: (pointed rest ++ 'e' :: exponentMark (decide (exponent < 0)) ::
        padLeft width (decimalDigits exponent.natAbs)) := by
    simp [scientific, pointed, exponentMark]
  refine ⟨_, _, layout ▸ writes, ?_⟩
  rw [padded]
  congr 3
  split
  · next below =>
      have negative := of_decide_eq_true below
      omega
  · next above =>
      have nonneg : ¬exponent < 0 := fun below => above (decide_eq_true below)
      omega

theorem positional_small (whole : Int) (small : whole ≤ 0)
    (allDigits : ∀ digit ∈ first :: rest, digit.isDigit = true) :
    ∃ mantissa power, Writes (positional (first :: rest) whole) mantissa power ∧
      (mantissa : ℚ) * 10 ^ power =
        valueOfDigits (first :: rest) * 10 ^ (whole - (first :: rest).length) := by
  have digits := append_isDigit (replicate_isDigit (-whole).toNat) allDigits
  have writes := Writes.positional (.inl rfl) (by simp) digits
  have layout : positional (first :: rest) whole =
      ['0'] ++ '.' :: (List.replicate (-whole).toNat '0' ++ first :: rest) := by
    simp [positional, small]
  refine ⟨_, _, layout ▸ writes, ?_⟩
  have value : valueOfDigits (['0'] ++ (List.replicate (-whole).toNat '0' ++ first :: rest)) =
      valueOfDigits (first :: rest) := by
    have zero : valueOfDigits ['0'] = 0 := rfl
    rw [valueOfDigits_append, valueOfDigits_append, valueOfDigits_zeros, zero]
    omega
  rw [value]
  congr 2
  simp only [List.length_append, List.length_replicate]
  omega

theorem positional_padded {count : Nat} (positive : 0 < count) (fits : (first :: rest).length ≤ count)
    (nonzero : first ≠ '0') (allDigits : ∀ digit ∈ first :: rest, digit.isDigit = true) :
    ∃ mantissa power, Writes (positional (first :: rest) count) mantissa power ∧
      (mantissa : ℚ) * 10 ^ power =
        valueOfDigits (first :: rest) * 10 ^ ((count : Int) - (first :: rest).length) := by
  -- zeros fill up to the point, and one more stands behind it
  have digits := append_isDigit allDigits (replicate_isDigit (count - (first :: rest).length))
  have whole : IsWholeNumeral (first :: rest ++ List.replicate (count - (first :: rest).length) '0') :=
    .inr ⟨first, rest ++ List.replicate (count - (first :: rest).length) '0', rfl, nonzero, digits⟩
  generalize first :: rest = list at *
  have writes := @Writes.positional _ ['0'] whole (by simp) (by simp)
  have length : (list ++ List.replicate (count - list.length) '0').length = count := by
    rw [List.length_append, List.length_replicate]
    omega
  have layout : positional list count = (list ++ List.replicate (count - list.length) '0') ++ '.' :: ['0'] := by
    rw [positional, if_neg (by omega), Int.toNat_natCast]
    dsimp only
    rw [List.take_of_length_le length.le, List.drop_of_length_le length.le]
    rfl
  refine ⟨_, _, layout ▸ writes, ?_⟩
  have zero : valueOfDigits ['0'] = 0 := rfl
  rw [valueOfDigits_append, valueOfDigits_append, valueOfDigits_zeros, zero, List.length_replicate]
  simp only [Nat.add_zero, List.length_singleton, mul_assoc, ← pow_add]
  have steps : -((1 : ℕ) : Int) = (count : ℕ) - list.length - (count - list.length + 1 : ℕ) := by
    omega
  rw [steps]
  exact ten_zpow_cancel _ _ _

theorem positional_parted {count : Nat} (positive : 0 < count) (parts : count < (first :: rest).length)
    (nonzero : first ≠ '0') (allDigits : ∀ digit ∈ first :: rest, digit.isDigit = true) :
    ∃ mantissa power, Writes (positional (first :: rest) count) mantissa power ∧
      (mantissa : ℚ) * 10 ^ power =
        valueOfDigits (first :: rest) * 10 ^ ((count : Int) - (first :: rest).length) := by
  obtain ⟨earlier, rfl⟩ : ∃ earlier, count = earlier + 1 := ⟨count - 1, by omega⟩
  have taken : ∀ digit ∈ first :: rest.take earlier, digit.isDigit = true := fun digit member =>
    allDigits digit (List.mem_of_mem_take (show digit ∈ (first :: rest).take (earlier + 1) from member))
  have whole : IsWholeNumeral ((first :: rest).take (earlier + 1)) :=
    .inr ⟨first, rest.take earlier, rfl, nonzero, taken⟩
  generalize first :: rest = list at *
  have more : list.drop (earlier + 1) ≠ [] := by
    rw [ne_eq, List.drop_eq_nil_iff]
    omega
  have writes := Writes.positional whole more fun digit member => allDigits digit (List.mem_of_mem_drop member)
  have layout : positional list (earlier + 1 : ℕ) = list.take (earlier + 1) ++ '.' :: list.drop (earlier + 1) := by
    have none : earlier + 1 - list.length = 0 := by omega
    rw [positional, if_neg (by omega), Int.toNat_natCast, none]
    simp only [List.replicate_zero, List.append_nil]
    rw [if_neg (by simpa using more)]
  refine ⟨_, _, layout ▸ writes, ?_⟩
  rw [List.take_append_drop, List.length_drop]
  congr 2
  omega

theorem positional_writes (whole : Int) (nonzero : first ≠ '0')
    (allDigits : ∀ digit ∈ first :: rest, digit.isDigit = true) :
    ∃ mantissa power, Writes (positional (first :: rest) whole) mantissa power ∧
      (mantissa : ℚ) * 10 ^ power =
        valueOfDigits (first :: rest) * 10 ^ (whole - (first :: rest).length) := by
  by_cases small : whole ≤ 0
  · exact positional_small whole small allDigits
  · obtain ⟨count, rfl⟩ := Int.eq_ofNat_of_zero_le (by omega : 0 ≤ whole)
    by_cases fits : (first :: rest).length ≤ count
    · exact positional_padded (by omega) fits nonzero allDigits
    · exact positional_parted (by omega) (by omega) nonzero allDigits

end

/-- How the magnitude of a double is written. -/
def Layout.magnitude (layout : Layout) (mantissa : Nat) (exponent : Int) : List Char :=
  let shortest := shortestDecimal mantissa exponent
  let digits := decimalDigits shortest.units
  let leading : Int := shortest.exponent + digits.length - 1
  let kept := dropTrailingZeros digits
  if layout.positionalFrom ≤ leading ∧ leading < layout.positionalBelow
  then positional kept (leading + 1)
  else scientific layout.exponentWidth kept leading

/-- Without its zeros at the end a number keeps its first digit, which is no zero. -/
theorem dropTrailingZeros_decimalDigits {number : Nat} (positive : 0 < number) :
    ∃ first tail zeros, dropTrailingZeros (decimalDigits number) = first :: tail ∧ first ≠ '0' ∧
      decimalDigits number = first :: tail ++ List.replicate zeros '0' := by
  obtain ⟨zeros, split⟩ := dropTrailingZeros_append (decimalDigits number)
  rcases decimalDigits_cases number with ⟨isZero, _⟩ | ⟨first, rest, isList, nonzero⟩
  · omega
  cases isKept : dropTrailingZeros (decimalDigits number) with
  | nil =>
      rw [isKept, isList, List.nil_append] at split
      have isZero : first = '0' := List.eq_of_mem_replicate (by rw [← split]; exact List.mem_cons_self)
      exact (nonzero isZero).elim
  | cons head tail =>
      rw [isKept] at split
      have same : first = head := by
        rw [isList, List.cons_append, List.cons.injEq] at split
        exact split.1
      exact ⟨head, tail, zeros, rfl, same ▸ nonzero, split⟩

theorem Layout.magnitude_writes (layout : Layout) {mantissa : Nat} {exponent : Int}
    (positive : 0 < (shortestDecimal mantissa exponent).units) :
    ∃ number power, Writes (layout.magnitude mantissa exponent) number power ∧
      (number : ℚ) * 10 ^ power = (shortestDecimal mantissa exponent).value := by
  unfold magnitude ExactDecimal.value
  dsimp only
  generalize (shortestDecimal mantissa exponent).exponent = scale
  generalize (shortestDecimal mantissa exponent).units = units at positive
  obtain ⟨first, tail, zeros, isKept, nonzero, split⟩ := dropTrailingZeros_decimalDigits positive
  have value := valueOfDigits_decimalDigits units
  have allDigits := @isDigit_of_mem_decimalDigits units
  have length : (decimalDigits units).length = (first :: tail).length + zeros := by
    rw [split, List.length_append, List.length_replicate]
  rw [split] at allDigits value
  rw [valueOfDigits_append, valueOfDigits_zeros, List.length_replicate, Nat.add_zero] at value
  rw [isKept, length]
  have kept : ∀ digit ∈ first :: tail, digit.isDigit = true := fun digit member =>
    allDigits digit (List.mem_append_left _ member)
  have total : (valueOfDigits (first :: tail) : ℚ) * 10 ^ (scale + zeros) = units * 10 ^ scale := by
    rw [← value, zpow_add₀ (by norm_num), zpow_natCast]
    push_cast
    ring
  rw [← total]
  split
  · obtain ⟨number, power, writes, same⟩ := positional_writes
      (scale + ((first :: tail).length + zeros : ℕ) - 1 + 1) nonzero kept
    refine ⟨number, power, writes, same.trans ?_⟩
    congr 2
    push_cast
    ring
  · obtain ⟨number, power, writes, same⟩ := scientific_writes layout.exponentWidth
      (scale + ((first :: tail).length + zeros : ℕ) - 1) nonzero kept
    refine ⟨number, power, writes, same.trans ?_⟩
    congr 2
    rw [List.length_cons]
    push_cast
    ring

end TenPuzzle.Number
