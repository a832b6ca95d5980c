import TenPuzzle.Proofs.Answer.Exactness
import TenPuzzle.Proofs.Number.Range

/-!
Results beyond the doubles. Nothing in an evaluation looks at how large a number becomes, so an expression may have a
value that is infinite or no number at all. That happens in one way only, takes long texts, and never to an answer.
-/

namespace TenPuzzle

open Number

/-- What an expression comes to in double arithmetic, if that is a finite number. -/
def Expr.rounded (tree : Expr) : Option ℚ :=
  (tree.value .floats).bind exactValue

def Expr.IsInfinite (tree : Expr) : Prop :=
  ∃ value, tree.value .floats = some value ∧ value.isInf = true

/-- Some number or operation in the expression rounds to infinity, and what contains it does not divide it away. -/
inductive Expr.LeavesRange : Expr → Prop
  | number {digits} : rangeEnd ≤ valueOfDigits digits → LeavesRange (.number digits)
  | negate {operand} : operand.LeavesRange → LeavesRange (.negate operand)
  | group {inner} : inner.LeavesRange → LeavesRange (.group inner)
  | left {operator left right} : left.LeavesRange → LeavesRange (.binary operator left right)
  | right {operator left right} : right.LeavesRange → ¬(operator = .div ∧ right.IsInfinite) →
      LeavesRange (.binary operator left right)
  | operation {operator left right first second exact} : left.rounded = some first → right.rounded = some second →
      rationalOperation operator first second = some exact → rangeEnd ≤ |exact| →
      LeavesRange (.binary operator left right)

section

variable {operator : Operator} {left right value : Float} {first second : ℚ}

theorem quotient_iff :
    floatOperation .div left right = some value ↔ ¬right.abs < leastDivisor ∧ left / right = value := by
  rw [floatOperation, Option.ite_none_left_eq_some, Option.some.injEq]

theorem least_le_abs (isRight : exactValue right = some second) (divides : ¬right.abs < leastDivisor) :
    (2 : ℚ) ^ (-30 : ℤ) ≤ |second| := by
  rw [abs_lt_iff isRight exactValue_leastDivisor, not_lt] at divides
  refine le_trans ?_ divides
  norm_num

/-- Every operation that has a result has the double nearest to its exact result. -/
theorem isNearest_operation (computes : floatOperation operator left right = some value)
    (isLeft : exactValue left = some first) (isRight : exactValue right = some second) :
    ∃ exact, rationalOperation operator first second = some exact ∧ IsNearest exact value := by
  cases operator with
  | add =>
      cases computes
      exact ⟨_, rfl, isNearest_add isLeft isRight⟩
  | sub =>
      cases computes
      exact ⟨_, rfl, isNearest_sub isLeft isRight⟩
  | mul =>
      cases computes
      exact ⟨_, rfl, isNearest_mul isLeft isRight⟩
  | div =>
      obtain ⟨divides, rfl⟩ := quotient_iff.mp computes
      have nonzero : second ≠ 0 := abs_pos.mp ((two_zpow_pos _).trans_le (least_le_abs isRight divides))
      exact ⟨_, if_neg nonzero, isNearest_div isLeft isRight nonzero⟩

theorem operation_special (computes : floatOperation operator left right = some value)
    (special : left.isFinite = false ∨ right.isFinite = false ∧ ¬(operator = .div ∧ right.isInf = true)) :
    value.isFinite = false := by
  cases operator with
  | add =>
      cases computes
      exact isFinite_add (special.imp_right And.left)
  | sub =>
      cases computes
      exact isFinite_sub (special.imp_right And.left)
  | mul =>
      cases computes
      exact isFinite_mul (special.imp_right And.left)
  | div =>
      obtain ⟨_, rfl⟩ := quotient_iff.mp computes
      simp only [true_and, Bool.not_eq_true] at special
      exact isFinite_div special

/-- A result is not finite exactly if an operand is not, unless that is an infinite divisor, or if the operation itself
leads beyond the range. -/
theorem operation_isFinite_iff (computes : floatOperation operator left right = some value) :
    value.isFinite = false ↔
      left.isFinite = false ∨ (right.isFinite = false ∧ ¬(operator = .div ∧ right.isInf = true)) ∨
        ∃ first second exact, exactValue left = some first ∧ exactValue right = some second ∧
          rationalOperation operator first second = some exact ∧ rangeEnd ≤ |exact| := by
  by_cases special : left.isFinite = false ∨ right.isFinite = false ∧ ¬(operator = .div ∧ right.isInf = true)
  · exact iff_of_true (operation_special computes special) (or_assoc.mp (.inl special))
  · rw [← or_assoc, or_iff_right special]
    obtain ⟨leftFinite, rightFinite⟩ := not_or.mp special
    rw [Bool.not_eq_false] at leftFinite
    obtain ⟨first, isLeft⟩ := exactValue_of_isFinite leftFinite
    cases isFinite : right.isFinite with
    | true =>
        obtain ⟨second, isRight⟩ := exactValue_of_isFinite isFinite
        obtain ⟨exact, isExact, nearest⟩ := isNearest_operation computes isLeft isRight
        rw [← Bool.not_eq_true, nearest.isFinite_iff, not_lt]
        simp [isLeft, isRight, isExact]
    | false =>
        -- only an infinite divisor is left, and what it divides becomes zero
        obtain ⟨rfl, infinite⟩ := not_not.mp fun divides => rightFinite ⟨isFinite, divides⟩
        obtain ⟨_, rfl⟩ := quotient_iff.mp computes
        apply iff_of_false
        · rw [isFinite_div_infinite leftFinite infinite]
          decide
        · rintro ⟨_, second, _, _, isRight, _⟩
          rw [isFinite_iff.mpr ⟨second, isRight⟩] at isFinite
          cases isFinite

end

theorem isNearest_number (digits : List Char) :
    IsNearest (valueOfDigits digits) (Arithmetic.floats.number digits) :=
  isNearest_ofScientific _

/-- The value of an expression is infinite or no number exactly if the expression leaves the range. -/
theorem value_isFinite_iff {tree : Expr} {value : Float} (isValue : tree.value .floats = some value) :
    value.isFinite = false ↔ tree.LeavesRange := by
  induction tree generalizing value with
  | number digits =>
      cases isValue
      rw [← Bool.not_eq_true, (isNearest_number digits).isFinite_iff, not_lt, Nat.abs_cast]
      exact ⟨.number, fun | .number beyond => beyond⟩
  | negate operand ih =>
      obtain ⟨inner, isInner, rfl⟩ := Option.map_eq_some_iff.mp isValue
      change (-inner).isFinite = false ↔ _
      rw [isFinite_neg, ih isInner]
      exact ⟨.negate, fun | .negate leaves => leaves⟩
  | group inner ih =>
      obtain ⟨inside, isInside, rfl⟩ := Option.map_eq_some_iff.mp isValue
      change inside.isFinite = false ↔ _
      rw [ih isInside]
      exact ⟨.group, fun | .group leaves => leaves⟩
  | binary operator left right leftIh rightIh =>
      obtain ⟨leftValue, isLeft, rest⟩ := Option.bind_eq_some_iff.mp isValue
      obtain ⟨rightValue, isRight, computes⟩ := Option.bind_eq_some_iff.mp rest
      have infinite : right.IsInfinite ↔ rightValue.isInf = true := by simp [Expr.IsInfinite, isRight]
      have leftRounded : left.rounded = exactValue leftValue := by simp [Expr.rounded, isLeft]
      have rightRounded : right.rounded = exactValue rightValue := by simp [Expr.rounded, isRight]
      rw [operation_isFinite_iff computes, leftIh isLeft, rightIh isRight, ← infinite, ← leftRounded, ← rightRounded]
      constructor
      · rintro (leaves | ⟨leaves, stays⟩ | ⟨first, second, exact, isFirst, isSecond, isExact, beyond⟩)
        · exact .left leaves
        · exact .right leaves stays
        · exact .operation isFirst isSecond isExact beyond
      · intro leaves
        cases leaves with
        | left leaves => exact .inl leaves
        | right leaves stays => exact .inr (.inl ⟨leaves, stays⟩)
        | operation isFirst isSecond isExact beyond =>
            exact .inr (.inr ⟨_, _, _, isFirst, isSecond, isExact, beyond⟩)

/-! Short texts stay within the range. -/

/-- The power of two that bounds an expression: a digit adds less than four bits, and a divisor takes at most thirty. -/
def growth (text : List Char) : ℕ :=
  4 * text.countP Char.isDigit + 30 * text.count '/'

theorem growth_binary (operator : Operator) (left right : List Char) :
    growth (left ++ operator.symbol :: right) =
      growth left + growth right + if operator = .div then 30 else 0 := by
  cases operator <;> simp [growth, Operator.symbol, Char.isDigit] <;> omega

theorem Derives.growth_pos {level text tree} (derives : Derives level text tree) : 0 < growth text := by
  induction derives with
  | @number digits nonempty allDigits =>
      have count := List.countP_eq_length.mpr allDigits
      have begun := List.length_pos_iff.mpr nonempty
      simp only [growth]
      omega
  | negate _ ih => simpa [growth] using ih
  | group _ ih => simpa [growth] using ih
  | factor _ ih => exact ih
  | product _ _ _ leftIh _ =>
      rw [growth_binary]
      omega
  | term _ ih => exact ih
  | sum _ _ _ leftIh _ =>
      rw [growth_binary]
      omega

theorem valueOfDigits_le_pow {digits : List Char} (allDigits : ∀ digit ∈ digits, digit.isDigit = true) :
    valueOfDigits digits ≤ 2 ^ growth digits := by
  have count := List.countP_eq_length.mpr allDigits
  calc
    valueOfDigits digits ≤ 10 ^ digits.length := (valueOfDigits_lt allDigits).le
    _ ≤ (2 ^ 4) ^ digits.length := Nat.pow_le_pow_left (by decide) _
    _ = 2 ^ (4 * digits.length) := (Nat.pow_mul ..).symm
    _ ≤ 2 ^ growth digits := Nat.pow_le_pow_right two_pos (by simp only [growth]; omega)

section

variable {operator : Operator} {left right value : Float} {first second exact : ℚ} {power other : ℕ}

theorem add_le_pow (bound : |first| ≤ 2 ^ power) (limit : |second| ≤ 2 ^ other) (positive : 0 < power)
    (above : 0 < other) : |first| + |second| ≤ 2 ^ (power + other) := by
  have large : (2 : ℚ) ≤ 2 ^ power := le_self_pow₀ one_le_two positive.ne'
  have wide : (2 : ℚ) ≤ 2 ^ other := le_self_pow₀ one_le_two above.ne'
  rw [pow_add]
  nlinarith

/-- An exact result is bounded by the bounds of its operands, as long as no divisor is too small. -/
theorem operation_le_pow (isExact : rationalOperation operator first second = some exact)
    (bound : |first| ≤ 2 ^ power) (limit : |second| ≤ 2 ^ other) (positive : 0 < power) (above : 0 < other)
    (divides : operator = .div → (2 : ℚ) ^ (-30 : ℤ) ≤ |second|) :
    |exact| ≤ 2 ^ (power + other + if operator = .div then 30 else 0) := by
  cases operator with
  | add =>
      cases isExact
      rw [if_neg (by decide), add_zero]
      exact (abs_add_le _ _).trans (add_le_pow bound limit positive above)
  | sub =>
      cases isExact
      rw [if_neg (by decide), add_zero]
      exact (abs_sub _ _).trans (add_le_pow bound limit positive above)
  | mul =>
      cases isExact
      rw [abs_mul, if_neg (by decide), add_zero, pow_add]
      exact mul_le_mul bound limit (abs_nonneg _) (by positivity)
  | div =>
      rw [rationalOperation, Option.ite_none_left_eq_some] at isExact
      obtain ⟨_, same⟩ := isExact
      cases same
      have least := divides rfl
      rw [abs_div, if_pos rfl]
      calc
        |first| / |second| ≤ 2 ^ power / 2 ^ (-30 : ℤ) := by gcongr
        _ = 2 ^ (power + 30) := by
          rw [zpow_neg, div_inv_eq_mul, pow_add]
          rfl
        _ ≤ 2 ^ (power + other + 30) := pow_le_pow_right₀ one_le_two (by omega)

end

/-- If the expression has a value, that is a number of no more than this power of two, unless doubles end before it. -/
def Expr.KeepsWithin (tree : Expr) (power : ℕ) : Prop :=
  ∀ value, tree.value .floats = some value → power < 1024 →
    ∃ rounded, exactValue value = some rounded ∧ |rounded| ≤ 2 ^ power

section

variable {operand left right : Expr} {power other : ℕ}

theorem Expr.KeepsWithin.negate (keeps : operand.KeepsWithin power) : (Expr.negate operand).KeepsWithin power := by
  intro value isValue inRange
  obtain ⟨inner, isInner, rfl⟩ := Option.map_eq_some_iff.mp isValue
  obtain ⟨rounded, isRounded, bound⟩ := keeps inner isInner inRange
  exact ⟨-rounded, exactValue_neg isRounded, by rwa [abs_neg]⟩

theorem Expr.KeepsWithin.group (keeps : operand.KeepsWithin power) : (Expr.group operand).KeepsWithin power := by
  intro value isValue inRange
  obtain ⟨inner, isInner, rfl⟩ := Option.map_eq_some_iff.mp isValue
  exact keeps inner isInner inRange

theorem Expr.KeepsWithin.binary (leftKeeps : left.KeepsWithin power) (rightKeeps : right.KeepsWithin other)
    (positive : 0 < power) (above : 0 < other) (operator : Operator) :
    (Expr.binary operator left right).KeepsWithin (power + other + if operator = .div then 30 else 0) := by
  intro value isValue inRange
  obtain ⟨leftValue, isLeft, rest⟩ := Option.bind_eq_some_iff.mp isValue
  obtain ⟨rightValue, isRight, computes⟩ := Option.bind_eq_some_iff.mp rest
  obtain ⟨first, isFirst, bound⟩ := leftKeeps leftValue isLeft (by omega)
  obtain ⟨second, isSecond, limit⟩ := rightKeeps rightValue isRight (by omega)
  obtain ⟨exact, isExact, nearest⟩ := isNearest_operation computes isFirst isSecond
  refine nearest.bounded (operation_le_pow isExact bound limit positive above ?_) inRange
  rintro rfl
  exact least_le_abs isSecond (quotient_iff.mp computes).1

end

/-- What an expression can come to is bounded by its digits and divisions. -/
theorem Derives.keepsWithin {level text tree} (derives : Derives level text tree) :
    tree.KeepsWithin (growth text) := by
  induction derives with
  | @number digits _ allDigits =>
      intro value isValue inRange
      cases isValue
      apply (isNearest_number digits).bounded _ inRange
      rw [Nat.abs_cast]
      exact_mod_cast valueOfDigits_le_pow allDigits
  | @negate text _ _ ih =>
      rw [show growth ('-' :: text) = growth text by simp [growth]]
      exact ih.negate
  | @group text _ _ ih =>
      rw [show growth ('(' :: text ++ [')']) = growth text by simp [growth]]
      exact ih.group
  | factor _ ih => exact ih
  | product _ leftDerives rightDerives leftIh rightIh =>
      rw [growth_binary]
      exact leftIh.binary rightIh leftDerives.growth_pos rightDerives.growth_pos _
  | term _ ih => exact ih
  | sum _ leftDerives rightDerives leftIh rightIh =>
      rw [growth_binary]
      exact leftIh.binary rightIh leftDerives.growth_pos rightDerives.growth_pos _

theorem reaches_isFinite {value : Float} (reached : reaches target tolerance (.ok value) = true) :
    value.isFinite = true := by
  by_contra special
  have difference : (value - target).isFinite = false := isFinite_sub (.inl (Bool.not_eq_true _ ▸ special))
  rw [isFinite_of_abs_lt (of_decide_eq_true reached)] at difference
  cases difference

/-- The value of a text is infinite or no number exactly if a number or an operation in the text leads beyond the
doubles and nothing divides that away. So short texts have finite values, and what counts as the target is finite. -/
theorem finite_unless_range_left [DepthLimit] {text : List Char} {value : Float}
    (computes : evaluate text = .ok value) :
    (∃ tree, Derives .expression (Text.withoutBlanks text) tree ∧ (value.isFinite = false ↔ tree.LeavesRange)) ∧
      (growth (Text.withoutBlanks text) < 1024 → value.isFinite = true) ∧
      (reachesTarget text = true → value.isFinite = true) := by
  obtain ⟨tree, derives, isValue⟩ := computeIn_sound computes
  refine ⟨⟨tree, derives, value_isFinite_iff isValue⟩, ?_, ?_⟩
  · intro inRange
    obtain ⟨rounded, isRounded, _⟩ := derives.keepsWithin value isValue inRange
    exact isFinite_iff.mpr ⟨rounded, isRounded⟩
  · rw [reachesTarget, computes]
    exact reaches_isFinite

section

attribute [local instance] DepthLimit.standard

/-- A numeral of three hundred and ten digits is infinite, and divided by itself it is no number. -/
theorem finite_unless_range_left_of_quotient :
    let numeral := '1' :: List.replicate 309 '0'
    let quotient := numeral ++ '/' :: numeral
    (evaluate numeral = .ok infinity ∧ evaluate quotient = .ok notANumber ∧ notANumber.isFinite = false ∧
      ∃ tree, Derives .expression quotient tree ∧ tree.LeavesRange) ∧
    (growth (Text.withoutBlanks "7 ".toList) < 1024 ∧ evaluate "7 ".toList = .ok 7 ∧ Float.isFinite 7 = true) ∧
    (reachesTarget "2*5".toList = true ∧ evaluate "2*5".toList = .ok 10 ∧ Float.isFinite 10 = true) := by
  intro numeral quotient
  have isQuotient : evaluate quotient = .ok notANumber := by decide +kernel
  have special : notANumber.isFinite = false := by decide +kernel
  have clean : Text.withoutBlanks quotient = quotient := by decide +kernel
  obtain ⟨⟨tree, derives, leaves⟩, _⟩ := finite_unless_range_left isQuotient
  rw [clean] at derives
  have isSeven : evaluate "7 ".toList = .ok 7 := by decide +kernel
  have short : growth (Text.withoutBlanks "7 ".toList) < 1024 := by decide +kernel
  have isTen : evaluate "2*5".toList = .ok 10 := by decide +kernel
  have reached : reachesTarget "2*5".toList = true := by decide +kernel
  refine ⟨⟨by decide +kernel, isQuotient, special, tree, derives, leaves.mp special⟩, ⟨short, isSeven, ?_⟩,
    reached, isTen, ?_⟩
  · exact (finite_unless_range_left isSeven).2.1 short
  · exact (finite_unless_range_left isTen).2.2 reached

end

/-- The result of an answer to four digits is always finite. -/
theorem result_isFinite [DepthLimit] {text : List Char} {problem : String} {value : Float}
    (isProblem : IsProblem problem) (result : (judge text problem).result? = some value) : value.isFinite = true := by
  obtain ⟨exact, rounded, tracks⟩ := result_tracks isProblem result
  exact isFinite_iff.mpr ⟨rounded, tracks.finite⟩

end TenPuzzle
