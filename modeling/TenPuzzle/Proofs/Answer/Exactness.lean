import TenPuzzle.Proofs.Answer.Digits
import TenPuzzle.Proofs.Answer.Rational
import TenPuzzle.Proofs.Number.Order
import TenPuzzle.Proofs.Number.Scientific
import TenPuzzle.Proofs.Solver.Completeness

/-!
Rounding never changes a verdict. The double that an answer evaluates to stays close to its exact
value, while exact values that are not equal to the target, or divisors that are not zero, stay far
away from it.
-/

namespace TenPuzzle

open Number

/-- How far the double may be from the exact value of an expression over so many digits. -/
def slack : ℕ → ℚ
  | 0 => 0
  | 1 => 0
  | 2 => 1 / 10 ^ 14
  | 3 => 2 / 10 ^ 11
  | _ => 1 / 10 ^ 5

/-- A double stays close to the exact value of an expression over so many digits. -/
structure Tracks (count : ℕ) (exact : ℚ) (value : Float) (rounded : ℚ) : Prop where
  ofDigits : OfDigits count exact
  finite : exactValue value = some rounded
  close : |rounded - exact| ≤ slack count

/-- What errors in two operands can come to in a result, before it is rounded itself. -/
def spread (leftCount rightCount : ℕ) : ℚ :=
  2 * 9 ^ rightCount * slack leftCount + 2 * 9 ^ leftCount * (9 ^ rightCount / 9) ^ 2 * slack rightCount

structure Splits (leftCount rightCount : ℕ) : Prop where
  left : 0 < leftCount
  right : 0 < rightCount
  total : leftCount + rightCount ≤ 4

theorem Splits.cases {leftCount rightCount : ℕ} (splits : Splits leftCount rightCount) :
    (leftCount = 1 ∧ rightCount = 1) ∨ (leftCount = 1 ∧ rightCount = 2) ∨ (leftCount = 1 ∧ rightCount = 3) ∨
      (leftCount = 2 ∧ rightCount = 1) ∨ (leftCount = 2 ∧ rightCount = 2) ∨ (leftCount = 3 ∧ rightCount = 1) := by
  obtain ⟨left, right, total⟩ := splits
  omega

theorem tiny_le : (2 : ℚ) ^ (-1075 : ℤ) ≤ 1 / 2 ^ 60 := by
  have smaller : (2 : ℚ) ^ (-1075 : ℤ) ≤ 2 ^ (-60 : ℤ) := two_zpow_le.mpr (by decide)
  have same : (2 : ℚ) ^ (-60 : ℤ) = 1 / 2 ^ 60 := by norm_num
  exact same ▸ smaller

theorem Splits.slack_suffices {leftCount rightCount : ℕ} (splits : Splits leftCount rightCount) :
    (9 ^ (leftCount + rightCount) + spread leftCount rightCount) / 2 ^ 53 + 1 / 2 ^ 60 +
      spread leftCount rightCount ≤ slack (leftCount + rightCount) := by
  rcases splits.cases with ⟨rfl, rfl⟩ | ⟨rfl, rfl⟩ | ⟨rfl, rfl⟩ | ⟨rfl, rfl⟩ | ⟨rfl, rfl⟩ | ⟨rfl, rfl⟩ <;>
    norm_num [spread, slack]

theorem slack_nonneg (count : ℕ) : 0 ≤ slack count := by
  unfold slack
  split <;> norm_num

theorem slack_le (count : ℕ) : slack count ≤ 1 := by
  unfold slack
  split <;> norm_num

section

variable {leftCount rightCount : ℕ} {left right leftRounded rightRounded : ℚ}

theorem nine_le {count : ℕ} (positive : 0 < count) : (9 : ℚ) ≤ 9 ^ count := by
  simpa using pow_le_pow_right₀ (show (1 : ℚ) ≤ 9 by norm_num) positive

theorem Splits.le_spread (splits : Splits leftCount rightCount) :
    9 ^ rightCount * slack leftCount + 2 * 9 ^ leftCount * slack rightCount ≤ spread leftCount rightCount := by
  have leftError := slack_nonneg leftCount
  have rightError := slack_nonneg rightCount
  have large := nine_le splits.right
  have square : (1 : ℚ) ≤ (9 ^ rightCount / 9) ^ 2 := by
    apply one_le_pow₀
    linarith
  have first : 9 ^ rightCount * slack leftCount ≤ 2 * 9 ^ rightCount * slack leftCount := by
    nlinarith [mul_nonneg (show (0 : ℚ) ≤ 9 ^ rightCount by positivity) leftError]
  have second : 2 * 9 ^ leftCount * 1 * slack rightCount ≤
      2 * 9 ^ leftCount * (9 ^ rightCount / 9) ^ 2 * slack rightCount := by
    gcongr
  unfold spread
  linarith

theorem add_error (splits : Splits leftCount rightCount) (leftClose : |leftRounded - left| ≤ slack leftCount)
    (rightClose : |rightRounded - right| ≤ slack rightCount) :
    |leftRounded + rightRounded - (left + right)| ≤ spread leftCount rightCount := by
  have parts : leftRounded + rightRounded - (left + right) = (leftRounded - left) + (rightRounded - right) := by
    ring
  have triangle := abs_add_le (leftRounded - left) (rightRounded - right)
  have room := splits.le_spread
  have leftLarge := nine_le splits.left
  have rightLarge := nine_le splits.right
  rw [parts]
  nlinarith [slack_nonneg leftCount, slack_nonneg rightCount]

theorem mul_error (splits : Splits leftCount rightCount) (leftMagnitude : |left| ≤ 9 ^ leftCount)
    (rightMagnitude : |right| ≤ 9 ^ rightCount) (leftClose : |leftRounded - left| ≤ slack leftCount)
    (rightClose : |rightRounded - right| ≤ slack rightCount) :
    |leftRounded * rightRounded - left * right| ≤ spread leftCount rightCount := by
  have parts : leftRounded * rightRounded - left * right =
      right * (leftRounded - left) + leftRounded * (rightRounded - right) := by ring
  have leftLarge := nine_le splits.left
  have rounded : |leftRounded| ≤ 2 * 9 ^ leftCount := by
    have triangle := abs_add_le (leftRounded - left) left
    rw [sub_add_cancel] at triangle
    linarith [slack_le leftCount]
  rw [parts]
  calc
    |right * (leftRounded - left) + leftRounded * (rightRounded - right)|
      ≤ |right * (leftRounded - left)| + |leftRounded * (rightRounded - right)| := abs_add_le _ _
    _ = |right| * |leftRounded - left| + |leftRounded| * |rightRounded - right| := by rw [abs_mul, abs_mul]
    _ ≤ 9 ^ rightCount * slack leftCount + 2 * 9 ^ leftCount * slack rightCount := by gcongr
    _ ≤ spread leftCount rightCount := splits.le_spread

theorem Splits.slack_le_half (splits : Splits leftCount rightCount) : slack rightCount ≤ 9 / 9 ^ rightCount / 2 := by
  rcases splits.cases with ⟨_, rfl⟩ | ⟨_, rfl⟩ | ⟨_, rfl⟩ | ⟨_, rfl⟩ | ⟨_, rfl⟩ | ⟨_, rfl⟩ <;> norm_num [slack]

theorem Splits.half_le (splits : Splits leftCount rightCount) (rightApart : 9 / 9 ^ rightCount ≤ |right|)
    (rightClose : |rightRounded - right| ≤ slack rightCount) : 9 / 9 ^ rightCount / 2 ≤ |rightRounded| := by
  have triangle := abs_sub_abs_le_abs_sub right rightRounded
  rw [abs_sub_comm] at triangle
  linarith [splits.slack_le_half]

theorem div_error (splits : Splits leftCount rightCount) (leftMagnitude : |left| ≤ 9 ^ leftCount)
    (rightApart : 9 / 9 ^ rightCount ≤ |right|) (leftClose : |leftRounded - left| ≤ slack leftCount)
    (rightClose : |rightRounded - right| ≤ slack rightCount) :
    rightRounded ≠ 0 ∧ |leftRounded / rightRounded - left / right| ≤ spread leftCount rightCount := by
  have least : (0 : ℚ) < 9 / 9 ^ rightCount := by positivity
  have half := splits.half_le rightApart rightClose
  have roundedPositive : 0 < |rightRounded| := by linarith
  have rightPositive : 0 < |right| := by linarith
  have roundedNonzero := abs_pos.mp roundedPositive
  have rightNonzero := abs_pos.mp rightPositive
  refine ⟨roundedNonzero, ?_⟩
  have parts : leftRounded / rightRounded - left / right =
      (leftRounded - left) / rightRounded - left * (rightRounded - right) / (rightRounded * right) := by
    field_simp
    ring
  have power : (0 : ℚ) < 9 ^ rightCount := by positivity
  rw [parts]
  calc
    |(leftRounded - left) / rightRounded - left * (rightRounded - right) / (rightRounded * right)|
      ≤ |(leftRounded - left) / rightRounded| + |left * (rightRounded - right) / (rightRounded * right)| :=
        abs_sub _ _
    _ = |leftRounded - left| / |rightRounded| + |left| * |rightRounded - right| / (|rightRounded| * |right|) := by
        rw [abs_div, abs_div, abs_mul, abs_mul]
    _ ≤ slack leftCount / (9 / 9 ^ rightCount / 2) +
          9 ^ leftCount * slack rightCount / (9 / 9 ^ rightCount / 2 * (9 / 9 ^ rightCount)) := by
        gcongr
        · exact slack_nonneg leftCount
        · exact mul_nonneg (by positivity) (slack_nonneg rightCount)
    _ = 2 * 9 ^ rightCount / 9 * slack leftCount +
          2 * 9 ^ leftCount * (9 ^ rightCount / 9) ^ 2 * slack rightCount := by
        field_simp
    _ ≤ spread leftCount rightCount := by
        have smaller : 2 * 9 ^ rightCount / 9 * slack leftCount ≤ 2 * 9 ^ rightCount * slack leftCount := by
          nlinarith [mul_nonneg power.le (slack_nonneg leftCount)]
        unfold spread
        linarith

end

theorem Splits.spread_nonneg {leftCount rightCount : ℕ} : 0 ≤ spread leftCount rightCount := by
  have leftError := slack_nonneg leftCount
  have rightError := slack_nonneg rightCount
  unfold spread
  positivity

theorem Splits.tracks {leftCount rightCount : ℕ} {exact computed : ℚ} {value : Float}
    (splits : Splits leftCount rightCount) (ofDigits : OfDigits (leftCount + rightCount) exact)
    (nearest : IsNearest computed value) (error : |computed - exact| ≤ spread leftCount rightCount) :
    ∃ rounded, Tracks (leftCount + rightCount) exact value rounded := by
  have room := splits.slack_suffices
  have power : (9 : ℚ) ^ (leftCount + rightCount) ≤ 9 ^ 4 :=
    pow_le_pow_right₀ (by norm_num) splits.total
  have large : (0 : ℚ) < 9 ^ (leftCount + rightCount) := by positivity
  have nonneg := @Splits.spread_nonneg leftCount rightCount
  have magnitude : |computed| ≤ 9 ^ (leftCount + rightCount) + spread leftCount rightCount := by
    have triangle := abs_add_le (computed - exact) exact
    rw [sub_add_cancel] at triangle
    linarith [ofDigits.magnitude]
  have fraction : 0 ≤ (9 ^ (leftCount + rightCount) + spread leftCount rightCount) / 2 ^ 53 := by positivity
  have small := slack_le (leftCount + rightCount)
  have moderate : |computed| ≤ 2 ^ 64 := by
    norm_num at power ⊢
    linarith
  obtain ⟨rounded, finite, rounding⟩ := nearest.close moderate
  refine ⟨rounded, ofDigits, finite, ?_⟩
  have scaled : |computed| / 2 ^ 53 ≤ (9 ^ (leftCount + rightCount) + spread leftCount rightCount) / 2 ^ 53 := by
    gcongr
  have triangle := abs_add_le (rounded - computed) (computed - exact)
  rw [sub_add_sub_cancel] at triangle
  linarith [tiny_le]

theorem exactValue_leastDivisor : exactValue leastDivisor = some (4835703278458517 * 2 ^ (-82 : ℤ)) :=
  @exactValue_of_unpack leastDivisor 4835703278458517 (-82) (by decide) rfl

theorem Tracks.refused_iff {leftCount rightCount : ℕ} {exact rounded : ℚ} {value : Float}
    (splits : Splits leftCount rightCount) (tracks : Tracks rightCount exact value rounded) :
    value.abs < leastDivisor ↔ exact = 0 := by
  rw [abs_lt_iff tracks.finite exactValue_leastDivisor]
  constructor
  · intro below
    by_contra nonzero
    have rightApart := @OfDigits.apart _ _ tracks.ofDigits 0 (by simpa using nonzero)
    rw [Int.cast_zero, sub_zero] at rightApart
    have half := splits.half_le rightApart tracks.close
    have far : (4835703278458517 * 2 ^ (-82 : ℤ) : ℚ) < 9 / 9 ^ rightCount / 2 := by
      rcases splits.cases with ⟨_, rfl⟩ | ⟨_, rfl⟩ | ⟨_, rfl⟩ | ⟨_, rfl⟩ | ⟨_, rfl⟩ | ⟨_, rfl⟩ <;> norm_num
    exact absurd (lt_trans below far) half.not_gt
  · rintro rfl
    have close := tracks.close
    rw [sub_zero] at close
    have near : slack rightCount < 4835703278458517 * 2 ^ (-82 : ℤ) := by
      rcases splits.cases with ⟨_, rfl⟩ | ⟨_, rfl⟩ | ⟨_, rfl⟩ | ⟨_, rfl⟩ | ⟨_, rfl⟩ | ⟨_, rfl⟩ <;> norm_num [slack]
    exact lt_of_le_of_lt close near

inductive Agrees (count : ℕ) : Option ℚ → Option Float → Prop
  | none : Agrees count none none
  | some {exact value rounded} : Tracks count exact value rounded → Agrees count (some exact) (some value)

theorem Tracks.apply {leftCount rightCount : ℕ} {left right leftRounded rightRounded : ℚ}
    {leftValue rightValue : Float} (splits : Splits leftCount rightCount) (operator : Operator)
    (leftTracks : Tracks leftCount left leftValue leftRounded)
    (rightTracks : Tracks rightCount right rightValue rightRounded) :
    Agrees (leftCount + rightCount) (rationalOperation operator left right)
      (floatOperation operator leftValue rightValue) := by
  cases operator with
  | add =>
      obtain ⟨rounded, tracks⟩ := splits.tracks (leftTracks.ofDigits.add rightTracks.ofDigits)
        (isNearest_add leftTracks.finite rightTracks.finite) (add_error splits leftTracks.close rightTracks.close)
      exact .some tracks
  | sub =>
      have opposite : |-rightRounded - -right| ≤ slack rightCount := by
        rw [neg_sub_neg, abs_sub_comm]
        exact rightTracks.close
      have error := add_error splits leftTracks.close opposite
      rw [← sub_eq_add_neg, ← sub_eq_add_neg] at error
      obtain ⟨rounded, tracks⟩ := splits.tracks (leftTracks.ofDigits.sub rightTracks.ofDigits)
        (isNearest_sub leftTracks.finite rightTracks.finite) error
      exact .some tracks
  | mul =>
      obtain ⟨rounded, tracks⟩ := splits.tracks (leftTracks.ofDigits.mul rightTracks.ofDigits)
        (isNearest_mul leftTracks.finite rightTracks.finite)
        (mul_error splits leftTracks.ofDigits.magnitude rightTracks.ofDigits.magnitude leftTracks.close
          rightTracks.close)
      exact .some tracks
  | div =>
      have refused := rightTracks.refused_iff splits
      by_cases isZero : right = 0
      · simp only [rationalOperation, floatOperation, isZero, refused.mpr isZero, if_true]
        exact .none
      · have rightApart := @OfDigits.apart _ _ rightTracks.ofDigits 0 (by simpa using isZero)
        rw [Int.cast_zero, sub_zero] at rightApart
        obtain ⟨nonzero, error⟩ := div_error splits leftTracks.ofDigits.magnitude rightApart leftTracks.close
          rightTracks.close
        obtain ⟨rounded, tracks⟩ := splits.tracks (leftTracks.ofDigits.div rightTracks.ofDigits isZero)
          (isNearest_div leftTracks.finite rightTracks.finite nonzero) error
        have accepted : ¬rightValue.abs < leastDivisor := fun small => isZero (refused.mp small)
        simp only [rationalOperation, floatOperation, isZero, accepted, if_false]
        exact .some tracks

theorem tracks_digit {digit : Char} (isDigit : digit.isDigit = true) :
    Agrees 1 (some (Number.valueOfDigits [digit] : ℚ)) (some (Arithmetic.floats.number [digit])) := by
  have bounds : 48 ≤ digit.toNat ∧ digit.toNat ≤ 57 := by
    simpa [Char.isDigit, UInt32.le_iff_toNat_le] using isDigit
  have isValue : Number.valueOfDigits [digit] = digit.toNat - 48 := by
    change 0 * 10 + (digit.toNat - 48) = digit.toNat - 48
    omega
  have small : Number.valueOfDigits [digit] ≤ 9 := by omega
  refine .some ⟨ofDigits_one small, exactValue_ofScientific (by omega), ?_⟩
  rw [sub_self, abs_zero]
  exact slack_nonneg 1

theorem agrees_value {tree : Expr} (unsigned : tree.hasSign = false)
    (single : ∀ digits ∈ tree.numbers, ∃ digit : Char, digits = [digit] ∧ digit.isDigit = true)
    (short : tree.numbers.length ≤ 4) :
    Agrees tree.numbers.length (tree.value .rationals) (tree.value .floats) := by
  induction tree with
  | number digits =>
      obtain ⟨digit, rfl, isDigit⟩ := single digits (by simp [Expr.numbers])
      exact tracks_digit isDigit
  | negate operand _ => simp [Expr.hasSign] at unsigned
  | group inner ih =>
      have inside := ih unsigned single short
      rw [Expr.value, Expr.value, Expr.numbers]
      revert inside
      generalize inner.value .rationals = exact, inner.value .floats = value
      intro inside
      cases inside with
      | none => exact .none
      | some tracks => exact .some tracks
  | binary operator left right leftIh rightIh =>
      rw [Expr.hasSign, Bool.or_eq_false_iff] at unsigned
      rw [Expr.numbers, List.length_append] at short ⊢
      have leftAgrees := leftIh unsigned.1 (fun digits member => single digits (by simp [Expr.numbers, member]))
        (by omega)
      have rightAgrees := rightIh unsigned.2 (fun digits member => single digits (by simp [Expr.numbers, member]))
        (by omega)
      have splits : Splits left.numbers.length right.numbers.length :=
        ⟨numbers_length_pos left, numbers_length_pos right, short⟩
      rw [Expr.value, Expr.value]
      revert leftAgrees rightAgrees
      generalize left.value .rationals = leftExact, left.value .floats = leftValue,
        right.value .rationals = rightExact, right.value .floats = rightValue
      intro leftAgrees rightAgrees
      cases leftAgrees with
      | none => exact .none
      | some leftTracks =>
          cases rightAgrees with
          | none => exact .none
          | some rightTracks => exact leftTracks.apply splits operator rightTracks

theorem exactValue_target : exactValue target = some 10 := by
  rw [@exactValue_of_unpack target 5629499534213120 (-49) (by decide) rfl]
  norm_num

theorem exactValue_tolerance : exactValue tolerance = some (7378697629483821 * 2 ^ (-66 : ℤ)) :=
  @exactValue_of_unpack tolerance 7378697629483821 (-66) (by decide) rfl

theorem Tracks.reaches_iff {exact rounded : ℚ} {value : Float} (tracks : Tracks 4 exact value rounded) :
    reaches target tolerance (.ok value) = true ↔ exact = 10 := by
  have close : |rounded - exact| ≤ 1 / 10 ^ 5 := tracks.close
  have magnitude : |exact| ≤ 9 ^ 4 := tracks.ofDigits.magnitude
  have far : |rounded - 10| ≤ 2 ^ 13 := by
    rw [abs_le] at close magnitude ⊢
    norm_num at close magnitude ⊢
    constructor <;> linarith
  obtain ⟨difference, finite, rounding⟩ := (isNearest_sub tracks.finite exactValue_target).close
    (le_trans far (by norm_num))
  have near : |difference - (exact - 10)| ≤ 2 / 10 ^ 5 := by
    have triangle := abs_add_le (difference - (rounded - 10)) (rounded - exact)
    have parts : difference - (exact - 10) = difference - (rounded - 10) + (rounded - exact) := by ring
    have scaled : |rounded - 10| / 2 ^ 53 ≤ 2 ^ 13 / 2 ^ 53 := by gcongr
    have room : (2 : ℚ) ^ 13 / 2 ^ 53 + 1 / 2 ^ 60 + 1 / 10 ^ 5 ≤ 2 / 10 ^ 5 := by norm_num
    rw [parts]
    linarith [tiny_le]
  change decide ((value - target).abs < tolerance) = true ↔ _
  rw [decide_eq_true_iff, abs_lt_iff finite exactValue_tolerance]
  constructor
  · intro below
    by_contra different
    have apart := @OfDigits.apart 4 exact tracks.ofDigits 10 (by exact_mod_cast different)
    have triangle := abs_sub_abs_le_abs_sub (exact - 10) difference
    rw [abs_sub_comm (exact - 10) difference] at triangle
    have beyond : (7378697629483821 * 2 ^ (-66 : ℤ) : ℚ) < 9 / 9 ^ 4 - 2 / 10 ^ 5 := by norm_num
    push_cast at apart
    have large : 9 / 9 ^ 4 - 2 / 10 ^ 5 ≤ |difference| := by linarith
    exact absurd (lt_trans below beyond) large.not_gt
  · rintro rfl
    rw [sub_self, sub_zero] at near
    exact lt_of_le_of_lt near (by norm_num)

theorem Admissible.verdict_eq [DepthLimit] {text : List Char} {problem : String} {tree : Expr}
    (admissible : Admissible text problem) (derives : Derives .expression (normalize text) tree)
    (shallow : nesting (normalize text) ≤ depthLimit) :
    (judge text problem).verdict = .ok (tree.value .floats) := by
  have evaluates : evaluate (normalize text) = tree.outcome .floats := derives.computeIn_text .floats shallow
  rw [admissible.verdict, valueOf, evaluates, Expr.outcome]
  cases tree.value .floats <;> rfl

/-- An answer in which every digit stands alone is tracked as far as four digits can lead. -/
theorem Admissible.agrees {text : List Char} {problem : String} {tree : Expr} (admissible : Admissible text problem)
    (isProblem : IsProblem problem) (derives : Derives .expression (normalize text) tree) :
    Agrees 4 (tree.value .rationals) (tree.value .floats) := by
  have numbers := admissible.numbers derives
  have count : tree.numbers.length = 4 := by
    rw [numbers, List.length_map]
    exact isProblem.1
  have single : ∀ digits ∈ tree.numbers, ∃ digit : Char, digits = [digit] ∧ digit.isDigit = true := by
    intro digits member
    rw [numbers] at member
    obtain ⟨digit, isMember, rfl⟩ := List.mem_map.mp member
    exact ⟨digit, rfl, isProblem.2 digit isMember⟩
  have agrees := agrees_value (admissible.hasSign derives) single count.le
  rwa [count] at agrees

theorem result_tracks [DepthLimit] {text : List Char} {problem : String} {value : Float} (isProblem : IsProblem problem)
    (result : (judge text problem).result? = some value) : ∃ exact rounded, Tracks 4 exact value rounded := by
  obtain ⟨admissible, evaluates⟩ := result_eq_some_iff.mp result
  obtain ⟨tree, derives, isValue⟩ := computeIn_sound evaluates
  rw [withoutBlanks_normalize] at derives
  have agrees := admissible.agrees isProblem derives
  rw [isValue] at agrees
  generalize tree.value .rationals = exact at agrees
  cases agrees with
  | @some exact _ rounded tracks => exact ⟨exact, rounded, tracks⟩

/-- Rounding never changes a verdict. A valid answer counts as correct exactly if its exact value is
defined and is ten, and it has no result, as one that divides by zero, exactly if a divisor in it is
exactly zero. -/
theorem verdict_exact [DepthLimit] (problem : String) (isProblem : IsProblem problem) (text : List Char) (tree : Expr)
    (derives : Derives .expression (normalize text) tree) (shallow : nesting (normalize text) ≤ depthLimit)
    (valid : (judge text problem).isValid = true) :
    ((judge text problem).isCorrect = true ↔ tree.value .rationals = some 10) ∧
    ((judge text problem).result? = none ↔
      ∃ divisor ∈ tree.divisors, divisor.value .rationals = some 0) ∧
    ((judge text problem).error? = some "Division by zero" ↔
      ∃ divisor ∈ tree.divisors, divisor.value .rationals = some 0) := by
  have admissible := admissible_of_isValid valid
  have agrees := admissible.agrees isProblem derives
  have zeroDivisor := rationals_refuses.value_eq_none tree
  simp only [exists_eq_right] at zeroDivisor
  rw [← zeroDivisor]
  unfold Answer.isCorrect Answer.result? Answer.error?
  rw [admissible.verdict_eq derives shallow]
  revert agrees
  generalize tree.value .rationals = exact, tree.value .floats = value
  intro agrees
  cases agrees with
  | none =>
      refine ⟨?_, ?_, ?_⟩
      · exact iff_of_false Bool.false_ne_true (Option.some_ne_none _).symm
      · exact iff_of_true rfl rfl
      · exact iff_of_true rfl rfl
  | some tracks =>
      refine ⟨?_, ?_, ?_⟩
      · exact tracks.reaches_iff.trans Option.some_inj.symm
      · exact iff_of_false (Option.some_ne_none _) (Option.some_ne_none _)
      · exact iff_of_false (Option.some_ne_none _).symm (Option.some_ne_none _)

section

attribute [local instance] DepthLimit.standard

theorem verdict_exact_of_ninths :
    IsProblem "1199" ∧ (judge "(1 + 1 ÷ 9) × 9".toList "1199").isCorrect = true := by
  let tree : Expr := .binary .mul
    (.group (.binary .add (.number ['1']) (.binary .div (.number ['1']) (.number ['9'])))) (.number ['9'])
  have isProblem : IsProblem "1199" := by decide
  have parses : parse (normalize "(1 + 1 ÷ 9) × 9".toList) = .ok tree := by decide +kernel
  have derives := parse_sound parses
  rw [withoutBlanks_normalize] at derives
  have isTen : tree.value .rationals = some 10 := by decide +kernel
  have valid : (judge "(1 + 1 ÷ 9) × 9".toList "1199").isValid = true := by decide +kernel
  have shallow : nesting (normalize "(1 + 1 ÷ 9) × 9".toList) ≤ depthLimit := by decide +kernel
  exact ⟨isProblem, (verdict_exact "1199" isProblem _ tree derives shallow valid).1.mpr isTen⟩

end

end TenPuzzle
