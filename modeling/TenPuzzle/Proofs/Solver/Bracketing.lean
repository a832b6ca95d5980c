import TenPuzzle.Candidate
import TenPuzzle.Proofs.Answer.Digits

/-!
Trees without signs, written with a pair of brackets around every operand that is not a number. A
tree over four digits has five such forms up to its operators, and the candidates contain them all.
-/

namespace TenPuzzle

variable {α : Type}

def Expr.operand : Expr → Expr
  | .number digits => .number digits
  | .negate inner => .negate inner.operand
  | .group inner => inner.operand
  | .binary operator left right => .group (.binary operator left.operand right.operand)

/-- A tree with brackets around its operands alone. -/
def Expr.bracketed : Expr → Expr
  | .number digits => .number digits
  | .negate inner => .negate inner.operand
  | .group inner => inner.bracketed
  | .binary operator left right => .binary operator left.operand right.operand

theorem operand_value {arithmetic : Arithmetic α} (ignores : ∀ value, arithmetic.group value = value)
    (tree : Expr) : tree.operand.value arithmetic = tree.value arithmetic := by
  have keeps (result : Option α) : result.map arithmetic.group = result := by
    cases result <;> simp [ignores]
  induction tree with
  | number digits => rfl
  | negate inner ih => rw [Expr.operand, Expr.value, ih, Expr.value]
  | group inner ih => rw [Expr.operand, Expr.value, keeps, ih]
  | binary operator left right leftIh rightIh =>
      rw [Expr.operand, Expr.value, keeps, Expr.value, leftIh, rightIh, Expr.value]

theorem bracketed_value {arithmetic : Arithmetic α} (ignores : ∀ value, arithmetic.group value = value)
    (tree : Expr) : tree.bracketed.value arithmetic = tree.value arithmetic := by
  induction tree with
  | number digits => rfl
  | negate inner _ => rw [Expr.bracketed, Expr.value, operand_value ignores, Expr.value]
  | group inner ih =>
      rw [Expr.bracketed, ih, Expr.value]
      cases inner.value arithmetic <;> simp [ignores]
  | binary operator left right _ _ =>
      rw [Expr.bracketed, Expr.value, operand_value ignores, operand_value ignores, Expr.value]

theorem unsigned_cases {tree : Expr} (unsigned : tree.hasSign = false) :
    (∃ digits, tree.numbers = [digits] ∧ tree.operand = .number digits ∧ tree.bracketed = .number digits) ∨
      ∃ (operator : Operator) (left right : Expr), left.hasSign = false ∧ right.hasSign = false ∧
        tree.numbers = left.numbers ++ right.numbers ∧
        tree.operand = .group (.binary operator left.operand right.operand) ∧
        tree.bracketed = .binary operator left.operand right.operand := by
  induction tree with
  | number digits => exact .inl ⟨digits, rfl, rfl, rfl⟩
  | negate inner _ => simp [Expr.hasSign] at unsigned
  | group inner ih => exact ih unsigned
  | binary operator left right _ _ =>
      rw [Expr.hasSign, Bool.or_eq_false_iff] at unsigned
      exact .inr ⟨operator, left, right, unsigned.1, unsigned.2, rfl, rfl, rfl⟩

theorem numbers_length_pos (tree : Expr) : 0 < tree.numbers.length := by
  induction tree with
  | number digits => simp [Expr.numbers]
  | negate inner ih => exact ih
  | group inner ih => exact ih
  | binary operator left right leftIh _ =>
      rw [Expr.numbers, List.length_append]
      omega

theorem operand_nesting {tree : Expr} (unsigned : tree.hasSign = false) :
    tree.operand.nesting + 3 ≤ 3 * tree.numbers.length := by
  induction tree with
  | number digits => simp [Expr.operand, Expr.numbers, Expr.nesting]
  | negate inner _ => simp [Expr.hasSign] at unsigned
  | group inner ih => exact ih unsigned
  | binary operator left right leftIh rightIh =>
      rw [Expr.hasSign, Bool.or_eq_false_iff] at unsigned
      have leftBound := leftIh unsigned.1
      have rightBound := rightIh unsigned.2
      have leftPositive := numbers_length_pos left
      have rightPositive := numbers_length_pos right
      simp only [Expr.operand, Expr.nesting, Expr.numbers, List.length_append]
      omega

theorem bracketed_nesting {tree : Expr} (unsigned : tree.hasSign = false) :
    tree.bracketed.nesting ≤ 3 * tree.numbers.length := by
  rcases unsigned_cases unsigned with
    ⟨digits, _, _, isNumber⟩ | ⟨operator, left, right, leftUnsigned, rightUnsigned, numbers, _, isBinary⟩
  · simp [isNumber, Expr.nesting]
  · have leftBound := operand_nesting leftUnsigned
    have rightBound := operand_nesting rightUnsigned
    rw [isBinary, numbers, Expr.nesting, List.length_append]
    omega

def Expr.IsWritten (tree : Expr) : Prop :=
  ∀ digits ∈ tree.numbers, digits ≠ [] ∧ ∀ digit ∈ digits, digit.isDigit = true

theorem derives_operand {tree : Expr} (written : tree.IsWritten) :
    Derives .factor tree.operand.text tree.operand := by
  induction tree with
  | number digits =>
      obtain ⟨nonempty, allDigits⟩ := written digits (by simp [Expr.numbers])
      exact .number nonempty allDigits
  | negate inner ih => exact (ih written).negate
  | group inner ih => exact ih written
  | binary operator left right leftIh rightIh =>
      have leftDerives := leftIh fun digits member => written digits (by simp [Expr.numbers, member])
      have rightDerives := rightIh fun digits member => written digits (by simp [Expr.numbers, member])
      exact (leftDerives.apply operator rightDerives).group

theorem derives_bracketed {tree : Expr} (written : tree.IsWritten) :
    Derives .expression tree.bracketed.text tree.bracketed := by
  induction tree with
  | number digits => exact (derives_operand written).factor.term
  | negate inner _ => exact (derives_operand written).factor.term
  | group inner ih => exact ih written
  | binary operator left right _ _ =>
      apply Derives.apply
      · exact derives_operand fun digits member => written digits (by simp [Expr.numbers, member])
      · exact derives_operand fun digits member => written digits (by simp [Expr.numbers, member])

/-! The five forms. -/

theorem numbers_split {left right : Expr} {whole : List (List Char)}
    (numbers : whole = left.numbers ++ right.numbers) :
    ∃ count, 0 < count ∧ count < whole.length ∧ left.numbers = whole.take count ∧
      right.numbers = whole.drop count := by
  have leftPositive := numbers_length_pos left
  have rightPositive := numbers_length_pos right
  refine ⟨left.numbers.length, leftPositive, ?_, ?_, ?_⟩
  · rw [numbers, List.length_append]
    omega
  · rw [numbers, List.take_left]
  · rw [numbers, List.drop_left]

theorem operand_of_one {tree : Expr} {first : List Char} (unsigned : tree.hasSign = false)
    (numbers : tree.numbers = [first]) : tree.operand = .number first := by
  rcases unsigned_cases unsigned with ⟨digits, one, isOperand, _⟩ | ⟨_, left, right, _, _, split, _, _⟩
  · rw [one] at numbers
    cases numbers
    exact isOperand
  · obtain ⟨count, positive, bound, _⟩ := numbers_split (numbers.symm.trans split)
    simp only [List.length_cons, List.length_nil] at bound
    omega

theorem operand_of_two {tree : Expr} {first second : List Char} (unsigned : tree.hasSign = false)
    (numbers : tree.numbers = [first, second]) :
    ∃ operator, tree.operand = .group (.binary operator (.number first) (.number second)) := by
  rcases unsigned_cases unsigned with
    ⟨digits, one, _⟩ | ⟨operator, left, right, leftUnsigned, rightUnsigned, split, isOperand, _⟩
  · simp [one] at numbers
  · obtain ⟨count, positive, bound, isLeft, isRight⟩ := numbers_split (numbers.symm.trans split)
    simp only [List.length_cons, List.length_nil] at bound
    obtain rfl : count = 1 := by omega
    rw [operand_of_one leftUnsigned isLeft, operand_of_one rightUnsigned isRight] at isOperand
    exact ⟨operator, isOperand⟩

theorem operand_of_three {tree : Expr} {first second third : List Char} (unsigned : tree.hasSign = false)
    (numbers : tree.numbers = [first, second, third]) :
    ∃ outer inner,
      tree.operand = .group (.binary outer (.number first)
        (.group (.binary inner (.number second) (.number third)))) ∨
      tree.operand = .group (.binary outer (.group (.binary inner (.number first) (.number second)))
        (.number third)) := by
  rcases unsigned_cases unsigned with
    ⟨digits, one, _⟩ | ⟨operator, left, right, leftUnsigned, rightUnsigned, split, isOperand, _⟩
  · simp [one] at numbers
  · obtain ⟨count, positive, bound, isLeft, isRight⟩ := numbers_split (numbers.symm.trans split)
    simp only [List.length_cons, List.length_nil] at bound
    obtain rfl | rfl : count = 1 ∨ count = 2 := by omega
    · obtain ⟨inner, rightOperand⟩ := operand_of_two rightUnsigned isRight
      rw [operand_of_one leftUnsigned isLeft, rightOperand] at isOperand
      exact ⟨operator, inner, .inl isOperand⟩
    · obtain ⟨inner, leftOperand⟩ := operand_of_two leftUnsigned isLeft
      rw [leftOperand, operand_of_one rightUnsigned isRight] at isOperand
      exact ⟨operator, inner, .inr isOperand⟩

def Slot.text (slot : Slot) (operand : List Char) : List Char :=
  List.replicate slot.opened '(' ++ operand ++ List.replicate slot.closed ')'

def Shape.text (shape : Shape) (digits : Four Char) (operators : Three Operator) : List Char :=
  shape.first.text [digits.first] ++ operators.first.symbol ::
    (shape.second.text [digits.second] ++ operators.second.symbol ::
      (shape.third.text [digits.third] ++ operators.third.symbol :: shape.fourth.text [digits.fourth]))

/-- A tree over four digits, bracketed, is written in one of the shapes. -/
theorem bracketed_shape {tree : Expr} (digits : Four Char) (unsigned : tree.hasSign = false)
    (numbers : tree.numbers = [[digits.first], [digits.second], [digits.third], [digits.fourth]]) :
    ∃ shape ∈ Shape.all, ∃ operators, tree.bracketed.text = shape.text digits operators := by
  rcases unsigned_cases unsigned with
    ⟨one, isOne, _⟩ | ⟨operator, left, right, leftUnsigned, rightUnsigned, split, _, isBracketed⟩
  · simp [isOne] at numbers
  · rw [isBracketed]
    obtain ⟨count, positive, bound, isLeft, isRight⟩ := numbers_split (numbers.symm.trans split)
    simp only [List.length_cons, List.length_nil] at bound
    obtain rfl | rfl | rfl : count = 1 ∨ count = 2 ∨ count = 3 := by omega
    · rw [operand_of_one leftUnsigned isLeft]
      obtain ⟨outer, inner, isOperand | isOperand⟩ := operand_of_three rightUnsigned isRight
      · refine ⟨⟨"right-nested", ⟨0, 0⟩, ⟨1, 0⟩, ⟨1, 0⟩, ⟨0, 2⟩⟩, by decide, ⟨operator, outer, inner⟩, ?_⟩
        rw [isOperand]
        rfl
      · refine ⟨⟨"right-inner-middle", ⟨0, 0⟩, ⟨2, 0⟩, ⟨0, 1⟩, ⟨0, 1⟩⟩, by decide, ⟨operator, inner, outer⟩, ?_⟩
        rw [isOperand]
        rfl
    · obtain ⟨leftOperator, isLeftOperand⟩ := operand_of_two leftUnsigned isLeft
      obtain ⟨rightOperator, isRightOperand⟩ := operand_of_two rightUnsigned isRight
      refine ⟨⟨"two-pairs", ⟨1, 0⟩, ⟨0, 1⟩, ⟨1, 0⟩, ⟨0, 1⟩⟩, by decide,
        ⟨leftOperator, operator, rightOperator⟩, ?_⟩
      rw [isLeftOperand, isRightOperand]
      rfl
    · rw [operand_of_one rightUnsigned isRight]
      obtain ⟨outer, inner, isOperand | isOperand⟩ := operand_of_three leftUnsigned isLeft
      · refine ⟨⟨"left-inner-middle", ⟨1, 0⟩, ⟨1, 0⟩, ⟨0, 2⟩, ⟨0, 0⟩⟩, by decide, ⟨outer, inner, operator⟩, ?_⟩
        rw [isOperand]
        rfl
      · refine ⟨⟨"left-nested", ⟨2, 0⟩, ⟨0, 1⟩, ⟨0, 1⟩, ⟨0, 0⟩⟩, by decide, ⟨inner, outer, operator⟩, ?_⟩
        rw [isOperand]
        rfl

end TenPuzzle
