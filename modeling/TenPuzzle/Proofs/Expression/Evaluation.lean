import TenPuzzle.Proofs.Expression.Malformed

/-!
Evaluation against the grammar. A derivable text has one syntax tree, and evaluation gives the value
of that tree; the other texts have no value, and whether they fail as undefined is decided by the
divisions that are complete before their first fault.
-/

namespace TenPuzzle

variable {α : Type}

theorem floats_addsAlways : Arithmetic.floats.AddsAlways := by
  intro operator left right weak
  cases operator with
  | add => exact ⟨left + right, rfl⟩
  | sub => exact ⟨left - right, rfl⟩
  | mul => simp [Operator.isSum] at weak
  | div => simp [Operator.isSum] at weak

theorem value_trees (tree : Expr) : tree.value .trees = some tree := by
  induction tree with
  | number digits => rfl
  | negate operand ih => rw [Expr.value, ih, Option.map_some]; rfl
  | group inner ih => rw [Expr.value, ih, Option.map_some]; rfl
  | binary operator left right leftIh rightIh =>
      rw [Expr.value, leftIh, rightIh]
      rfl

theorem computeIn_eq_run [DepthLimit] (arithmetic : Arithmetic α) {text : List Char}
    (nonempty : Text.withoutBlanks text ≠ []) :
    computeIn arithmetic text = Machine.start.run arithmetic 0 (Text.withoutBlanks text) := by
  unfold computeIn
  split
  · next isEmpty => exact (nonempty isEmpty).elim
  · rfl

theorem Derives.computeIn_eq [DepthLimit] (arithmetic : Arithmetic α) {text tree}
    (derives : Derives .expression (Text.withoutBlanks text) tree)
    (shallow : nesting (Text.withoutBlanks text) ≤ depthLimit) :
    computeIn arithmetic text = tree.outcome arithmetic := by
  rw [computeIn_eq_run arithmetic derives.text_ne_nil]
  exact derives.run_start arithmetic (by rwa [← derives.nesting_eq])

theorem isBlank_of_isDigit {digit : Char} (isDigit : digit.isDigit = true) : Text.isBlank digit = false := by
  have bounds : 48 ≤ digit.toNat ∧ digit.toNat ≤ 57 := by
    simpa [Char.isDigit, UInt32.le_iff_toNat_le] using isDigit
  simp [Text.isBlank, Text.inRanges, Text.blankRanges]
  omega

theorem Derives.withoutBlanks_eq {level text tree} (derives : Derives level text tree) :
    Text.withoutBlanks text = text := by
  have symbols (operator : Operator) : Text.isBlank operator.symbol = false := by
    cases operator <;> decide
  have brackets : Text.isBlank '(' = false ∧ Text.isBlank ')' = false ∧ Text.isBlank '-' = false := by decide
  unfold Text.withoutBlanks
  induction derives with
  | number _ allDigits =>
      apply List.filter_eq_self.mpr
      intro digit member
      simp [isBlank_of_isDigit (allDigits digit member)]
  | negate _ ih => simp [ih, brackets]
  | group _ ih => simp [ih, brackets]
  | factor _ ih => exact ih
  | product _ _ _ leftIh rightIh => simp [leftIh, rightIh, symbols]
  | term _ ih => exact ih
  | sum _ _ _ leftIh rightIh => simp [leftIh, rightIh, symbols]

theorem Derives.computeIn_text [DepthLimit] (arithmetic : Arithmetic α) {text tree}
    (derives : Derives .expression text tree) (shallow : nesting text ≤ depthLimit) :
    computeIn arithmetic text = tree.outcome arithmetic := by
  have clean := derives.withoutBlanks_eq
  apply Derives.computeIn_eq
  · rwa [clean]
  · rwa [clean]

theorem computeIn_sound [DepthLimit] {arithmetic : Arithmetic α} {text : List Char} {value : α}
    (computes : computeIn arithmetic text = .ok value) :
    ∃ tree, Derives .expression (Text.withoutBlanks text) tree ∧ tree.value arithmetic = some value := by
  have nonempty : Text.withoutBlanks text ≠ [] := by
    intro isEmpty
    simp [computeIn, isEmpty] at computes
  rw [computeIn_eq_run arithmetic nonempty] at computes
  exact run_sound (reads_start arithmetic) computes

theorem computeIn_undefined_iff [DepthLimit] {arithmetic : Arithmetic α} (adds : arithmetic.AddsAlways)
    (text : List Char) :
    computeIn arithmetic text = .error .undefined ↔ DividesEarly arithmetic (Text.withoutBlanks text) := by
  by_cases isEmpty : Text.withoutBlanks text = []
  · simp only [computeIn, isEmpty, Except.error.injEq, reduceCtorEq, false_iff]
    rintro ⟨taken, after, parts, ⟨before, term, tree, rfl, _, derives, _⟩, _⟩
    have noTerm : term = [] := by simp_all
    exact derives.text_ne_nil noTerm
  · rw [computeIn_eq_run arithmetic isEmpty]
    constructor
    · intro undefined
      exact (reads_start arithmetic).dividesEarly adds rfl (Nat.zero_le _) undefined
    · intro divides
      exact divides.run_undefined adds

theorem parse_sound [DepthLimit] {text : List Char} {tree : Expr} (parses : parse text = .ok tree) :
    Derives .expression (Text.withoutBlanks text) tree := by
  obtain ⟨found, derives, isFound⟩ := computeIn_sound parses
  rw [value_trees] at isFound
  cases isFound
  exact derives

/-- The tree of a derivable text is unique. -/
theorem Derives.unique [DepthLimit] {text first second} (firstDerives : Derives .expression text first)
    (secondDerives : Derives .expression text second) (shallow : nesting text ≤ depthLimit) :
    first = second := by
  have firstRun := firstDerives.run_start Arithmetic.trees (by rwa [← firstDerives.nesting_eq])
  have secondRun := secondDerives.run_start Arithmetic.trees (by rwa [← secondDerives.nesting_eq])
  rw [firstRun] at secondRun
  simpa [Expr.outcome, value_trees] using secondRun

theorem mem_divisors_binary {operator : Operator} {left right divisor : Expr} :
    divisor ∈ (Expr.binary operator left right).divisors ↔
      divisor ∈ left.divisors ∨ divisor ∈ right.divisors ∨ operator = .div ∧ divisor = right := by
  cases operator <;> simp [Expr.divisors]

theorem value_binary_eq_none {arithmetic : Arithmetic α} {operator : Operator} {left right : Expr} :
    (Expr.binary operator left right).value arithmetic = none ↔
      left.value arithmetic = none ∨ right.value arithmetic = none ∨
        ∃ leftValue rightValue, left.value arithmetic = some leftValue ∧
          right.value arithmetic = some rightValue ∧
          arithmetic.apply operator leftValue rightValue = none := by
  rw [Expr.value]
  cases left.value arithmetic <;> cases right.value arithmetic <;> simp

/-- Only divisions may be without a result, and their divisor alone decides. -/
def Arithmetic.Refuses (arithmetic : Arithmetic α) (refused : α → Prop) : Prop :=
  ∀ operator left right,
    arithmetic.apply operator left right = none ↔ operator = .div ∧ refused right

theorem Arithmetic.Refuses.value_eq_none {arithmetic : Arithmetic α} {refused : α → Prop}
    (refuses : arithmetic.Refuses refused) (tree : Expr) :
    tree.value arithmetic = none ↔
      ∃ divisor ∈ tree.divisors, ∃ value, divisor.value arithmetic = some value ∧ refused value := by
  induction tree with
  | number digits => simp [Expr.value, Expr.divisors]
  | negate operand ih => simpa [Expr.value, Expr.divisors] using ih
  | group inner ih => simpa [Expr.value, Expr.divisors] using ih
  | binary operator left right leftIh rightIh =>
      rw [value_binary_eq_none, leftIh, rightIh]
      constructor
      · rintro (⟨divisor, member, meets⟩ | ⟨divisor, member, meets⟩ | ⟨_, value, _, isRight, noResult⟩)
        · exact ⟨divisor, mem_divisors_binary.mpr (.inl member), meets⟩
        · exact ⟨divisor, mem_divisors_binary.mpr (.inr (.inl member)), meets⟩
        · obtain ⟨isDivision, small⟩ := (refuses operator _ value).mp noResult
          exact ⟨right, mem_divisors_binary.mpr (.inr (.inr ⟨isDivision, rfl⟩)), value, isRight, small⟩
      · rintro ⟨divisor, member, value, isValue, small⟩
        rcases mem_divisors_binary.mp member with inLeft | inRight | ⟨isDivision, rfl⟩
        · exact .inl ⟨divisor, inLeft, value, isValue, small⟩
        · exact .inr (.inl ⟨divisor, inRight, value, isValue, small⟩)
        · cases isLeft : left.value arithmetic with
          | none => exact .inl (leftIh.mp isLeft)
          | some leftValue =>
              exact .inr (.inr ⟨leftValue, value, rfl, isValue, (refuses operator _ _).mpr ⟨isDivision, small⟩⟩)

def Expr.MeetsLeastDivisor (tree : Expr) : Prop :=
  ∃ divisor ∈ tree.divisors, ∃ value, divisor.value .floats = some value ∧ value.abs < leastDivisor

theorem floats_refuses : Arithmetic.floats.Refuses fun value => value.abs < leastDivisor := by
  intro operator left right
  cases operator <;> simp [Arithmetic.floats, floatOperation]

end TenPuzzle
