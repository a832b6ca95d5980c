import TenPuzzle.Answer
import TenPuzzle.Proofs.Expression.Grammar

/-!
How deep a text is nested, read off its characters alone: a bracket weighs three while it is open,
and a sign one until its operand begins. On derivable texts this is the nesting of the tree.
-/

namespace TenPuzzle

/-- Where a reader of characters stands; the depths of enclosing levels are kept innermost first. -/
structure Surroundings where
  outer : List Nat
  level : Nat
  signs : Nat
  operandFollows : Bool

def Surroundings.start : Surroundings := ⟨[], 0, 0, true⟩

def Surroundings.depth (here : Surroundings) : Nat := here.level + here.signs

def Surroundings.step (here : Surroundings) (found : Char) : Surroundings :=
  if found = '(' then ⟨here.level :: here.outer, here.depth + 3, 0, true⟩
  else if found = ')' then ⟨here.outer.tail, here.outer.headD 0, 0, false⟩
  else if found = '-' ∧ here.operandFollows then { here with signs := here.signs + 1 }
  else { here with signs := 0, operandFollows := isOperator found }

def Surroundings.deepest (here : Surroundings) : List Char → Nat
  | [] => here.depth
  | found :: rest => max here.depth ((here.step found).deepest rest)

def nesting (text : List Char) : Nat := Surroundings.start.deepest text

theorem Surroundings.depth_le_deepest (here : Surroundings) (text : List Char) :
    here.depth ≤ here.deepest text := by
  cases text with
  | nil => exact Nat.le_refl _
  | cons found rest => exact Nat.le_max_left _ _

theorem Surroundings.deepest_append (here : Surroundings) (before after : List Char) :
    here.deepest (before ++ after) =
      max (here.deepest before) ((before.foldl step here).deepest after) := by
  induction before generalizing here with
  | nil =>
      have bound := here.depth_le_deepest after
      simp only [List.nil_append, List.foldl_nil, deepest]
      omega
  | cons found rest ih =>
      simp only [List.cons_append, List.foldl_cons, deepest, ih]
      omega

theorem nesting_le_append (before after : List Char) : nesting before ≤ nesting (before ++ after) := by
  have whole := Surroundings.deepest_append .start before after
  unfold nesting
  omega

theorem depth_foldl_le_nesting (text : List Char) :
    (text.foldl Surroundings.step .start).depth ≤ nesting text := by
  have whole := Surroundings.deepest_append .start text []
  rw [List.append_nil] at whole
  have depth := (text.foldl Surroundings.step .start).depth_le_deepest []
  unfold nesting
  omega

theorem nesting_concat (text : List Char) (found : Char) :
    nesting (text ++ [found]) =
      max (nesting text) ((text.foldl Surroundings.step .start).step found).depth := by
  have before := depth_foldl_le_nesting text
  have whole := Surroundings.deepest_append .start text [found]
  simp only [Surroundings.deepest] at whole
  unfold nesting at before ⊢
  omega

theorem isOperator_of_isDigit {digit : Char} (isDigit : digit.isDigit = true) :
    isOperator digit = false := by
  simp [isOperator, ne_of_isDigit isDigit (show '+'.isDigit = false from rfl),
    ne_of_isDigit isDigit (show '-'.isDigit = false from rfl),
    ne_of_isDigit isDigit (show '*'.isDigit = false from rfl),
    ne_of_isDigit isDigit (show '/'.isDigit = false from rfl)]

theorem Surroundings.step_digit (here : Surroundings) {digit : Char}
    (isDigit : digit.isDigit = true) :
    here.step digit = ⟨here.outer, here.level, 0, false⟩ := by
  simp [step, ne_of_isDigit isDigit (show '('.isDigit = false from rfl),
    ne_of_isDigit isDigit (show ')'.isDigit = false from rfl),
    ne_of_isDigit isDigit (show '-'.isDigit = false from rfl), isOperator_of_isDigit isDigit]

theorem Surroundings.step_operator (outer : List Nat) (level : Nat) (operator : Operator) :
    step ⟨outer, level, 0, false⟩ operator.symbol = ⟨outer, level, 0, true⟩ := by
  cases operator <;> rfl

theorem Surroundings.foldl_signs (outer : List Nat) (level signs count : Nat) :
    (List.replicate count '-').foldl step ⟨outer, level, signs, true⟩ =
      ⟨outer, level, signs + count, true⟩ := by
  induction count generalizing signs with
  | zero => rfl
  | succ count ih =>
      have here : step ⟨outer, level, signs, true⟩ '-' = ⟨outer, level, signs + 1, true⟩ := by
        simp [step]
      have total : signs + 1 + count = signs + (count + 1) := by omega
      rw [List.replicate_succ, List.foldl_cons, here, ih, total]

theorem Surroundings.foldl_bracket (outer : List Nat) (level count : Nat) :
    (List.replicate count '-' ++ ['(']).foldl step ⟨outer, level, 0, true⟩ =
      ⟨level :: outer, level + 3 + count, 0, true⟩ := by
  have opened : step ⟨outer, level, 0 + count, true⟩ '(' = ⟨level :: outer, level + (0 + count) + 3, 0, true⟩ :=
    rfl
  have total : level + (0 + count) + 3 = level + 3 + count := by omega
  rw [List.foldl_append, foldl_signs, List.foldl_cons, opened, total]
  rfl

theorem Surroundings.deepest_digits (outer : List Nat) (level : Nat) (digits rest : List Char)
    (allDigits : ∀ digit ∈ digits, digit.isDigit = true) :
    deepest ⟨outer, level, 0, false⟩ (digits ++ rest) = deepest ⟨outer, level, 0, false⟩ rest := by
  induction digits with
  | nil => rfl
  | cons digit digits ih =>
      simp only [List.cons_append, deepest, step_digit _ (allDigits digit (by simp))]
      rw [ih fun later member => allDigits later (by simp [member])]
      have bound := depth_le_deepest ⟨outer, level, 0, false⟩ rest
      omega

def Level.allowsSigns (level : Level) (signs : Nat) : Prop :=
  match level with
  | .factor => True
  | _ => signs = 0

/-- Passing a derivable text meets the nesting of its tree and returns to the level it began at. -/
theorem Surroundings.deepest_derives {level text tree} (derives : Derives level text tree)
    (outer : List Nat) (depth signs : Nat) (allowed : level.allowsSigns signs) (rest : List Char) :
    deepest ⟨outer, depth, signs, true⟩ (text ++ rest) =
      max (depth + signs + tree.nesting) (deepest ⟨outer, depth, 0, false⟩ rest) := by
  induction derives generalizing outer depth signs rest with
  | @number digits nonempty allDigits =>
      obtain ⟨digit, digits, rfl⟩ := List.exists_cons_of_ne_nil nonempty
      simp only [List.cons_append, deepest, step_digit _ (allDigits digit (by simp)),
        deepest_digits outer depth digits rest fun later member => allDigits later (by simp [member])]
      rfl
  | negate _ ih =>
      have later := ih outer depth (signs + 1) trivial rest
      have here : step ⟨outer, depth, signs, true⟩ '-' = ⟨outer, depth, signs + 1, true⟩ := by
        simp [step]
      simp only [List.cons_append, deepest, here, later, Surroundings.depth, Expr.nesting]
      omega
  | group _ ih =>
      have inner := ih (depth :: outer) (depth + signs + 3) 0 rfl (')' :: rest)
      have opened : step ⟨outer, depth, signs, true⟩ '(' =
          ⟨depth :: outer, depth + signs + 3, 0, true⟩ := rfl
      have closed : step ⟨depth :: outer, depth + signs + 3, 0, false⟩ ')' =
          ⟨outer, depth, 0, false⟩ := rfl
      simp only [List.cons_append, List.append_assoc, List.nil_append, deepest, opened, inner,
        closed, Surroundings.depth, Expr.nesting]
      omega
  | factor _ ih => exact ih outer depth signs trivial rest
  | product _ _ _ leftIh rightIh =>
      rw [List.append_assoc, leftIh outer depth signs allowed, List.cons_append, deepest,
        step_operator, rightIh outer depth 0 trivial]
      simp only [Level.allowsSigns] at allowed
      simp only [Surroundings.depth, Expr.nesting]
      omega
  | term _ ih => exact ih outer depth signs allowed rest
  | sum _ _ _ leftIh rightIh =>
      rw [List.append_assoc, leftIh outer depth signs allowed, List.cons_append, deepest,
        step_operator, rightIh outer depth 0 rfl]
      simp only [Level.allowsSigns] at allowed
      simp only [Surroundings.depth, Expr.nesting]
      omega

theorem Surroundings.foldl_digits (outer : List Nat) (level : Nat) (digits : List Char)
    (allDigits : ∀ digit ∈ digits, digit.isDigit = true) :
    digits.foldl step ⟨outer, level, 0, false⟩ = ⟨outer, level, 0, false⟩ := by
  induction digits with
  | nil => rfl
  | cons digit digits ih =>
      rw [List.foldl_cons, step_digit _ (allDigits digit (by simp))]
      exact ih fun later member => allDigits later (by simp [member])

theorem Surroundings.foldl_derives {level text tree} (derives : Derives level text tree)
    (outer : List Nat) (depth signs : Nat) :
    text.foldl step ⟨outer, depth, signs, true⟩ = ⟨outer, depth, 0, false⟩ := by
  induction derives generalizing outer depth signs with
  | @number digits nonempty allDigits =>
      obtain ⟨digit, digits, rfl⟩ := List.exists_cons_of_ne_nil nonempty
      rw [List.foldl_cons, step_digit _ (allDigits digit (by simp))]
      exact foldl_digits outer depth digits fun later member => allDigits later (by simp [member])
  | negate _ ih => exact ih outer depth (signs + 1)
  | group _ ih =>
      have inner := ih (depth :: outer) (depth + signs + 3) 0
      have opened : step ⟨outer, depth, signs, true⟩ '(' =
          ⟨depth :: outer, depth + signs + 3, 0, true⟩ := rfl
      rw [List.cons_append, List.foldl_cons, opened, List.foldl_append, inner]
      rfl
  | factor _ ih => exact ih outer depth signs
  | product _ _ _ leftIh rightIh =>
      rw [List.foldl_append, leftIh, List.foldl_cons, step_operator, rightIh]
  | term _ ih => exact ih outer depth signs
  | sum _ _ _ leftIh rightIh =>
      rw [List.foldl_append, leftIh, List.foldl_cons, step_operator, rightIh]

theorem Derives.nesting_eq {text tree} (derives : Derives .expression text tree) :
    nesting text = tree.nesting := by
  have whole := Surroundings.deepest_derives derives [] 0 0 rfl []
  rw [List.append_nil] at whole
  rw [nesting, Surroundings.start, whole]
  simp [Surroundings.deepest, Surroundings.depth]

end TenPuzzle
