import TenPuzzle.Expression.Basic

/-!
The grammar of expressions, as derivations of texts together with the syntax trees they build. A
chain of operators of one strength associates to the left.
-/

namespace TenPuzzle

def Operator.isSum : Operator → Bool
  | .add | .sub => true
  | .mul | .div => false

inductive Level where
  | expression
  | term
  | factor

/-- expression := term (('+' | '-') term)*, term := factor (('*' | '/') factor)*,
factor := '(' expression ')' | '-' factor | [0-9]+ -/
inductive Derives : Level → List Char → Expr → Prop
  | number {digits} : digits ≠ [] → (∀ digit ∈ digits, digit.isDigit = true) →
      Derives .factor digits (.number digits)
  | negate {text tree} : Derives .factor text tree → Derives .factor ('-' :: text) (.negate tree)
  | group {text tree} : Derives .expression text tree →
      Derives .factor ('(' :: text ++ [')']) (.group tree)
  | factor {text tree} : Derives .factor text tree → Derives .term text tree
  | product {operator leftText left rightText right} : operator.isSum = false →
      Derives .term leftText left → Derives .factor rightText right →
      Derives .term (leftText ++ operator.symbol :: rightText) (.binary operator left right)
  | term {text tree} : Derives .term text tree → Derives .expression text tree
  | sum {operator leftText left rightText right} : operator.isSum = true →
      Derives .expression leftText left → Derives .term rightText right →
      Derives .expression (leftText ++ operator.symbol :: rightText) (.binary operator left right)

def Derivable (text : List Char) : Prop :=
  ∃ tree, Derives .expression text tree

theorem Derives.text_eq {level text tree} (derives : Derives level text tree) :
    tree.text = text := by
  induction derives with
  | number _ _ => rfl
  | negate _ ih => simp [Expr.text, ih]
  | group _ ih => simp [Expr.text, ih]
  | factor _ ih => exact ih
  | product _ _ _ leftIh rightIh => simp [Expr.text, leftIh, rightIh]
  | term _ ih => exact ih
  | sum _ _ _ leftIh rightIh => simp [Expr.text, leftIh, rightIh]

theorem Derives.text_ne_nil {level text tree} (derives : Derives level text tree) :
    text ≠ [] := by
  induction derives with
  | number nonempty _ => exact nonempty
  | factor _ ih => exact ih
  | term _ ih => exact ih
  | negate _ _ => simp
  | group _ _ => simp
  | product _ _ _ _ _ => simp
  | sum _ _ _ _ _ => simp

theorem Derives.apply (operator : Operator) {leftText left rightText right}
    (leftDerives : Derives .factor leftText left) (rightDerives : Derives .factor rightText right) :
    Derives .expression (leftText ++ operator.symbol :: rightText) (.binary operator left right) := by
  cases strength : operator.isSum with
  | true => exact .sum strength (.term (.factor leftDerives)) (.factor rightDerives)
  | false => exact .term (.product strength (.factor leftDerives) rightDerives)

/-- How deep brackets and signs lie in a tree; a bracket weighs three and a sign one. -/
def Expr.nesting : Expr → Nat
  | .number _ => 0
  | .negate operand => operand.nesting + 1
  | .group inner => inner.nesting + 3
  | .binary _ left right => max left.nesting right.nesting

def Expr.divisors : Expr → List Expr
  | .number _ => []
  | .negate operand => operand.divisors
  | .group inner => inner.divisors
  | .binary .div left right => left.divisors ++ right.divisors ++ [right]
  | .binary _ left right => left.divisors ++ right.divisors

@[simp] theorem symbol_isDigit (operator : Operator) : operator.symbol.isDigit = false := by
  cases operator <;> rfl

theorem ne_of_isDigit {digit other : Char} (isDigit : digit.isDigit = true)
    (otherwise : other.isDigit = false) : digit ≠ other := by
  rintro rfl
  simp [isDigit] at otherwise

def StartsNoDigit (text : List Char) : Prop :=
  ∀ first rest, text = first :: rest → first.isDigit = false

theorem startsNoDigit_nil : StartsNoDigit [] := by
  intro first rest impossible
  simp at impossible

theorem startsNoDigit_cons {first : Char} {rest : List Char} (otherwise : first.isDigit = false) :
    StartsNoDigit (first :: rest) := by
  intro head tail same
  simp only [List.cons.injEq] at same
  rw [← same.1]
  exact otherwise

def Separate (text rest : List Char) : Prop :=
  ∀ last, text.getLast? = some last → last.isDigit = true → StartsNoDigit rest

theorem StartsNoDigit.separate {rest : List Char} (starts : StartsNoDigit rest) (text : List Char) :
    Separate text rest :=
  fun _ _ _ => starts

theorem Separate.of_append {before text rest : List Char}
    (separate : Separate (before ++ text) rest) : Separate text rest := by
  intro last isLast
  apply separate last
  rw [List.getLast?_append, isLast]
  rfl

theorem Separate.of_cons {first : Char} {text rest : List Char}
    (separate : Separate (first :: text) rest) : Separate text rest :=
  @Separate.of_append [first] text rest separate

theorem Separate.startsNoDigit {digits rest : List Char} (separate : Separate digits rest)
    (nonempty : digits ≠ []) (allDigits : ∀ digit ∈ digits, digit.isDigit = true) :
    StartsNoDigit rest := by
  apply separate (digits.getLast nonempty)
  · exact List.getLast?_eq_some_getLast nonempty
  · exact allDigits _ (List.getLast_mem nonempty)

end TenPuzzle
