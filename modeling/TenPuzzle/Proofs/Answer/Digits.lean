import TenPuzzle.Proofs.Answer.Judgement
import TenPuzzle.Proofs.Expression.Nesting

/-!
What the checks of an answer say about its syntax tree: it has no signs, and its numbers are the
digits of the problem, one at a time and in order.
-/

namespace TenPuzzle

def Expr.numbers : Expr → List (List Char)
  | .number digits => [digits]
  | .negate operand => operand.numbers
  | .group inner => inner.numbers
  | .binary _ left right => left.numbers ++ right.numbers

def Expr.hasSign : Expr → Bool
  | .number _ => false
  | .negate _ => true
  | .group inner => inner.hasSign
  | .binary _ left right => left.hasSign || right.hasSign

theorem isSigned_digits (digits rest : List Char) (allDigits : ∀ digit ∈ digits, digit.isDigit = true) :
    isSigned false (digits ++ rest) = isSigned false rest := by
  induction digits with
  | nil => rfl
  | cons digit digits ih =>
      have isDigit := allDigits digit (by simp)
      have noBracket := ne_of_isDigit isDigit (show '('.isDigit = false from rfl)
      simp only [List.cons_append, isSigned, isOperator_of_isDigit isDigit, noBracket, Bool.false_and,
        Bool.false_or, decide_false]
      exact ih fun later member => allDigits later (by simp [member])

theorem isSigned_symbol (operator : Operator) (rest : List Char) :
    isSigned false (operator.symbol :: rest) = isSigned true rest := by
  cases operator <;> rfl

/-- A minus that stands for a sign shows exactly where a tree has one. -/
theorem Derives.isSigned_append {level text tree} (derives : Derives level text tree)
    (rest : List Char) : isSigned true (text ++ rest) = (tree.hasSign || isSigned false rest) := by
  induction derives generalizing rest with
  | @number digits nonempty allDigits =>
      obtain ⟨digit, digits, rfl⟩ := List.exists_cons_of_ne_nil nonempty
      have isDigit := allDigits digit (by simp)
      have noBracket := ne_of_isDigit isDigit (show '('.isDigit = false from rfl)
      have noMinus := ne_of_isDigit isDigit (show '-'.isDigit = false from rfl)
      simp only [List.cons_append, isSigned, isOperator_of_isDigit isDigit, noBracket, noMinus,
        Expr.hasSign, Bool.true_and, Bool.false_or, decide_false]
      exact isSigned_digits digits rest fun later member => allDigits later (by simp [member])
  | negate _ _ => simp [isSigned, Expr.hasSign]
  | @group text _ _ ih =>
      have inner := ih (')' :: rest)
      simp only [List.cons_append, List.append_assoc, List.nil_append]
      change isSigned true (text ++ ')' :: rest) = _
      rw [inner]
      rfl
  | factor _ ih => exact ih rest
  | product _ _ _ leftIh rightIh =>
      rw [List.append_assoc, leftIh, List.cons_append, isSigned_symbol, rightIh, Expr.hasSign, Bool.or_assoc]
  | term _ ih => exact ih rest
  | sum _ _ _ leftIh rightIh =>
      rw [List.append_assoc, leftIh, List.cons_append, isSigned_symbol, rightIh, Expr.hasSign, Bool.or_assoc]

theorem isDecimalDigit_of_isDigit {digit : Char} (isDigit : digit.isDigit = true) :
    Text.isDecimalDigit digit = true := by
  have bounds : 48 ≤ digit.toNat ∧ digit.toNat ≤ 57 := by
    simpa [Char.isDigit, UInt32.le_iff_toNat_le] using isDigit
  have first : (48 ≤ digit.toNat && digit.toNat < 48 + 10) = true := by
    simp
    omega
  simp [Text.isDecimalDigit, Text.digitValue?, Text.decimalZeros, first]

theorem symbol_isDecimalDigit (operator : Operator) : Text.isDecimalDigit operator.symbol = false := by
  cases operator <;> decide

theorem symbol_ends {operator : Operator} {after later : List Char} {first : Char}
    (same : operator.symbol :: after = first :: later) : Text.isDecimalDigit first = false := by
  cases same
  exact symbol_isDecimalDigit operator

theorem runsFrom_digits (run digits rest : List Char)
    (allDigits : ∀ digit ∈ digits, Text.isDecimalDigit digit = true) :
    Text.digitRuns.runsFrom run (digits ++ rest) = Text.digitRuns.runsFrom (digits.reverse ++ run) rest := by
  induction digits generalizing run with
  | nil => rfl
  | cons digit digits ih =>
      rw [List.cons_append, Text.digitRuns.runsFrom, if_pos (allDigits digit (by simp)),
        ih (digit :: run) fun later member => allDigits later (by simp [member])]
      simp

theorem digitRuns_other {other : Char} (notDigit : Text.isDecimalDigit other = false) (rest : List Char) :
    Text.digitRuns (other :: rest) = Text.digitRuns rest := by
  simp [Text.digitRuns, Text.digitRuns.runsFrom, Text.digitRuns.close, notDigit]

theorem digitRuns_digits {digits rest : List Char} (nonempty : digits ≠ [])
    (allDigits : ∀ digit ∈ digits, Text.isDecimalDigit digit = true)
    (ends : ∀ first later, rest = first :: later → Text.isDecimalDigit first = false) :
    Text.digitRuns (digits ++ rest) = digits :: Text.digitRuns rest := by
  unfold Text.digitRuns
  rw [runsFrom_digits [] digits rest allDigits, List.append_nil]
  cases rest with
  | nil => simp [Text.digitRuns.runsFrom, Text.digitRuns.close, nonempty]
  | cons first later =>
      have notDigit := ends first later rfl
      simp [Text.digitRuns.runsFrom, Text.digitRuns.close, notDigit, nonempty]

theorem Derives.digitRuns_append {level text tree} (derives : Derives level text tree)
    {rest : List Char} (ends : ∀ first later, rest = first :: later → Text.isDecimalDigit first = false) :
    Text.digitRuns (text ++ rest) = tree.numbers ++ Text.digitRuns rest := by
  induction derives generalizing rest with
  | number nonempty allDigits =>
      exact digitRuns_digits nonempty (fun digit member => isDecimalDigit_of_isDigit (allDigits digit member)) ends
  | negate _ ih =>
      rw [List.cons_append, digitRuns_other (by decide), ih ends]
      rfl
  | @group text _ _ ih =>
      have bracket : ∀ first later, ')' :: rest = first :: later → Text.isDecimalDigit first = false := by
        intro first later same
        cases same
        decide
      rw [List.cons_append, List.cons_append, digitRuns_other (by decide), List.append_assoc,
        List.cons_append, List.nil_append, ih bracket, digitRuns_other (by decide)]
      rfl
  | factor _ ih => exact ih ends
  | product _ _ _ leftIh rightIh =>
      rw [List.append_assoc, List.cons_append, leftIh fun _ _ => symbol_ends,
        digitRuns_other (symbol_isDecimalDigit _), rightIh ends, Expr.numbers, List.append_assoc]
  | term _ ih => exact ih ends
  | sum _ _ _ leftIh rightIh =>
      rw [List.append_assoc, List.cons_append, leftIh fun _ _ => symbol_ends,
        digitRuns_other (symbol_isDecimalDigit _), rightIh ends, Expr.numbers, List.append_assoc]

theorem Derives.numbers_digits {level text tree} (derives : Derives level text tree) :
    ∀ digits ∈ tree.numbers, digits ≠ [] ∧ ∀ digit ∈ digits, digit.isDigit = true := by
  induction derives with
  | number nonempty allDigits => simpa [Expr.numbers] using ⟨nonempty, allDigits⟩
  | negate _ ih => exact ih
  | group _ ih => exact ih
  | factor _ ih => exact ih
  | product _ _ _ leftIh rightIh =>
      intro digits member
      rcases List.mem_append.mp member with inLeft | inRight
      · exact leftIh digits inLeft
      · exact rightIh digits inRight
  | term _ ih => exact ih
  | sum _ _ _ leftIh rightIh =>
      intro digits member
      rcases List.mem_append.mp member with inLeft | inRight
      · exact leftIh digits inLeft
      · exact rightIh digits inRight

theorem eq_map_singleton {runs : List (List α)} (single : ∀ run ∈ runs, run.length = 1) :
    runs = runs.flatten.map fun digit => [digit] := by
  induction runs with
  | nil => rfl
  | cons run runs ih =>
      obtain ⟨digit, rfl⟩ := List.length_eq_one_iff.mp (single run (by simp))
      have later := ih fun other member => single other (by simp [member])
      simpa using later

theorem Admissible.shape {text : List Char} {problem : String} (admissible : Admissible text problem) :
    isSigned true (normalize text) = false ∧ ∀ run ∈ Text.digitRuns (normalize text), run.length ≤ 1 := by
  have plain := admissible.plain
  unfold plainFault? shapeFault? at plain
  split at plain
  · simp at plain
  · rw [Option.or_eq_none_iff] at plain
    obtain ⟨_, shaped⟩ := plain
    split at shaped
    · simp at shaped
    · next unsigned =>
        refine ⟨by simpa using unsigned, ?_⟩
        simpa using shaped

theorem Admissible.used {text : List Char} {problem : String} (admissible : Admissible text problem) :
    (Text.digitRuns (normalize text)).flatten = problem.toList := by
  have digits := admissible.digits
  by_cases same : (Text.digitRuns (normalize text)).flatten = problem.toList
  · exact same
  · simp only [digitsFault?, ne_eq, same, not_false_eq_true, if_true] at digits
    split at digits <;> simp at digits

theorem Admissible.hasSign {text : List Char} {problem : String} {tree : Expr}
    (admissible : Admissible text problem) (derives : Derives .expression (normalize text) tree) :
    tree.hasSign = false := by
  have signed := derives.isSigned_append []
  rw [List.append_nil, admissible.shape.1] at signed
  simpa [isSigned] using signed.symm

/-- The numbers in the tree of an admissible answer are the digits of the problem. -/
theorem Derives.digitRuns_eq {text tree} (derives : Derives .expression text tree) :
    Text.digitRuns text = tree.numbers := by
  have runs := @Derives.digitRuns_append _ _ _ derives [] (by simp)
  rwa [List.append_nil, show Text.digitRuns [] = [] from rfl, List.append_nil] at runs

theorem Admissible.numbers {text : List Char} {problem : String} {tree : Expr}
    (admissible : Admissible text problem) (derives : Derives .expression (normalize text) tree) :
    tree.numbers = problem.toList.map fun digit => [digit] := by
  rw [← admissible.used, derives.digitRuns_eq]
  apply eq_map_singleton
  intro digits member
  have short := admissible.shape.2 digits (by rwa [derives.digitRuns_eq])
  have nonempty := List.length_pos_iff.mpr (derives.numbers_digits digits member).1
  omega

end TenPuzzle
