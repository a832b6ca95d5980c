import TenPuzzle.Proofs.Answer.Digits
import TenPuzzle.Proofs.Expression.Evaluation

/-!
Legal answers. The checks of an answer look at its characters only; on texts that the grammar derives
they accept exactly the trees without signs whose numbers are the digits of the problem.
-/

namespace TenPuzzle

structure Expr.IsLegal (tree : Expr) (problem : String) : Prop where
  unsigned : tree.hasSign = false
  numbers : tree.numbers = problem.toList.map fun digit => [digit]

theorem isAllowed_symbol (operator : Operator) : isAllowed operator.symbol = true := by
  cases operator <;> rfl

theorem isOperator_symbol (operator : Operator) : isOperator operator.symbol = true := by
  cases operator <;> rfl

theorem Derives.isAllowed {level text tree} (derives : Derives level text tree) :
    ∀ character ∈ text, isAllowed character = true := by
  induction derives with
  | number _ allDigits =>
      intro digit member
      simp [TenPuzzle.isAllowed, allDigits digit member]
  | negate _ ih => simpa [isAllowed_symbol .sub] using ⟨isAllowed_symbol .sub, ih⟩
  | group _ ih =>
      have brackets : TenPuzzle.isAllowed '(' = true ∧ TenPuzzle.isAllowed ')' = true := ⟨rfl, rfl⟩
      intro character member
      rcases List.mem_append.mp member with inside | last
      · rcases List.mem_cons.mp inside with rfl | inside
        · exact brackets.1
        · exact ih character inside
      · rw [List.mem_singleton.mp last]
        exact brackets.2
  | factor _ ih => exact ih
  | product _ _ _ leftIh rightIh =>
      simp only [List.mem_append, List.mem_cons]
      rintro character (inLeft | rfl | inRight)
      · exact leftIh character inLeft
      · exact isAllowed_symbol _
      · exact rightIh character inRight
  | term _ ih => exact ih
  | sum _ _ _ leftIh rightIh =>
      simp only [List.mem_append, List.mem_cons]
      rintro character (inLeft | rfl | inRight)
      · exact leftIh character inLeft
      · exact isAllowed_symbol _
      · exact rightIh character inRight

/-- Between two numbers of a derivable text stands an operator. -/
theorem Derives.numbers_le {level text tree} (derives : Derives level text tree) :
    tree.numbers.length ≤ text.countP isOperator + 1 := by
  induction derives with
  | number _ _ => simp [Expr.numbers]
  | negate _ ih =>
      rw [Expr.numbers, List.countP_cons]
      omega
  | group _ ih =>
      rw [Expr.numbers, List.countP_append, List.countP_cons]
      omega
  | factor _ ih => exact ih
  | product _ _ _ leftIh rightIh =>
      rw [Expr.numbers, List.length_append, List.countP_append, List.countP_cons,
        if_pos (isOperator_symbol _)]
      omega
  | term _ ih => exact ih
  | sum _ _ _ leftIh rightIh =>
      rw [Expr.numbers, List.length_append, List.countP_append, List.countP_cons,
        if_pos (isOperator_symbol _)]
      omega

section

variable {text : List Char} {tree : Expr} {problem : String}

theorem Expr.IsLegal.plainFault (legal : tree.IsLegal problem) (derives : Derives .expression text tree) :
    plainFault? text = none := by
  have unsigned := derives.isSigned_append []
  rw [List.append_nil, legal.unsigned] at unsigned
  have single : ∀ run ∈ Text.digitRuns text, run.length ≤ 1 := by
    rw [derives.digitRuns_eq, legal.numbers]
    simp
  have shaped : shapeFault? text = none := by
    rw [shapeFault?, unsigned]
    simpa [isSigned] using single
  have permitted : forbidden? text = none := by
    rw [forbidden?, Option.map_eq_none_iff, List.find?_eq_none]
    intro character member
    simp [derives.isAllowed character member]
  rw [plainFault?, shaped, permitted]
  simp [derives.text_ne_nil]

theorem Expr.IsLegal.digitsFault (legal : tree.IsLegal problem) (derives : Derives .expression text tree) :
    digitsFault? text problem = none := by
  have used : (Text.digitRuns text).flatten = problem.toList := by
    rw [derives.digitRuns_eq, legal.numbers, ← List.flatMap_def]
    exact List.flatMap_singleton' problem.toList
  have operators := derives.numbers_le
  rw [legal.numbers, List.length_map, String.length_toList] at operators
  rw [digitsFault?, used, if_neg (fun differ => differ rfl), if_neg (by omega)]

theorem admissible_of_legal (legal : tree.IsLegal problem)
    (derives : Derives .expression (normalize text) tree) : Admissible text problem :=
  ⟨legal.plainFault derives, legal.digitsFault derives⟩

theorem Admissible.isLegal (admissible : Admissible text problem)
    (derives : Derives .expression (normalize text) tree) : tree.IsLegal problem :=
  ⟨admissible.hasSign derives, admissible.numbers derives⟩

end

theorem result_fields [DepthLimit] {text : List Char} {problem : String} {value : Float}
    (result : (judge text problem).result? = some value) :
    (judge text problem).isValid = true ∧ (judge text problem).error? = none ∧
      (judge text problem).isCorrect = reachesTarget (normalize text) := by
  have valid := isValid_of_result result
  obtain ⟨admissible, evaluates⟩ := result_eq_some_iff.mp result
  refine ⟨valid, ?_, ?_⟩
  · rw [Answer.error?, admissible.verdict, valueOf, evaluates]
  · rw [Answer.isCorrect, result, reachesTarget, evaluates]

/-- An answer has a result exactly if its normal form is derivable with a legal tree, and the result
is the value of that tree. Such an answer is valid and without an error, and it is correct exactly if
the normal form evaluates to the target. -/
theorem result_legal [DepthLimit] (text : List Char) (problem : String)
    (shallow : nesting (normalize text) ≤ depthLimit) (value : Float) :
    ((judge text problem).result? = some value ↔
      ∃ tree, Derives .expression (normalize text) tree ∧ tree.IsLegal problem ∧
        tree.value .floats = some value) ∧
    ((judge text problem).result? = some value →
      (judge text problem).isValid = true ∧ (judge text problem).error? = none ∧
        (judge text problem).isCorrect = reachesTarget (normalize text)) := by
  refine ⟨?_, result_fields⟩
  constructor
  · intro result
    obtain ⟨admissible, evaluates⟩ := result_eq_some_iff.mp result
    obtain ⟨tree, derives, isValue⟩ := computeIn_sound evaluates
    rw [withoutBlanks_normalize] at derives
    exact ⟨tree, derives, admissible.isLegal derives, isValue⟩
  · rintro ⟨tree, derives, legal, isValue⟩
    have evaluates := derives.computeIn_text .floats shallow
    rw [outcome_eq_ok.mpr isValue] at evaluates
    exact result_eq_some_iff.mpr ⟨admissible_of_legal legal derives, evaluates⟩

section

attribute [local instance] DepthLimit.standard

theorem result_legal_of_quotient :
    nesting (normalize "8 ÷ (1 − 2 x 3)".toList) ≤ depthLimit ∧
      (judge "8 ÷ (1 − 2 x 3)".toList "8123").error? = none ∧
      ∃ tree, Derives .expression "8/(1-2*3)".toList tree ∧ tree.IsLegal "8123" ∧
        tree.value .floats = some (-1.6) := by
  have shallow : nesting (normalize "8 ÷ (1 − 2 x 3)".toList) ≤ depthLimit := by decide +kernel
  have isResult : (judge "8 ÷ (1 − 2 x 3)".toList "8123").result? = some (-1.6) := by decide +kernel
  obtain ⟨legal, fields⟩ := result_legal "8 ÷ (1 − 2 x 3)".toList "8123" shallow (-1.6)
  exact ⟨shallow, (fields isResult).2.1, legal.mp isResult⟩

end

end TenPuzzle
