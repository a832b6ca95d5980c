import Mathlib.Tactic.IntervalCases
import TenPuzzle.Proofs.Expression.Evaluation
import TenPuzzle.Proofs.Solver.Bracketing
import TenPuzzle.Proofs.Text.Integer
import TenPuzzle.Solver

/-!
The search for a solution misses nothing: whatever value an accepted answer has, a candidate has it.
-/

namespace TenPuzzle

def IsProblem (problem : String) : Prop :=
  problem.toList.length = 4 ∧ ∀ digit ∈ problem.toList, digit.isDigit = true

instance (problem : String) : Decidable (IsProblem problem) :=
  @instDecidableAnd _ _ _ (List.decidableBAll _ _)

theorem repr_digit {digit : Char} (isDigit : digit.isDigit = true) :
    (Int.repr (Number.valueOfDigits [digit])).toList = [digit] := by
  have bounds : 48 ≤ digit.toNat ∧ digit.toNat ≤ 57 := by
    simpa [Char.isDigit, UInt32.le_iff_toNat_le] using isDigit
  obtain ⟨offset, isOffset, small⟩ : ∃ offset, digit.toNat = 48 + offset ∧ offset < 10 :=
    ⟨digit.toNat - 48, by omega, by omega⟩
  have isDigit : digit = Char.ofNat (48 + offset) := by
    rw [← isOffset, Char.ofNat_toNat]
  subst isDigit
  interval_cases offset <;> decide

theorem digitsOf_problem {problem : String} (isProblem : IsProblem problem) :
    ∃ characters : Four Char, problem.toList = characters.toList ∧
      (∀ digit ∈ characters.toList, digit.isDigit = true) ∧
      digitsOf problem = .ok (characters.map fun digit => (Number.valueOfDigits [digit] : Int)) := by
  obtain ⟨four, allDigits⟩ := isProblem
  obtain ⟨first, second, third, fourth, isList⟩ := List.length_eq_four.mp four
  rw [isList] at allDigits
  refine ⟨⟨first, second, third, fourth⟩, isList, allDigits, ?_⟩
  simp only [List.mem_cons, List.not_mem_nil, or_false, forall_eq_or_imp, forall_eq] at allDigits
  simp [digitsOf, isList, allDigits]

theorem candidates_eq (operands : Four Int) :
    candidates operands.toList =
      if operands.toList.any Text.isTooLong then .error .tooLong else .ok (candidatesOf operands) := by
  obtain ⟨first, second, third, fourth⟩ := operands
  rw [Four.toList, candidates]

theorem candidates_of_short {operands : Four Int} (short : ∀ operand ∈ operands.toList, IsShort operand) :
    candidates operands.toList = .ok (candidatesOf operands) := by
  rw [candidates_eq, if_neg]
  simpa only [List.any_eq_true, not_exists, not_and, Bool.not_eq_true, isTooLong_eq_false] using short

theorem candidates_of_digits {problem : String} {digits : Four Int} (isDigits : digitsOf problem = .ok digits) :
    candidates digits.toList = .ok (candidatesOf digits) := by
  unfold digitsOf at isDigits
  split at isDigits
  · split at isDigits
    · next allDigits =>
        cases isDigits
        simp only [Bool.and_eq_true] at allDigits
        obtain ⟨⟨⟨first, second⟩, third⟩, fourth⟩ := allDigits
        apply candidates_of_short
        simp only [Four.map, Four.toList, List.forall_mem_cons]
        exact ⟨isShort_digit first, isShort_digit second, isShort_digit third, isShort_digit fourth,
          fun operand member => nomatch member⟩
    · cases isDigits
  · cases isDigits

theorem solution_of_digits [DepthLimit] {problem : String} {digits : Four Int}
    (isDigits : digitsOf problem = .ok digits) :
    solution? problem = .ok ((candidatesOf digits).find? fun candidate => reachesTarget candidate.toList) := by
  have all := candidates_of_digits isDigits
  unfold solution?
  simp only [isDigits, all, bind, Except.bind]

theorem render_toList (shape : Shape) {characters : Four Char} (operators : Three Operator)
    (allDigits : ∀ digit ∈ characters.toList, digit.isDigit = true) :
    (shape.render ((characters.map fun digit => (Number.valueOfDigits [digit] : Int)).map toString)
      (operators.map fun operator => operator.symbol.toString)).toList = shape.text characters operators := by
  simp only [Four.toList, List.mem_cons, List.not_mem_nil, or_false, forall_eq_or_imp, forall_eq] at allDigits
  obtain ⟨first, second, third, fourth⟩ := allDigits
  simp [Shape.render, Shape.text, Slot.render, Slot.text, Four.map, Three.map, repr_digit first,
    repr_digit second, repr_digit third, repr_digit fourth]

theorem mem_operatorTriples (operators : Three Operator) : operators ∈ operatorTriples := by
  obtain ⟨first, second, third⟩ := operators
  cases first <;> cases second <;> cases third <;> decide

theorem text_mem_candidates {shape : Shape} {characters : Four Char} (operators : Three Operator)
    (member : shape ∈ Shape.all) (allDigits : ∀ digit ∈ characters.toList, digit.isDigit = true) :
    ∃ candidate ∈ candidatesOf (characters.map fun digit => (Number.valueOfDigits [digit] : Int)),
      candidate.toList = shape.text characters operators := by
  refine ⟨_, ?_, render_toList shape operators allDigits⟩
  simp only [candidatesOf, List.mem_flatMap, List.mem_map]
  exact ⟨operators, mem_operatorTriples operators, shape, member, rfl⟩

/-- The value of an accepted answer is the value of a candidate. -/
theorem candidate_of_result [DepthLimit] {problem : String} {characters : Four Char} {text : List Char} {value : Float}
    (isList : problem.toList = characters.toList)
    (allDigits : ∀ digit ∈ characters.toList, digit.isDigit = true)
    (result : (judge text problem).result? = some value) :
    ∃ candidate ∈ candidatesOf (characters.map fun digit => (Number.valueOfDigits [digit] : Int)),
      evaluate candidate.toList = .ok value := by
  obtain ⟨admissible, evaluates⟩ := result_eq_some_iff.mp result
  obtain ⟨tree, derives, isValue⟩ := computeIn_sound evaluates
  rw [withoutBlanks_normalize] at derives
  have unsigned := admissible.hasSign derives
  have numbers := admissible.numbers derives
  rw [isList] at numbers
  obtain ⟨shape, member, operators, isText⟩ := bracketed_shape characters unsigned numbers
  obtain ⟨candidate, isCandidate, isRendered⟩ := text_mem_candidates operators member allDigits
  refine ⟨candidate, isCandidate, ?_⟩
  have canonical := derives_bracketed derives.numbers_digits
  have shallow : nesting tree.bracketed.text ≤ depthLimit := by
    have bound := bracketed_nesting unsigned
    rw [numbers] at bound
    rw [canonical.nesting_eq]
    exact Nat.le_trans bound DepthLimit.enough
  rw [isRendered, ← isText, evaluate, canonical.computeIn_text .floats shallow, outcome_eq_ok,
    bracketed_value fun _ => rfl]
  exact isValue

/-- The solver is complete for the game. An accepted answer to a problem has the value of one of the
candidates; so a problem with a correct answer has a solution, and a problem without a solution has
no correct answer. -/
theorem solver_complete [DepthLimit] (problem : String) (isProblem : IsProblem problem) :
    ∃ digits, digitsOf problem = .ok digits ∧ ∀ text,
      (∀ value, (judge text problem).result? = some value →
        ∃ candidate ∈ candidatesOf digits, evaluate candidate.toList = .ok value) ∧
      ((judge text problem).isCorrect = true → ∃ solution, solution? problem = .ok (some solution)) ∧
      (solution? problem = .ok none → (judge text problem).isCorrect = false) := by
  obtain ⟨characters, isList, allDigits, isDigits⟩ := digitsOf_problem isProblem
  have solves : ∀ text, (judge text problem).isCorrect = true →
      ∃ solution, solution? problem = .ok (some solution) := by
    intro text correct
    obtain ⟨value, result, reached⟩ := (isCorrect_iff text problem).mp correct
    obtain ⟨candidate, isCandidate, evaluates⟩ := candidate_of_result isList allDigits result
    have hits : reachesTarget candidate.toList = true := by
      rw [reachesTarget, evaluates]
      exact reached
    obtain ⟨solution, isSolution⟩ := Option.isSome_iff_exists.mp
      (List.find?_isSome.mpr (show ∃ found ∈ candidatesOf _, reachesTarget found.toList = true from
        ⟨candidate, isCandidate, hits⟩))
    exact ⟨solution, (solution_of_digits isDigits).trans (congrArg Except.ok isSolution)⟩
  refine ⟨_, isDigits, ?_⟩
  intro text
  refine ⟨fun value result => candidate_of_result isList allDigits result, solves text, ?_⟩
  intro unsolved
  cases correct : (judge text problem).isCorrect with
  | false => rfl
  | true =>
      obtain ⟨solution, solved⟩ := solves text correct
      rw [unsolved] at solved
      cases solved

section

attribute [local instance] DepthLimit.standard

theorem solver_complete_of_one_to_four :
    IsProblem "1234" ∧ ∃ solution, solution? "1234" = .ok (some solution) := by
  have isProblem : IsProblem "1234" := by decide
  obtain ⟨_, _, complete⟩ := solver_complete "1234" isProblem
  obtain ⟨_, solves, _⟩ := complete "((1 + 2) + 3 + (4))".toList
  exact ⟨isProblem, solves (by decide +kernel)⟩

end

end TenPuzzle
