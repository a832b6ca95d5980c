import TenPuzzle.Proofs.Answer.Legality
import TenPuzzle.Proofs.Solver.Completeness

/-!
Solutions can be played. What the search finds is the first candidate that makes the target, and an answer that
is written like it is accepted as it stands.
-/

namespace TenPuzzle

/-! Candidates as answers. -/

theorem isSigned_opened (count : Nat) (rest : List Char) :
    isSigned true (List.replicate count '(' ++ rest) = isSigned true rest := by
  induction count with
  | zero => rfl
  | succ count ih => exact ih

theorem isSigned_closed (count : Nat) (rest : List Char) :
    isSigned false (List.replicate count ')' ++ rest) = isSigned false rest := by
  induction count with
  | zero => rfl
  | succ count ih => exact ih

theorem digitRuns_brackets {bracket : Char} (notDigit : Text.isDecimalDigit bracket = false) (count : Nat)
    (rest : List Char) : Text.digitRuns (List.replicate count bracket ++ rest) = Text.digitRuns rest := by
  induction count with
  | zero => rfl
  | succ count ih => rw [List.replicate_succ, List.cons_append, digitRuns_other notDigit, ih]

section

variable {digit : Char} (isDigit : digit.isDigit = true)

include isDigit

theorem isSigned_slot (slot : Slot) (rest : List Char) :
    isSigned true (slot.text [digit] ++ rest) = isSigned false rest := by
  have here (after : List Char) : isSigned true ([digit] ++ after) = isSigned false after := by
    have noMinus := ne_of_isDigit isDigit (show '-'.isDigit = false from rfl)
    have noBracket := ne_of_isDigit isDigit (show '('.isDigit = false from rfl)
    simp [isSigned, isOperator_of_isDigit isDigit, noMinus, noBracket]
  rw [Slot.text, List.append_assoc, List.append_assoc, isSigned_opened, here, isSigned_closed]

theorem digitRuns_slot (slot : Slot) {rest : List Char}
    (ends : ∀ first later, rest = first :: later → Text.isDecimalDigit first = false) :
    Text.digitRuns (slot.text [digit] ++ rest) = [digit] :: Text.digitRuns rest := by
  have closes : ∀ first later, List.replicate slot.closed ')' ++ rest = first :: later →
      Text.isDecimalDigit first = false := by
    intro first later same
    cases count : slot.closed with
    | zero =>
        rw [count] at same
        exact ends first later same
    | succ count' =>
        rw [count, List.replicate_succ] at same
        cases same
        decide
  have decimal : ∀ other ∈ [digit], Text.isDecimalDigit other = true := by
    simpa using isDecimalDigit_of_isDigit isDigit
  rw [Slot.text, List.append_assoc, List.append_assoc, digitRuns_brackets (by decide),
    digitRuns_digits (List.cons_ne_nil _ _) decimal closes, digitRuns_brackets (by decide)]

end

section

variable {characters : Four Char} (allDigits : ∀ digit ∈ characters.toList, digit.isDigit = true)

include allDigits

theorem Shape.isSigned_text (shape : Shape) (operators : Three Operator) :
    isSigned true (shape.text characters operators) = false := by
  simp only [Four.toList, List.mem_cons, List.not_mem_nil, or_false, forall_eq_or_imp, forall_eq] at allDigits
  obtain ⟨first, second, third, fourth⟩ := allDigits
  have last := isSigned_slot fourth shape.fourth []
  rw [List.append_nil] at last
  rw [Shape.text, isSigned_slot first, isSigned_symbol, isSigned_slot second, isSigned_symbol,
    isSigned_slot third, isSigned_symbol, last]
  rfl

theorem Shape.digitRuns_text (shape : Shape) (operators : Three Operator) :
    Text.digitRuns (shape.text characters operators) = characters.toList.map fun digit => [digit] := by
  simp only [Four.toList, List.mem_cons, List.not_mem_nil, or_false, forall_eq_or_imp, forall_eq] at allDigits
  obtain ⟨first, second, third, fourth⟩ := allDigits
  have last := @digitRuns_slot _ fourth shape.fourth [] (by simp)
  rw [List.append_nil] at last
  rw [Shape.text, digitRuns_slot first shape.first fun _ _ => symbol_ends, digitRuns_other (symbol_isDecimalDigit _),
    digitRuns_slot second shape.second fun _ _ => symbol_ends, digitRuns_other (symbol_isDecimalDigit _),
    digitRuns_slot third shape.third fun _ _ => symbol_ends, digitRuns_other (symbol_isDecimalDigit _), last]
  rfl

end

/-- Characters that normal form leaves as they are. -/
def IsPlainSymbol (character : Char) : Prop :=
  character.isDigit = true ∨ isOperator character = true ∨ character = '(' ∨ character = ')'

theorem IsPlainSymbol.kept {character : Char} (isPlain : IsPlainSymbol character) :
    plainSymbol character = character ∧ Text.isBlank character = false := by
  rcases isPlain with isDigit | isSign | rfl | rfl
  · have other {symbol : Char} (noDigit : symbol.isDigit = false) : character ≠ symbol :=
      ne_of_isDigit isDigit noDigit
    refine ⟨?_, isBlank_of_isDigit isDigit⟩
    simp [plainSymbol, other (show '×'.isDigit = false by decide), other (show 'x'.isDigit = false by decide),
      other (show 'X'.isDigit = false by decide), other (show '÷'.isDigit = false by decide),
      other (show '−'.isDigit = false by decide)]
  · simp only [isOperator, Bool.or_eq_true, decide_eq_true_eq] at isSign
    rcases isSign with ((rfl | rfl) | rfl) | rfl <;> decide
  · decide
  · decide

theorem normalize_plain {text : List Char} (plain : ∀ character ∈ text, IsPlainSymbol character) :
    normalize text = text := by
  have same : text.map plainSymbol = text := by
    rw [List.map_congr_left fun character member => (plain character member).kept.1, List.map_id']
  rw [normalize, same, Text.withoutBlanks, List.filter_eq_self]
  intro character member
  simp [(plain character member).kept.2]

theorem Slot.text_plain {digit : Char} (isDigit : digit.isDigit = true) (slot : Slot) :
    ∀ character ∈ slot.text [digit], IsPlainSymbol character := by
  intro character member
  simp only [Slot.text, List.mem_append, List.mem_replicate, List.mem_singleton] at member
  rcases member with (⟨_, rfl⟩ | rfl) | ⟨_, rfl⟩
  · exact .inr (.inr (.inl rfl))
  · exact .inl isDigit
  · exact .inr (.inr (.inr rfl))

theorem Shape.text_plain {characters : Four Char} (allDigits : ∀ digit ∈ characters.toList, digit.isDigit = true)
    (shape : Shape) (operators : Three Operator) :
    ∀ character ∈ shape.text characters operators, IsPlainSymbol character := by
  simp only [Four.toList, List.mem_cons, List.not_mem_nil, or_false, forall_eq_or_imp, forall_eq] at allDigits
  obtain ⟨first, second, third, fourth⟩ := allDigits
  have symbol (operator : Operator) : IsPlainSymbol operator.symbol := .inr (.inl (isOperator_symbol operator))
  intro character member
  simp only [Shape.text, List.mem_append, List.mem_cons] at member
  rcases member with inFirst | rfl | inSecond | rfl | inThird | rfl | inFourth
  · exact Slot.text_plain first _ character inFirst
  · exact symbol _
  · exact Slot.text_plain second _ character inSecond
  · exact symbol _
  · exact Slot.text_plain third _ character inThird
  · exact symbol _
  · exact Slot.text_plain fourth _ character inFourth

theorem exists_shape_of_mem {characters : Four Char} {candidate : String}
    (allDigits : ∀ digit ∈ characters.toList, digit.isDigit = true)
    (member : candidate ∈ candidatesOf (characters.map fun digit => (Number.valueOfDigits [digit] : Int))) :
    ∃ shape ∈ Shape.all, ∃ operators, candidate.toList = shape.text characters operators := by
  simp only [candidatesOf, List.mem_flatMap, List.mem_map] at member
  obtain ⟨operators, _, shape, isShape, rfl⟩ := member
  exact ⟨shape, isShape, operators, render_toList shape operators allDigits⟩

/-- A candidate that has a value is an accepted answer with that value, written as it is. -/
theorem judge_candidate [DepthLimit] {problem candidate : String} {characters : Four Char} {value : Float}
    (isList : problem.toList = characters.toList)
    (allDigits : ∀ digit ∈ characters.toList, digit.isDigit = true)
    (member : candidate ∈ candidatesOf (characters.map fun digit => (Number.valueOfDigits [digit] : Int)))
    (evaluates : evaluate candidate.toList = .ok value) :
    (judge candidate.toList problem).expression = candidate.toList ∧
      (judge candidate.toList problem).result? = some value := by
  obtain ⟨shape, _, operators, isText⟩ := exists_shape_of_mem allDigits member
  have unchanged : normalize candidate.toList = candidate.toList :=
    normalize_plain (isText ▸ shape.text_plain allDigits operators)
  obtain ⟨tree, derives, _⟩ := computeIn_sound evaluates
  rw [← unchanged, withoutBlanks_normalize] at derives
  have unsigned := derives.isSigned_append []
  have numbers := derives.digitRuns_eq
  rw [List.append_nil, unchanged, isText, shape.isSigned_text allDigits] at unsigned
  rw [unchanged, isText, shape.digitRuns_text allDigits, ← isList] at numbers
  have legal : tree.IsLegal problem := ⟨by simpa [isSigned] using unsigned.symm, numbers.symm⟩
  refine ⟨unchanged, ?_⟩
  rw [result_eq_some_iff, unchanged]
  exact ⟨admissible_of_legal legal derives, evaluates⟩

/-! Solutions. -/

theorem digitsOf_other {problem : String} (other : ¬IsProblem problem) :
    digitsOf problem = .error (.notFourDigits problem) := by
  unfold digitsOf
  split
  · next first second third fourth isList =>
      refine if_neg fun allDigits => other ?_
      simp only [Bool.and_eq_true] at allDigits
      obtain ⟨⟨⟨isFirst, isSecond⟩, isThird⟩, isFourth⟩ := allDigits
      refine ⟨by rw [isList]; rfl, ?_⟩
      rw [isList]
      simp [isFirst, isSecond, isThird, isFourth]
  · rfl

theorem solution_error_iff [DepthLimit] {problem : String} {fault : ProblemFault} :
    solution? problem = .error fault ↔ ¬IsProblem problem ∧ fault = .notFourDigits problem := by
  by_cases isProblem : IsProblem problem
  · obtain ⟨characters, _, _, isDigits⟩ := digitsOf_problem isProblem
    rw [solution_of_digits isDigits]
    simp [isProblem]
  · rw [solution?, digitsOf_other isProblem]
    change (Except.error _ : Except ProblemFault (Option String)) = _ ↔ _
    simp [isProblem, eq_comm]

theorem isProblem_of_solution [DepthLimit] {problem : String} {found : Option String}
    (solves : solution? problem = .ok found) : IsProblem problem := by
  by_contra other
  rw [solution_error_iff.mpr ⟨other, rfl⟩] at solves
  cases solves

/-- A solution is a correct answer, and is written as answers are recorded. -/
theorem judge_solution [DepthLimit] {problem solution : String} (solves : solution? problem = .ok (some solution)) :
    let answer := judge solution.toList problem
    answer.expression = solution.toList ∧ answer.isValid = true ∧ answer.isCorrect = true ∧
      answer.error? = none := by
  obtain ⟨characters, isList, allDigits, isDigits⟩ := digitsOf_problem (isProblem_of_solution solves)
  rw [solution_of_digits isDigits, Except.ok.injEq] at solves
  have reaches := List.find?_some solves
  have member := List.mem_of_find?_eq_some solves
  cases evaluates : evaluate solution.toList with
  | error fault => simp [reachesTarget, evaluates, TenPuzzle.reaches] at reaches
  | ok value =>
      obtain ⟨unchanged, result⟩ := judge_candidate isList allDigits member evaluates
      obtain ⟨valid, noError, correct⟩ := result_fields result
      have same : normalize solution.toList = solution.toList := unchanged
      rw [same] at correct
      exact ⟨unchanged, valid, correct.trans reaches, noError⟩

/-- The search fails exactly for texts that are not four digits. What it finds is the first of all candidates that
makes the target, and is accepted as a correct answer without a change; if it finds nothing, no candidate makes
the target. -/
theorem solution_first_and_playable [DepthLimit] (problem : String) :
    (∀ fault, solution? problem = .error fault ↔ ¬IsProblem problem ∧ fault = .notFourDigits problem) ∧
    ∀ found, solution? problem = .ok found →
      ∃ digits all, digitsOf problem = .ok digits ∧ candidates digits.toList = .ok all ∧
        (∀ solution, found = some solution →
          (∃ earlier later, all = earlier ++ solution :: later ∧ reachesTarget solution.toList = true ∧
            ∀ candidate ∈ earlier, reachesTarget candidate.toList = false) ∧
          let answer := judge solution.toList problem
          answer.expression = solution.toList ∧ answer.isValid = true ∧ answer.isCorrect = true ∧
            answer.error? = none) ∧
        (found = none → ∀ candidate ∈ all, reachesTarget candidate.toList = false) := by
  refine ⟨fun fault => solution_error_iff, ?_⟩
  intro found solves
  obtain ⟨characters, _, _, isDigits⟩ := digitsOf_problem (isProblem_of_solution solves)
  refine ⟨_, _, isDigits, candidates_of_digits isDigits, ?_, ?_⟩
  · rintro solution rfl
    refine ⟨?_, judge_solution solves⟩
    rw [solution_of_digits isDigits, Except.ok.injEq] at solves
    obtain ⟨isWanted, earlier, later, isList, others⟩ := List.find?_eq_some_iff_append.mp solves
    exact ⟨earlier, later, isList, isWanted, fun candidate member => by simpa using others candidate member⟩
  · rintro rfl
    rw [solution_of_digits isDigits, Except.ok.injEq, List.find?_eq_none] at solves
    intro candidate member
    simpa using solves candidate member

section

attribute [local instance] DepthLimit.standard

theorem solution_first_and_playable_of_twos :
    solution? "1222" = .ok (some "((1+2)+2)*2") ∧ (judge "((1+2)+2)*2".toList "1222").isCorrect = true := by
  have solves : solution? "1222" = .ok (some "((1+2)+2)*2") := by decide +kernel
  obtain ⟨_, _, _, _, playable, _⟩ := (solution_first_and_playable "1222").2 _ solves
  exact ⟨solves, (playable "((1+2)+2)*2" rfl).2.2.2.1⟩

end

end TenPuzzle
