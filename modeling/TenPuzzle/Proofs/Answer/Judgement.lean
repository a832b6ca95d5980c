import TenPuzzle.Answer

/-!
What a judgement comes to: the checks of an answer's characters and digits, then its evaluation.
-/

namespace TenPuzzle

theorem withoutBlanks_normalize (text : List Char) :
    Text.withoutBlanks (normalize text) = normalize text := by
  simp [normalize, Text.withoutBlanks]

/-- An answer whose characters and digits are those that a problem asks for. -/
structure Admissible (text : List Char) (problem : String) : Prop where
  plain : plainFault? (normalize text) = none
  digits : digitsFault? (normalize text) problem = none

theorem Admissible.verdict [DepthLimit] {text : List Char} {problem : String} (admissible : Admissible text problem) :
    (judge text problem).verdict = valueOf (normalize text) := by
  simp [judge, admissible.plain, admissible.digits]

theorem admissible_of_isValid [DepthLimit] {text : List Char} {problem : String}
    (valid : (judge text problem).isValid = true) : Admissible text problem := by
  unfold judge Answer.isValid at valid
  cases plain : plainFault? (normalize text) with
  | some rejection => simp [plain, Except.isOk, Except.toBool] at valid
  | none =>
      cases digits : digitsFault? (normalize text) problem with
      | some rejection => simp [plain, digits, Except.isOk, Except.toBool] at valid
      | none => exact ⟨plain, digits⟩

theorem isValid_of_result [DepthLimit] {text : List Char} {problem : String} {value : Float}
    (result : (judge text problem).result? = some value) : (judge text problem).isValid = true := by
  unfold Answer.result? at result
  unfold Answer.isValid
  cases verdict : (judge text problem).verdict with
  | error rejection => simp [verdict, Except.toOption] at result
  | ok _ => rfl

theorem isValid_iff [DepthLimit] (text : List Char) (problem : String) :
    (judge text problem).isValid = true ↔ Admissible text problem ∧
      ((∃ value, evaluate (normalize text) = .ok value) ∨
        evaluate (normalize text) = .error .undefined) := by
  constructor
  · intro valid
    have admissible := admissible_of_isValid valid
    refine ⟨admissible, ?_⟩
    rw [Answer.isValid, admissible.verdict, valueOf] at valid
    split at valid
    · next value evaluates => exact .inl ⟨value, evaluates⟩
    · next evaluates => exact .inr evaluates
    · simp [Except.isOk, Except.toBool] at valid
  · rintro ⟨admissible, ⟨value, evaluates⟩ | evaluates⟩
    all_goals
      rw [Answer.isValid, admissible.verdict, valueOf, evaluates]
      rfl

theorem result_eq_some_iff [DepthLimit] {text : List Char} {problem : String} {value : Float} :
    (judge text problem).result? = some value ↔
      Admissible text problem ∧ evaluate (normalize text) = .ok value := by
  constructor
  · intro result
    have admissible := admissible_of_isValid (isValid_of_result result)
    refine ⟨admissible, ?_⟩
    rw [Answer.result?, admissible.verdict, valueOf] at result
    split at result
    · next found evaluates => simpa [Except.toOption, evaluates] using result
    · simp [Except.toOption] at result
    · simp [Except.toOption] at result
  · rintro ⟨admissible, evaluates⟩
    rw [Answer.result?, admissible.verdict, valueOf, evaluates]
    rfl

theorem isCorrect_iff [DepthLimit] (text : List Char) (problem : String) :
    (judge text problem).isCorrect = true ↔
      ∃ value, (judge text problem).result? = some value ∧ reaches target tolerance (.ok value) = true := by
  unfold Answer.isCorrect
  cases (judge text problem).result? <;> simp

end TenPuzzle
