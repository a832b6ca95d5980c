import TenPuzzle.Proofs.Expression.Evaluation
import TenPuzzle.Proofs.Number.Scientific

/-!
The meaning of expressions: evaluation gives the value of the one syntax tree that the grammar
assigns to a text, in correctly rounded double arithmetic.
-/

namespace TenPuzzle

/-- Evaluation computes the meaning that the grammar gives. Texts that are not nested too deeply have
a value exactly if they are derivable and their tree divides by nothing too near to zero; the tree is
unique, such a divisor makes the text undefined, and every number is read as the nearest double. -/
theorem evaluate_grammar [DepthLimit] (text : List Char) (shallow : nesting (Text.withoutBlanks text) ≤ depthLimit) :
    (∀ value, evaluate text = .ok value ↔
      ∃ tree, Derives .expression (Text.withoutBlanks text) tree ∧ ¬tree.MeetsLeastDivisor ∧
        tree.value .floats = some value) ∧
    (∀ tree, Derives .expression (Text.withoutBlanks text) tree →
      (∀ other, Derives .expression (Text.withoutBlanks text) other → other = tree) ∧
      (evaluate text = .error .undefined ↔ tree.MeetsLeastDivisor)) ∧
    ∀ digits, Number.IsNearest (Number.valueOfDigits digits) (Arithmetic.floats.number digits) := by
  refine ⟨?_, ?_, ?_⟩
  · intro value
    constructor
    · intro evaluates
      obtain ⟨tree, derives, isValue⟩ := computeIn_sound evaluates
      refine ⟨tree, derives, ?_, isValue⟩
      intro meets
      rw [(floats_refuses.value_eq_none tree).mpr meets] at isValue
      cases isValue
    · rintro ⟨tree, derives, _, isValue⟩
      rw [evaluate, derives.computeIn_eq .floats shallow]
      exact outcome_eq_ok.mpr isValue
  · intro tree derives
    refine ⟨fun other otherDerives => otherDerives.unique derives shallow, ?_⟩
    rw [evaluate, derives.computeIn_eq .floats shallow, outcome_eq_undefined]
    exact floats_refuses.value_eq_none tree
  · intro digits
    exact Number.isNearest_ofScientific _

section

attribute [local instance] DepthLimit.standard

theorem evaluate_grammar_of_differences :
    nesting "8-2-(1)".toList ≤ depthLimit ∧
      ∃ tree, Derives .expression "8-2-(1)".toList tree ∧ ¬tree.MeetsLeastDivisor ∧
        tree.value .floats = some 5 := by
  have shallow : nesting "8-2-(1)".toList ≤ depthLimit := by decide
  obtain ⟨values, _⟩ := evaluate_grammar " 8 - 2 - (1) ".toList shallow
  exact ⟨shallow, (values 5).mp (by decide +kernel)⟩

end

end TenPuzzle
