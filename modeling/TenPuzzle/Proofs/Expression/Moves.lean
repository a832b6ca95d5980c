import TenPuzzle.Proofs.Expression.Acceptance
import TenPuzzle.Proofs.Expression.Nesting

/-!
The moves of the machine, one constructor each, and what they do to the depth of nesting. Later
results about whole texts go through these moves and do not open the machine again.
-/

namespace TenPuzzle

variable {α : Type}

/-- The value of the term that ends in front of the next character. -/
def Machine.complete (arithmetic : Arithmetic α) (machine : Machine α) : Except Expr.Fault α :=
  match machine.cursor with
  | .operand => .error .unexpectedEnd
  | .digits read => machine.context.term arithmetic (arithmetic.number read.reverse)
  | .term value => .ok value

def Cursor.EndsBefore (cursor : Cursor α) (found : Char) : Prop :=
  match cursor with
  | .operand => False
  | .digits _ => found.isDigit = false
  | .term _ => True

inductive Machine.Moves [DepthLimit] (arithmetic : Arithmetic α) : Machine α → Char → Machine α → Prop
  | bracket {enclosing context} : context.signs + levelDepth enclosing + 3 ≤ depthLimit →
      Moves arithmetic (.before enclosing context) '(' (.before (context :: enclosing) .fresh)
  | sign {enclosing context} : context.signs + levelDepth enclosing + 1 ≤ depthLimit →
      Moves arithmetic (.before enclosing context) '-'
        (.before enclosing { context with signs := context.signs + 1 })
  | digit {enclosing context found} : found.isDigit = true →
      Moves arithmetic (.before enclosing context) found ⟨enclosing, context, .digits [found]⟩
  | digits {enclosing context read found} : found.isDigit = true →
      Moves arithmetic ⟨enclosing, context, .digits read⟩ found ⟨enclosing, context, .digits (found :: read)⟩
  | multiply {machine term operator} : machine.cursor.EndsBefore operator.symbol →
      machine.complete arithmetic = .ok term → operator.isSum = false →
      Moves arithmetic machine operator.symbol
        (.before machine.enclosing ⟨machine.context.sum, some (term, operator), 0⟩)
  | add {machine term total operator} : machine.cursor.EndsBefore operator.symbol →
      machine.complete arithmetic = .ok term → machine.context.total arithmetic term = .ok total →
      operator.isSum = true →
      Moves arithmetic machine operator.symbol (.before machine.enclosing ⟨some (total, operator), none, 0⟩)
  | close {machine context enclosing term total value} : machine.cursor.EndsBefore ')' →
      machine.enclosing = context :: enclosing → machine.complete arithmetic = .ok term →
      machine.context.total arithmetic term = .ok total →
      context.term arithmetic (arithmetic.group total) = .ok value →
      Moves arithmetic machine ')' (.behind enclosing context.sum value)

theorem bind_eq_ok {ε β : Type} {result : Except ε α} {next : α → Except ε β} {value : β}
    (succeeds : (do let first ← result; next first) = .ok value) :
    ∃ first, result = .ok first ∧ next first = .ok value := by
  cases result with
  | error fault => simp [bind, Except.bind] at succeeds
  | ok first => exact ⟨first, rfl, succeeds⟩

theorem step_eq_complete [DepthLimit] (arithmetic : Arithmetic α) (machine : Machine α) (position : Nat)
    (found : Char) (ends : machine.cursor.EndsBefore found) :
    machine.step arithmetic position found =
      (machine.complete arithmetic).bind fun term => machine.afterTerm arithmetic term position found := by
  obtain ⟨enclosing, context, cursor⟩ := machine
  cases cursor with
  | operand => exact ends.elim
  | digits read =>
      have notDigit : found.isDigit = false := ends
      simp only [Machine.step, Machine.complete, notDigit, Bool.false_eq_true, if_false]
      rfl
  | term value => rfl

theorem moves_of_afterTerm [DepthLimit] {arithmetic : Arithmetic α} {machine : Machine α} {term : α}
    {position : Nat} {found : Char} {next : Machine α} (ends : machine.cursor.EndsBefore found)
    (complete : machine.complete arithmetic = .ok term)
    (steps : machine.afterTerm arithmetic term position found = .ok next) :
    machine.Moves arithmetic found next := by
  unfold Machine.afterTerm at steps
  split at steps
  · next same =>
      subst same
      cases steps
      exact @Machine.Moves.multiply _ _ _ machine term .mul ends complete rfl
  split at steps
  · next same =>
      subst same
      cases steps
      exact @Machine.Moves.multiply _ _ _ machine term .div ends complete rfl
  split at steps
  · next same =>
      subst same
      obtain ⟨total, isTotal, rest⟩ := bind_eq_ok steps
      cases rest
      exact @Machine.Moves.add _ _ _ machine term total .add ends complete isTotal rfl
  split at steps
  · next same =>
      subst same
      obtain ⟨total, isTotal, rest⟩ := bind_eq_ok steps
      cases rest
      exact @Machine.Moves.add _ _ _ machine term total .sub ends complete isTotal rfl
  split at steps
  · next same =>
      subst same
      unfold Machine.close at steps
      split at steps
      · simp at steps
      · next context enclosing isEnclosed =>
          obtain ⟨total, isTotal, rest⟩ := bind_eq_ok steps
          obtain ⟨value, isValue, rest⟩ := bind_eq_ok rest
          cases rest
          exact .close ends isEnclosed complete isTotal isValue
  · split at steps <;> simp at steps

theorem moves_of_step [DepthLimit] {arithmetic : Arithmetic α} {machine : Machine α} {position : Nat}
    {found : Char} {next : Machine α} (steps : machine.step arithmetic position found = .ok next) :
    machine.Moves arithmetic found next := by
  by_cases ends : machine.cursor.EndsBefore found
  · rw [step_eq_complete arithmetic machine position found ends] at steps
    obtain ⟨term, complete, after⟩ := bind_eq_ok steps
    exact moves_of_afterTerm ends complete after
  · obtain ⟨enclosing, context, cursor⟩ := machine
    cases cursor with
    | operand =>
        change (if found = '(' then _ else _) = _ at steps
        split at steps
        · next same =>
            subst same
            unfold Machine.open at steps
            rw [show Machine.mk enclosing context .operand = .before enclosing context from rfl,
              depth_before] at steps
            split at steps
            · simp at steps
            · cases steps
              exact .bracket (by omega)
        split at steps
        · next same =>
            subst same
            unfold Machine.sign at steps
            rw [show Machine.mk enclosing context .operand = .before enclosing context from rfl,
              depth_before] at steps
            split at steps
            · simp at steps
            · cases steps
              exact .sign (by omega)
        split at steps
        · next isDigit =>
            cases steps
            exact .digit isDigit
        · simp at steps
    | digits read =>
        have isDigit : found.isDigit = true := by simpa [Cursor.EndsBefore] using ends
        simp only [Machine.step, isDigit, if_true] at steps
        cases steps
        exact .digits isDigit
    | term value => exact (ends trivial).elim

/-! The depth at which the machine stands is the one that the characters tell. -/

def outerLevels : List (Context α) → List Nat
  | [] => []
  | _ :: enclosing => levelDepth enclosing :: outerLevels enclosing

def Machine.surroundings (machine : Machine α) : Surroundings :=
  match machine.cursor with
  | .operand => ⟨outerLevels machine.enclosing, levelDepth machine.enclosing, machine.context.signs, true⟩
  | _ => ⟨outerLevels machine.enclosing, levelDepth machine.enclosing, 0, false⟩

theorem surroundings_of_endsBefore {machine : Machine α} {found : Char}
    (ends : machine.cursor.EndsBefore found) :
    machine.surroundings = ⟨outerLevels machine.enclosing, levelDepth machine.enclosing, 0, false⟩ := by
  obtain ⟨enclosing, context, cursor⟩ := machine
  cases cursor with
  | operand => exact ends.elim
  | digits read => rfl
  | term value => rfl

theorem Machine.Moves.surroundings [DepthLimit] {arithmetic : Arithmetic α} {machine next : Machine α} {found : Char}
    (moves : machine.Moves arithmetic found next) :
    next.surroundings = machine.surroundings.step found := by
  cases moves with
  | bracket shallow =>
      simp only [Machine.surroundings, Machine.before, Surroundings.step, Surroundings.depth,
        levelDepth_cons, outerLevels, Context.fresh, if_true, Surroundings.mk.injEq, true_and, and_true]
      omega
  | sign shallow => rfl
  | digit isDigit =>
      rw [Surroundings.step_digit _ isDigit]
      rfl
  | digits isDigit =>
      rw [Surroundings.step_digit _ isDigit]
      rfl
  | multiply ends _ _ =>
      rw [surroundings_of_endsBefore ends, Surroundings.step_operator]
      rfl
  | add ends _ _ _ =>
      rw [surroundings_of_endsBefore ends, Surroundings.step_operator]
      rfl
  | close ends isEnclosed _ _ _ =>
      rw [surroundings_of_endsBefore ends, isEnclosed]
      rfl

theorem outerLevels_headD_le (enclosing : List (Context α)) :
    (outerLevels enclosing).headD 0 ≤ levelDepth enclosing := by
  cases enclosing with
  | nil => exact Nat.le_refl _
  | cons context enclosing =>
      simp only [outerLevels, List.headD_cons, levelDepth_cons]
      omega

/-- No move leads below the limit; only brackets and signs lead further down. -/
theorem Machine.Moves.shallow [DepthLimit] {arithmetic : Arithmetic α} {machine next : Machine α} {found : Char}
    (moves : machine.Moves arithmetic found next)
    (here : machine.surroundings.depth ≤ depthLimit) : next.surroundings.depth ≤ depthLimit := by
  cases moves with
  | bracket shallow =>
      simp only [Machine.surroundings, Machine.before, Surroundings.depth, levelDepth_cons, Context.fresh]
      omega
  | sign shallow =>
      simp only [Machine.surroundings, Machine.before, Surroundings.depth]
      omega
  | digit isDigit =>
      simp only [Machine.surroundings, Machine.before, Surroundings.depth] at here ⊢
      omega
  | digits isDigit => exact here
  | multiply ends _ _ =>
      rw [surroundings_of_endsBefore ends] at here
      exact here
  | add ends _ _ _ =>
      rw [surroundings_of_endsBefore ends] at here
      exact here
  | close ends isEnclosed _ _ _ =>
      rw [surroundings_of_endsBefore ends, isEnclosed] at here
      simp only [Surroundings.depth, levelDepth_cons] at here
      simp only [Machine.surroundings, Machine.behind, Surroundings.depth]
      omega

theorem Machine.closing_shallow [DepthLimit] {machine : Machine α} (here : machine.surroundings.depth ≤ depthLimit) :
    (machine.surroundings.step ')').depth ≤ depthLimit := by
  have outer := outerLevels_headD_le machine.enclosing
  have closed : (machine.surroundings.step ')').depth = (outerLevels machine.enclosing).headD 0 := by
    obtain ⟨enclosing, context, cursor⟩ := machine
    cases cursor <;> rfl
  have level : levelDepth machine.enclosing ≤ machine.surroundings.depth := by
    obtain ⟨enclosing, context, cursor⟩ := machine
    cases cursor <;> exact Nat.le_add_right _ _
  omega

end TenPuzzle
