import Mathlib.Data.List.Forall2
import TenPuzzle.Proofs.Expression.Moves

/-!
What the machine has read so far. Every value that it keeps is the value of a tree whose text was
read, so each state describes the prefix behind it; a state that stops as undefined has just read a
term without a value.
-/

namespace TenPuzzle

variable {α : Type}

def pendingText : Option (Expr × Operator) → List Char
  | none => []
  | some (tree, operator) => tree.text ++ [operator.symbol]

/-- An operand that waits, with its tree; sums wait for a term and products for a factor. -/
inductive Waits (arithmetic : Arithmetic α) (level : Level) (weak : Bool) :
    Option (Expr × Operator) → Option (α × Operator) → Prop
  | none : Waits arithmetic level weak none none
  | some {tree value operator} : Derives level tree.text tree → tree.value arithmetic = some value →
      operator.isSum = weak → Waits arithmetic level weak (some (tree, operator)) (some (value, operator))

/-- A context over values beside the same context over trees. -/
structure Context.Keeps (arithmetic : Arithmetic α) (shape : Context Expr) (context : Context α) :
    Prop where
  sum : Waits arithmetic .expression true shape.sum context.sum
  product : Waits arithmetic .term false shape.product context.product
  signs : shape.signs = context.signs

def Context.productText (shape : Context Expr) : List Char :=
  pendingText shape.product ++ List.replicate shape.signs '-'

def enclosingText : List (Context Expr) → List Char
  | [] => []
  | shape :: enclosing => enclosingText enclosing ++ pendingText shape.sum ++ shape.productText ++ ['(']

inductive Opens : List Char → Prop
  | start : Opens []
  | sum {before text tree} {operator : Operator} : Opens before → Derives .term text tree →
      operator.isSum = true → Opens (before ++ text ++ [operator.symbol])
  | bracket {before signs} : Opens before → Opens (before ++ List.replicate signs '-' ++ ['('])
  | product {before text tree signs} {operator : Operator} : Opens before → Derives .term text tree →
      operator.isSum = false →
      Opens (before ++ (text ++ [operator.symbol]) ++ List.replicate signs '-' ++ ['('])

theorem Opens.append_sum {before text tree} {operator : Operator} (opens : Opens before)
    (derives : Derives .expression text tree) (weak : operator.isSum = true) :
    Opens (before ++ text ++ [operator.symbol]) := by
  generalize isExpression : Level.expression = level at derives
  induction derives generalizing operator with
  | number _ _ => cases isExpression
  | negate _ _ => cases isExpression
  | group _ _ => cases isExpression
  | factor _ _ => cases isExpression
  | product _ _ _ _ _ => cases isExpression
  | term derives _ => exact .sum opens derives weak
  | sum inner _ rightDerives leftIh _ =>
      have later := Opens.sum (leftIh inner rfl) rightDerives weak
      simpa using later

theorem Opens.append_waits {arithmetic : Arithmetic α} {before shape pending} (opens : Opens before)
    (waits : Waits arithmetic .expression true shape pending) :
    Opens (before ++ pendingText shape) := by
  cases waits with
  | none => simpa [pendingText] using opens
  | some derives _ weak =>
      have later := opens.append_sum derives weak
      simpa [pendingText] using later

theorem Opens.append_bracket {arithmetic : Arithmetic α} {before shape context} (opens : Opens before)
    (keeps : Context.Keeps arithmetic shape context) :
    Opens (before ++ pendingText shape.sum ++ shape.productText ++ ['(']) := by
  have here := opens.append_waits keeps.sum
  unfold Context.productText
  obtain ⟨_, waits, _⟩ := keeps
  revert waits
  generalize shape.product = pendingTree, context.product = pending
  intro waits
  cases waits with
  | none => simpa [pendingText] using here.bracket
  | some derives _ strong => simpa [pendingText] using here.product derives strong

theorem opens_enclosing {arithmetic : Arithmetic α} {shapes enclosing}
    (keeps : List.Forall₂ (Context.Keeps arithmetic) shapes enclosing) :
    Opens (enclosingText shapes) := by
  induction keeps with
  | nil => exact .start
  | cons here _ ih => exact ih.append_bracket here

theorem outcome_eq_ok {arithmetic : Arithmetic α} {tree : Expr} {value : α} :
    tree.outcome arithmetic = .ok value ↔ tree.value arithmetic = some value := by
  unfold Expr.outcome
  cases tree.value arithmetic <;> simp

theorem outcome_eq_undefined {arithmetic : Arithmetic α} {tree : Expr} :
    tree.outcome arithmetic = .error .undefined ↔ tree.value arithmetic = none := by
  unfold Expr.outcome
  cases tree.value arithmetic <;> simp

theorem outcome_eq_error {arithmetic : Arithmetic α} {tree : Expr} {fault : Expr.Fault}
    (fails : tree.outcome arithmetic = .error fault) : tree.value arithmetic = none := by
  unfold Expr.outcome at fails
  cases isValue : tree.value arithmetic with
  | none => rfl
  | some value => simp [isValue] at fails

theorem derives_signs {arithmetic : Arithmetic α} {text tree value} (derives : Derives .factor text tree)
    (isValue : tree.value arithmetic = some value) (count : Nat) :
    ∃ whole, Derives .factor (List.replicate count '-' ++ text) whole ∧
      whole.value arithmetic = some (Nat.repeat arithmetic.negate count value) := by
  induction count with
  | zero => exact ⟨tree, derives, isValue⟩
  | succ count ih =>
      obtain ⟨inner, innerDerives, innerValue⟩ := ih
      refine ⟨.negate inner, innerDerives.negate, ?_⟩
      simp only [Expr.value, innerValue, Option.map_some, Nat.repeat]

theorem Context.Keeps.term {arithmetic : Arithmetic α} {shape context text tree value}
    (keeps : Context.Keeps arithmetic shape context) (derives : Derives .factor text tree)
    (isValue : tree.value arithmetic = some value) :
    ∃ whole, Derives .term (shape.productText ++ text) whole ∧
      context.term arithmetic value = whole.outcome arithmetic := by
  obtain ⟨signed, signedDerives, signedValue⟩ := derives_signs derives isValue context.signs
  obtain ⟨_, waits, signs⟩ := keeps
  unfold Context.term Context.productText
  rw [signs]
  revert waits
  generalize shape.product = pendingTree, context.product = pending
  intro waits
  cases waits with
  | none =>
      refine ⟨signed, ?_, ?_⟩
      · simpa [pendingText] using signedDerives.factor
      · exact (outcome_eq_ok.mpr signedValue).symm
  | @some left leftValue operator leftDerives isLeft strong =>
      refine ⟨.binary operator left signed, ?_, ?_⟩
      · simpa [pendingText] using Derives.product strong leftDerives signedDerives
      · rw [outcome_binary, outcome_eq_ok.mpr isLeft, outcome_eq_ok.mpr signedValue]
        rfl

theorem Context.Keeps.total {arithmetic : Arithmetic α} {shape context text tree value}
    (keeps : Context.Keeps arithmetic shape context) (derives : Derives .term text tree)
    (isValue : tree.value arithmetic = some value) :
    ∃ whole, Derives .expression (pendingText shape.sum ++ text) whole ∧
      context.total arithmetic value = whole.outcome arithmetic := by
  obtain ⟨waits, _, _⟩ := keeps
  unfold Context.total
  revert waits
  generalize shape.sum = pendingTree, context.sum = pending
  intro waits
  cases waits with
  | none =>
      refine ⟨tree, ?_, ?_⟩
      · simpa [pendingText] using derives.term
      · exact (outcome_eq_ok.mpr isValue).symm
  | @some left leftValue operator leftDerives isLeft weak =>
      refine ⟨.binary operator left tree, ?_, ?_⟩
      · simpa [pendingText] using Derives.sum weak leftDerives derives
      · rw [outcome_binary, outcome_eq_ok.mpr isLeft, outcome_eq_ok.mpr isValue]
        rfl

inductive Cursor.Reads (arithmetic : Arithmetic α) (context : Context α) :
    Cursor α → List Char → Prop
  | operand : Reads arithmetic context .operand []
  | digits {read} : read ≠ [] → (∀ digit ∈ read, digit.isDigit = true) →
      Reads arithmetic context (.digits read) read.reverse
  | term {text tree value} : Derives .term text tree → tree.value arithmetic = some value →
      context.product = none → context.signs = 0 → Reads arithmetic context (.term value) text

/-- The machine stands behind this text. -/
inductive Machine.Reads (arithmetic : Arithmetic α) : Machine α → List Char → Prop
  | intro {shapes enclosing shape context cursor operand} :
      List.Forall₂ (Context.Keeps arithmetic) shapes enclosing → Context.Keeps arithmetic shape context →
      Cursor.Reads arithmetic context cursor operand →
      Reads arithmetic ⟨enclosing, context, cursor⟩
        (enclosingText shapes ++ pendingText shape.sum ++ shape.productText ++ operand)

theorem Context.Keeps.fresh (arithmetic : Arithmetic α) : Context.Keeps arithmetic .fresh .fresh :=
  ⟨.none, .none, rfl⟩

theorem reads_start (arithmetic : Arithmetic α) : Machine.start.Reads arithmetic [] :=
  .intro .nil (.fresh arithmetic) .operand

theorem Context.Keeps.complete {arithmetic : Arithmetic α} {shape context cursor operand}
    (keeps : Context.Keeps arithmetic shape context)
    (reads : Cursor.Reads arithmetic context cursor operand) (begun : cursor ≠ .operand)
    (enclosing : List (Context α)) :
    ∃ tree, Derives .term (shape.productText ++ operand) tree ∧
      (Machine.mk enclosing context cursor).complete arithmetic = tree.outcome arithmetic := by
  cases reads with
  | operand => exact (begun rfl).elim
  | @digits read nonempty allDigits =>
      apply keeps.term
      · exact .number (by simpa using nonempty) (by simpa using allDigits)
      · rfl
  | @term text tree value derives isValue noProduct noSigns =>
      refine ⟨tree, ?_, (outcome_eq_ok.mpr isValue).symm⟩
      obtain ⟨_, waits, signs⟩ := keeps
      rw [noProduct] at waits
      have noPending : shape.product = none := by
        generalize shape.product = pending at waits
        cases waits
        rfl
      simpa [Context.productText, noPending, signs, noSigns, pendingText] using derives

theorem Context.Keeps.complete_total {arithmetic : Arithmetic α} {shape context cursor operand term total}
    {enclosing : List (Context α)} (keeps : Context.Keeps arithmetic shape context)
    (reads : Cursor.Reads arithmetic context cursor operand) (begun : cursor ≠ .operand)
    (complete : (Machine.mk enclosing context cursor).complete arithmetic = .ok term)
    (isTotal : context.total arithmetic term = .ok total) :
    ∃ whole, Derives .expression (pendingText shape.sum ++ (shape.productText ++ operand)) whole ∧
      whole.value arithmetic = some total := by
  obtain ⟨tree, derives, outcome⟩ := keeps.complete reads begun enclosing
  rw [complete] at outcome
  obtain ⟨whole, wholeDerives, wholeOutcome⟩ := keeps.total derives (outcome_eq_ok.mp outcome.symm)
  rw [isTotal] at wholeOutcome
  exact ⟨whole, wholeDerives, outcome_eq_ok.mp wholeOutcome.symm⟩

theorem Context.Keeps.close {arithmetic : Arithmetic α} {shape context text whole total}
    (keeps : Context.Keeps arithmetic shape context) (derives : Derives .expression text whole)
    (isValue : whole.value arithmetic = some total) :
    ∃ tree, Derives .term (shape.productText ++ ('(' :: text ++ [')'])) tree ∧
      context.term arithmetic (arithmetic.group total) = tree.outcome arithmetic := by
  have grouped : (Expr.group whole).value arithmetic = some (arithmetic.group total) := by
    rw [Expr.value, isValue, Option.map_some]
  exact keeps.term derives.group grouped

theorem Cursor.EndsBefore.begun {cursor : Cursor α} {found : Char} (ends : cursor.EndsBefore found) :
    cursor ≠ .operand := by
  rintro rfl
  exact ends

theorem Machine.Moves.reads [DepthLimit] {arithmetic : Arithmetic α} {machine next : Machine α} {found : Char}
    {text : List Char} (moves : machine.Moves arithmetic found next)
    (reads : machine.Reads arithmetic text) : next.Reads arithmetic (text ++ [found]) := by
  obtain @⟨shapes, enclosing, shape, context, cursor, operand, outer, keeps, operandReads⟩ := reads
  cases moves with
  | bracket _ =>
      cases operandReads
      have later := Machine.Reads.intro (List.Forall₂.cons keeps outer) (.fresh arithmetic) .operand
      simpa [enclosingText, Context.productText, Context.fresh, pendingText, Machine.before] using later
  | sign _ =>
      cases operandReads
      have signed : Context.Keeps arithmetic { shape with signs := shape.signs + 1 }
          { context with signs := context.signs + 1 } :=
        ⟨keeps.sum, keeps.product, by rw [keeps.signs]⟩
      have later := Machine.Reads.intro outer signed .operand
      simpa [Context.productText, List.replicate_succ', Machine.before] using later
  | digit isDigit =>
      cases operandReads
      have later := Machine.Reads.intro outer keeps (.digits (List.cons_ne_nil found []) (by simpa using isDigit))
      simpa using later
  | @digits _ _ read _ isDigit =>
      cases operandReads with
      | digits _ allDigits =>
          have more : ∀ digit ∈ found :: read, digit.isDigit = true := by
            simp only [List.mem_cons, forall_eq_or_imp]
            exact ⟨isDigit, allDigits⟩
          have later := Machine.Reads.intro outer keeps (.digits (List.cons_ne_nil found read) more)
          simpa using later
  | @multiply _ term operator ends complete strong =>
      obtain ⟨tree, derives, outcome⟩ := keeps.complete operandReads ends.begun enclosing
      rw [complete] at outcome
      have isValue := outcome_eq_ok.mp outcome.symm
      have waits : Context.Keeps arithmetic ⟨shape.sum, some (tree, operator), 0⟩
          ⟨context.sum, some (term, operator), 0⟩ :=
        ⟨keeps.sum, .some (by rwa [derives.text_eq]) isValue strong, rfl⟩
      have later := Machine.Reads.intro outer waits .operand
      simpa [Context.productText, pendingText, derives.text_eq, Machine.before] using later
  | @add _ term total operator ends complete isTotal weak =>
      obtain ⟨whole, wholeDerives, isValue⟩ := keeps.complete_total operandReads ends.begun complete isTotal
      have waits : Context.Keeps arithmetic ⟨some (whole, operator), none, 0⟩
          ⟨some (total, operator), none, 0⟩ :=
        ⟨.some (by rwa [wholeDerives.text_eq]) isValue weak, .none, rfl⟩
      have later := Machine.Reads.intro outer waits .operand
      simpa [Context.productText, pendingText, wholeDerives.text_eq, Machine.before] using later
  | @close _ outside enclosing term total value ends isEnclosed complete isTotal isValue =>
      cases isEnclosed
      cases outer with
      | @cons outerShape _ shapes _ outsideKeeps outer =>
          obtain ⟨whole, wholeDerives, wholeValue⟩ :=
            keeps.complete_total operandReads ends.begun complete isTotal
          obtain ⟨term, termDerives, termOutcome⟩ := outsideKeeps.close wholeDerives wholeValue
          rw [isValue] at termOutcome
          have waits : Context.Keeps arithmetic ⟨outerShape.sum, none, 0⟩ ⟨outside.sum, none, 0⟩ :=
            ⟨outsideKeeps.sum, .none, rfl⟩
          have later := Machine.Reads.intro outer waits
            (.term termDerives (outcome_eq_ok.mp termOutcome.symm) rfl rfl)
          simpa [enclosingText, Context.productText, pendingText, Machine.behind] using later

theorem finish_eq_complete (arithmetic : Arithmetic α) (machine : Machine α) (position : Nat) :
    machine.finish arithmetic position =
      (machine.complete arithmetic).bind fun term =>
        if machine.enclosing.isEmpty then machine.context.total arithmetic term
        else .error (.unclosed position) := by
  obtain ⟨enclosing, context, cursor⟩ := machine
  cases cursor <;> rfl

theorem finish_sound {arithmetic : Arithmetic α} {machine : Machine α} {position : Nat}
    {text : List Char} {value : α} (reads : machine.Reads arithmetic text)
    (finishes : machine.finish arithmetic position = .ok value) :
    ∃ tree, Derives .expression text tree ∧ tree.value arithmetic = some value := by
  obtain @⟨shapes, enclosing, shape, context, cursor, operand, outer, keeps, operandReads⟩ := reads
  rw [finish_eq_complete] at finishes
  obtain ⟨term, complete, ends⟩ := bind_eq_ok finishes
  have begun : cursor ≠ .operand := by
    rintro rfl
    simp [Machine.complete] at complete
  split at ends
  · next noBrackets =>
      have isEmpty : enclosing = [] := by simpa using noBrackets
      subst isEmpty
      cases outer
      obtain ⟨whole, derives, isValue⟩ := keeps.complete_total operandReads begun complete ends
      exact ⟨whole, by simpa [enclosingText] using derives, isValue⟩
  · simp at ends

/-- Only derivable texts have a value, and it is the value of a tree of theirs. -/
theorem run_sound [DepthLimit] {arithmetic : Arithmetic α} {machine : Machine α} {position : Nat}
    {text rest : List Char} {value : α} (reads : machine.Reads arithmetic text)
    (runs : machine.run arithmetic position rest = .ok value) :
    ∃ tree, Derives .expression (text ++ rest) tree ∧ tree.value arithmetic = some value := by
  induction rest generalizing machine position text with
  | nil =>
      rw [List.append_nil]
      exact finish_sound reads runs
  | cons found rest ih =>
      rw [Machine.run] at runs
      obtain ⟨next, steps, later⟩ := bind_eq_ok runs
      have whole := ih ((moves_of_step steps).reads reads) later
      rwa [List.append_assoc] at whole

end TenPuzzle
