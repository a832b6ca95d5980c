import TenPuzzle.Proofs.Expression.Evaluation

/-!
Where faults lie. A text that is malformed fails at the first character with which it cannot be written on to a
derivable text, or at its end if it only breaks off too early.

What can be written on is shown by a derivation for the text behind which the machine stands. What cannot be written on
is shown by an outline of the machine, which counts open brackets and knows no limit of depth: a derivable text leads it
on from character to character, and where the machine fails there is no way on.
-/

namespace TenPuzzle

variable {α : Type}

/-- A text with which a derivable text begins. -/
def Viable (text : List Char) : Prop :=
  ∃ rest, Derivable (text ++ rest)

/-- The first character that cannot stand where it stands. -/
structure FailsAt (text : List Char) (position : Nat) (found : Char) : Prop where
  found : text[position]? = some found
  viable : Viable (text.take position)
  impossible : ¬Viable (text.take (position + 1))

structure IsUnfinished (text : List Char) : Prop where
  viable : Viable text
  underivable : ¬Derivable text

/-- What a message says about a text. -/
inductive Blames (text : List Char) : String → Prop
  | number {position found} : FailsAt text position found →
      Blames text s!"Expected a number at position {position}, got '{found}'"
  | character {position found} : FailsAt text position found →
      Blames text s!"Unexpected '{found}' at position {position}"
  | bracket {position found} : FailsAt text position found → Blames text s!"Expected ')' at position {position}"
  | lastBracket : IsUnfinished text → Blames text s!"Expected ')' at position {text.length}"
  | operand : IsUnfinished text → Blames text "Unexpected end of expression"
  | empty : text = [] → IsUnfinished text → Blames text "Empty expression"

/-! Texts that can be written on. -/

section

variable {before text : List Char} {tree : Expr} {operator : Operator}

theorem Derivable.viable (derivable : Derivable text) : Viable text :=
  ⟨[], by rwa [List.append_nil]⟩

/-- A sum associates to the left, so that a new first term goes to the innermost left. -/
theorem Derives.prepend {first : Expr} (weak : operator.isSum = true) (firstDerives : Derives .term before first)
    (derives : Derives .expression text tree) : Derivable (before ++ operator.symbol :: text) := by
  generalize isExpression : Level.expression = level at derives
  induction derives with
  | number _ _ => cases isExpression
  | negate _ _ => cases isExpression
  | group _ _ => cases isExpression
  | factor _ _ => cases isExpression
  | product _ _ _ _ _ => cases isExpression
  | term derives _ => exact ⟨_, .sum weak firstDerives.term derives⟩
  | sum inner _ rightDerives leftIh _ =>
      obtain ⟨whole, wholeDerives⟩ := leftIh rfl
      exact ⟨_, by simpa using Derives.sum inner wholeDerives rightDerives⟩

theorem derives_signed_group (derives : Derives .expression text tree) (signs : Nat) :
    ∃ whole, Derives .factor (List.replicate signs '-' ++ ('(' :: text ++ [')'])) whole := by
  obtain ⟨whole, wholeDerives, _⟩ := derives_signs derives.group (value_trees (.group tree)) signs
  exact ⟨whole, wholeDerives⟩

/-- An expression can follow where one is opened. -/
theorem Opens.viable (opens : Opens before) (derivable : Derivable text) : Viable (before ++ text) := by
  induction opens generalizing text with
  | start => exact derivable.viable
  | @sum before term _ operator _ derives weak ih =>
      obtain ⟨tree, textDerives⟩ := derivable
      simpa using ih (Derives.prepend weak derives textDerives)
  | @bracket before signs _ ih =>
      obtain ⟨tree, textDerives⟩ := derivable
      obtain ⟨whole, wholeDerives⟩ := derives_signed_group textDerives signs
      obtain ⟨rest, later⟩ := ih ⟨whole, wholeDerives.factor.term⟩
      exact ⟨')' :: rest, by simpa using later⟩
  | @product before term _ signs operator _ derives strong ih =>
      obtain ⟨tree, textDerives⟩ := derivable
      obtain ⟨whole, wholeDerives⟩ := derives_signed_group textDerives signs
      obtain ⟨rest, later⟩ := ih ⟨_, (Derives.product strong derives wholeDerives).term⟩
      exact ⟨')' :: rest, by simpa using later⟩

theorem viable_of_append {rest : List Char} (viable : Viable (text ++ rest)) : Viable text := by
  obtain ⟨later, derivable⟩ := viable
  exact ⟨rest ++ later, by rwa [← List.append_assoc]⟩

/-- Where the machine stands, the text can be written on: with a number if it waits for an operand. -/
theorem Machine.Reads.viable {arithmetic : Arithmetic α} {machine : Machine α}
    (reads : machine.Reads arithmetic text) : Viable text := by
  obtain @⟨shapes, enclosing, shape, context, cursor, operand, outer, keeps, operandReads⟩ := reads
  have opens := (opens_enclosing outer).append_waits keeps.sum
  by_cases begun : cursor = .operand
  · subst begun
    cases operandReads
    have zero : Derives .factor ['0'] (.number ['0']) := .number (by simp) (by simp)
    obtain ⟨whole, derives, _⟩ := keeps.term zero (by rfl)
    have later := opens.viable ⟨whole, derives.term⟩
    rw [← List.append_assoc] at later
    rw [List.append_nil]
    exact viable_of_append later
  · obtain ⟨whole, derives, _⟩ := keeps.complete operandReads begun enclosing
    have later := opens.viable ⟨whole, derives.term⟩
    rwa [← List.append_assoc] at later

end

/-! Texts that cannot be written on. -/

inductive Stance where
  | operand
  | digits
  | term
  deriving DecidableEq, Repr

/-- How many brackets are open, and what may follow. -/
structure Outline where
  opened : Nat
  stance : Stance
  deriving DecidableEq, Repr

def Outline.start : Outline := ⟨0, .operand⟩

def Outline.afterTerm (here : Outline) (found : Char) : Option Outline :=
  if isOperator found then some ⟨here.opened, .operand⟩
  else if found = ')' ∧ 0 < here.opened then some ⟨here.opened - 1, .term⟩
  else none

def Outline.step (here : Outline) (found : Char) : Option Outline :=
  match here.stance with
  | .operand =>
    if found = '(' then some ⟨here.opened + 1, .operand⟩
    else if found = '-' then some here
    else if found.isDigit then some ⟨here.opened, .digits⟩
    else none
  | .digits => if found.isDigit then some here else here.afterTerm found
  | .term => here.afterTerm found

def Outline.walk (here : Outline) (text : List Char) : Option Outline :=
  text.foldlM Outline.step here

namespace Outline

section

variable {here there : Outline} {before after text : List Char} {found : Char}

theorem walk_cons : here.walk (found :: text) = (here.step found).bind fun next => next.walk text := rfl

theorem walk_append : here.walk (before ++ after) = (here.walk before).bind fun next => next.walk after :=
  List.foldlM_append

theorem step_symbol (behind : here.stance ≠ .operand) (operator : Operator) :
    here.step operator.symbol = some ⟨here.opened, .operand⟩ := by
  obtain ⟨opened, stance⟩ := here
  cases stance with
  | operand => exact (behind rfl).elim
  | digits => cases operator <;> rfl
  | term => cases operator <;> rfl

theorem step_close (behind : here.stance ≠ .operand) (isOpen : 0 < here.opened) :
    here.step ')' = some ⟨here.opened - 1, .term⟩ := by
  obtain ⟨opened, stance⟩ := here
  have closes : afterTerm ⟨opened, stance⟩ ')' = some ⟨opened - 1, .term⟩ := by
    rw [afterTerm, if_neg (by decide), if_pos ⟨rfl, isOpen⟩]
  cases stance with
  | operand => exact (behind rfl).elim
  | digits => exact closes
  | term => exact closes

theorem step_digit {digit : Char} (isDigit : digit.isDigit = true) (opened : Nat) :
    step ⟨opened, .operand⟩ digit = some ⟨opened, .digits⟩ := by
  simp only [step]
  rw [if_neg (ne_of_isDigit isDigit rfl), if_neg (ne_of_isDigit isDigit rfl), if_pos isDigit]

theorem walk_digits {digits : List Char} (allDigits : ∀ digit ∈ digits, digit.isDigit = true) (opened : Nat) :
    walk ⟨opened, .digits⟩ digits = some ⟨opened, .digits⟩ := by
  induction digits with
  | nil => rfl
  | cons digit digits ih =>
      have stays : step ⟨opened, .digits⟩ digit = some ⟨opened, .digits⟩ := if_pos (allDigits digit List.mem_cons_self)
      rw [walk_cons, stays]
      exact ih fun other member => allDigits other (.tail digit member)

end

end Outline

/-- A derivable text leads from an operand to its end, with the brackets open that were open before. -/
theorem Derives.walk {level : Level} {text : List Char} {tree : Expr} (derives : Derives level text tree)
    (opened : Nat) :
    ∃ stance, stance ≠ .operand ∧ Outline.walk ⟨opened, .operand⟩ text = some ⟨opened, stance⟩ := by
  induction derives generalizing opened with
  | @number digits nonempty allDigits =>
      obtain ⟨digit, digits, rfl⟩ := List.exists_cons_of_ne_nil nonempty
      refine ⟨.digits, by decide, ?_⟩
      rw [Outline.walk_cons, Outline.step_digit (allDigits digit List.mem_cons_self)]
      exact Outline.walk_digits (fun other member => allDigits other (.tail digit member)) opened
  | negate _ ih => exact ih opened
  | group _ ih =>
      obtain ⟨stance, behind, walks⟩ := ih (opened + 1)
      refine ⟨.term, by decide, ?_⟩
      have opens : Outline.step ⟨opened, .operand⟩ '(' = some ⟨opened + 1, .operand⟩ := rfl
      have closes := @Outline.step_close ⟨opened + 1, stance⟩ behind (Nat.succ_pos opened)
      rw [List.cons_append, Outline.walk_cons, opens, Option.bind_some, Outline.walk_append, walks, Option.bind_some,
        Outline.walk_cons, closes]
      rfl
  | factor _ ih => exact ih opened
  | @product operator _ _ _ _ _ _ _ leftIh rightIh =>
      obtain ⟨_, behind, walks⟩ := leftIh opened
      obtain ⟨stance, complete, later⟩ := rightIh opened
      refine ⟨stance, complete, ?_⟩
      rw [Outline.walk_append, walks, Option.bind_some, Outline.walk_cons, Outline.step_symbol behind]
      exact later
  | term _ ih => exact ih opened
  | @sum operator _ _ _ _ _ _ _ leftIh rightIh =>
      obtain ⟨_, behind, walks⟩ := leftIh opened
      obtain ⟨stance, complete, later⟩ := rightIh opened
      refine ⟨stance, complete, ?_⟩
      rw [Outline.walk_append, walks, Option.bind_some, Outline.walk_cons, Outline.step_symbol behind]
      exact later

theorem not_viable_of_walk {text : List Char} (stops : Outline.start.walk text = none) : ¬Viable text := by
  rintro ⟨rest, tree, derives⟩
  obtain ⟨_, _, walks⟩ := derives.walk 0
  rw [Outline.walk_append, show Outline.walk ⟨0, .operand⟩ text = none from stops] at walks
  cases walks

/-! The machine and its outline. -/

def Cursor.stance : Cursor α → Stance
  | .operand => .operand
  | .digits _ => .digits
  | .term _ => .term

def Machine.outline (machine : Machine α) : Outline :=
  ⟨machine.enclosing.length, machine.cursor.stance⟩

section

variable {arithmetic : Arithmetic α} {machine next : Machine α} {found : Char} {text rest : List Char}
  {position : Nat} {fault : Expr.Fault}

theorem Cursor.EndsBefore.stance {cursor : Cursor α} (ends : cursor.EndsBefore found) :
    cursor.stance ≠ .operand := by
  cases cursor with
  | operand => exact ends.elim
  | digits read => exact Stance.noConfusion
  | term value => exact Stance.noConfusion

theorem Machine.Moves.outline [DepthLimit] (moves : machine.Moves arithmetic found next) :
    machine.outline.step found = some next.outline := by
  cases moves with
  | bracket _ => rfl
  | sign _ => rfl
  | digit isDigit => exact Outline.step_digit isDigit _
  | digits isDigit => exact if_pos isDigit
  | multiply ends _ _ => exact Outline.step_symbol ends.stance _
  | add ends _ _ _ => exact Outline.step_symbol ends.stance _
  | close ends isEnclosed _ _ _ =>
      have closes := @Outline.step_close machine.outline ends.stance (by simp [Machine.outline, isEnclosed])
      rw [closes]
      simp [Machine.outline, isEnclosed, Machine.behind, Cursor.stance]

theorem applyPending_error {value : α} {pending : Option (α × Operator)}
    (fails : Context.applyPending arithmetic value pending = .error fault) : fault = .undefined := by
  unfold Context.applyPending at fails
  split at fails
  · cases fails
  · split at fails
    · cases fails
    · cases fails
      rfl

/-- A fault that names the character in front of which it was found. -/
inductive Expr.Fault.Names (found : Char) (position : Nat) : Expr.Fault → Prop
  | number : Names found position (.notANumber found position)
  | character : Names found position (.unexpected found position)
  | bracket : Names found position (.unclosed position)

theorem afterTerm_error {term : α} (defined : fault ≠ .undefined)
    (fails : machine.afterTerm arithmetic term position found = .error fault) :
    machine.outline.afterTerm found = none ∧ fault.Names found position := by
  unfold Machine.afterTerm at fails
  split at fails
  · cases fails
  next notTimes =>
  split at fails
  · cases fails
  next notOver =>
  split at fails
  · rcases bind_eq_error fails with noTotal | ⟨_, _, impossible⟩
    · exact (defined (applyPending_error noTotal)).elim
    · cases impossible
  next notPlus =>
  split at fails
  · rcases bind_eq_error fails with noTotal | ⟨_, _, impossible⟩
    · exact (defined (applyPending_error noTotal)).elim
    · cases impossible
  next notMinus =>
  have noOperator : isOperator found = false := by simp [isOperator, notTimes, notOver, notPlus, notMinus]
  unfold Outline.afterTerm
  rw [if_neg (by simp [noOperator])]
  split at fails
  · next isBracket =>
      unfold Machine.close at fails
      split at fails
      · next noBrackets =>
          cases fails
          rw [isBracket]
          exact ⟨by simp [Machine.outline, noBrackets], .character⟩
      · rcases bind_eq_error fails with noTotal | ⟨_, _, later⟩
        · exact (defined (applyPending_error noTotal)).elim
        · rcases bind_eq_error later with noTerm | ⟨_, _, impossible⟩
          · exact (defined (applyPending_error noTerm)).elim
          · cases impossible
  · next notBracket =>
      refine ⟨by simp [notBracket], ?_⟩
      split at fails
      · cases fails
        exact .character
      · cases fails
        exact .bracket

/-- Where the machine fails, though not for the depth or for want of a value, its outline has no way on. -/
theorem step_error [DepthLimit] (shallow : (machine.surroundings.step found).depth ≤ depthLimit)
    (defined : fault ≠ .undefined) (fails : machine.step arithmetic position found = .error fault) :
    machine.outline.step found = none ∧ fault.Names found position := by
  obtain ⟨enclosing, context, cursor⟩ := machine
  cases cursor with
  | operand =>
      simp only [Machine.step] at fails
      unfold Outline.step
      dsimp only [Machine.outline, Cursor.stance]
      split at fails
      · next isBracket =>
          subst isBracket
          have deep : context.signs + levelDepth enclosing + 3 ≤ depthLimit := by
            simp only [Machine.surroundings, Surroundings.step, Surroundings.depth, if_true] at shallow
            omega
          rw [Machine.open, show Machine.mk enclosing context .operand = .before enclosing context from rfl,
            depth_before, if_neg (by omega)] at fails
          cases fails
      next notBracket =>
      split at fails
      · next isSign =>
          subst isSign
          have deep : levelDepth enclosing + (context.signs + 1) ≤ depthLimit := shallow
          rw [Machine.sign, show Machine.mk enclosing context .operand = .before enclosing context from rfl,
            depth_before, if_neg (by omega)] at fails
          cases fails
      next notSign =>
      split at fails
      · cases fails
      · next notDigit =>
          cases fails
          exact ⟨by simp [notBracket, notSign, notDigit], .number⟩
  | digits read =>
      simp only [Machine.step] at fails
      split at fails
      · cases fails
      · next notDigit =>
          rcases bind_eq_error fails with noTerm | ⟨term, _, later⟩
          · exact (defined (applyPending_error noTerm)).elim
          · obtain ⟨stops, names⟩ := afterTerm_error defined later
            exact ⟨(if_neg notDigit).trans stops, names⟩
  | term value => exact afterTerm_error defined fails

/-- At the end of a text, the machine fails if it waits for an operand or for a bracket. -/
theorem finish_error (defined : fault ≠ .undefined) (fails : machine.finish arithmetic position = .error fault) :
    (fault = .unexpectedEnd ∧ machine.outline.stance = .operand) ∨
      (fault = .unclosed position ∧ 0 < machine.outline.opened) := by
  rw [finish_eq_complete] at fails
  rcases bind_eq_error fails with incomplete | ⟨term, _, ends⟩
  · left
    obtain ⟨enclosing, context, cursor⟩ := machine
    cases cursor with
    | operand =>
        cases incomplete
        exact ⟨rfl, rfl⟩
    | digits read => exact (defined (applyPending_error incomplete)).elim
    | term value => cases incomplete
  · right
    split at ends
    · exact (defined (applyPending_error ends)).elim
    · next isOpen =>
        cases ends
        exact ⟨rfl, List.length_pos_iff.mpr (by simpa using isOpen)⟩

theorem not_derivable_of_walk {outline : Outline} (walks : Outline.start.walk text = some outline)
    (incomplete : outline.stance = .operand ∨ 0 < outline.opened) : ¬Derivable text := by
  rintro ⟨tree, derives⟩
  obtain ⟨stance, behind, complete⟩ := derives.walk 0
  rw [show Outline.walk ⟨0, .operand⟩ text = some outline from walks] at complete
  cases complete
  rcases incomplete with isOperand | isOpen
  · exact behind isOperand
  · exact Nat.lt_irrefl 0 isOpen

/-- From a text that was read the machine goes on to the first character that cannot stand there, or to the end. -/
theorem Machine.Reads.blames [DepthLimit] (reads : machine.Reads arithmetic text)
    (walks : Outline.start.walk text = some machine.outline)
    (around : machine.surroundings = text.foldl Surroundings.step .start)
    (shallow : nesting (text ++ rest) ≤ depthLimit) (defined : fault ≠ .undefined)
    (fails : machine.run arithmetic text.length rest = .error fault) : Blames (text ++ rest) fault.message := by
  induction rest generalizing machine text with
  | nil =>
      rw [List.append_nil]
      change machine.finish arithmetic text.length = .error fault at fails
      rcases finish_error defined fails with ⟨rfl, isOperand⟩ | ⟨rfl, isOpen⟩
      · exact .operand ⟨reads.viable, not_derivable_of_walk walks (.inl isOperand)⟩
      · exact .lastBracket ⟨reads.viable, not_derivable_of_walk walks (.inr isOpen)⟩
  | cons found rest ih =>
      rw [List.append_cons] at shallow ⊢
      have within : (machine.surroundings.step found).depth ≤ depthLimit := by
        have deeper := Nat.le_trans (nesting_le_append (text ++ [found]) rest) shallow
        rw [nesting_concat, ← around] at deeper
        exact (Nat.max_le.mp deeper).2
      have onward : Outline.start.walk (text ++ [found]) = machine.outline.step found := by
        rw [Outline.walk_append, walks, Option.bind_some, Outline.walk_cons]
        exact Option.bind_fun_some _
      rw [Machine.run] at fails
      rcases bind_eq_error fails with stepFails | ⟨next, steps, later⟩
      · obtain ⟨stops, names⟩ := step_error within defined stepFails
        have failsAt : FailsAt (text ++ [found] ++ rest) text.length found := by
          refine ⟨by simp, ?_, ?_⟩
          · rw [List.append_assoc, List.take_left]
            exact reads.viable
          · rw [List.take_left' (by simp)]
            exact not_viable_of_walk (onward.trans stops)
        cases names with
        | number => exact .number failsAt
        | character => exact .character failsAt
        | bracket => exact .bracket failsAt
      · have moves := moves_of_step steps
        apply ih (moves.reads reads) (onward.trans moves.outline) _ shallow
        · rwa [List.length_append]
        · rw [List.foldl_append, ← around]
          exact moves.surroundings

end

/-! Positions. -/

/-- The position that a fault names, or the start. -/
def Expr.Fault.position : Expr.Fault → Nat
  | .notANumber _ position | .unclosed position | .unexpected _ position => position
  | .undefined | .empty | .tooDeep | .unexpectedEnd => 0

section

variable {α : Type} {arithmetic : Arithmetic α} {machine : Machine α} {fault : Expr.Fault} {found : Char}
  {position : Nat} {text : List Char}

theorem afterTerm_position {term : α} (fails : machine.afterTerm arithmetic term position found = .error fault) :
    fault.position ≤ position := by
  by_cases undefined : fault = .undefined
  · rw [undefined]
    exact Nat.zero_le position
  · cases (afterTerm_error undefined fails).2 <;> exact Nat.le_refl position

theorem step_position [DepthLimit] (fails : machine.step arithmetic position found = .error fault) :
    fault.position ≤ position := by
  obtain ⟨enclosing, context, cursor⟩ := machine
  cases cursor with
  | operand =>
      simp only [Machine.step, Machine.open, Machine.sign] at fails
      repeat' split at fails
      all_goals cases fails
      · exact Nat.zero_le position
      · exact Nat.zero_le position
      · exact Nat.le_refl position
  | digits read =>
      simp only [Machine.step] at fails
      split at fails
      · cases fails
      · rcases bind_eq_error fails with noTerm | ⟨term, _, later⟩
        · rw [applyPending_error noTerm]
          exact Nat.zero_le position
        · exact afterTerm_position later
  | term value => exact afterTerm_position fails

theorem finish_position (fails : machine.finish arithmetic position = .error fault) : fault.position ≤ position := by
  by_cases undefined : fault = .undefined
  · rw [undefined]
    exact Nat.zero_le position
  · rcases finish_error undefined fails with ⟨rfl, _⟩ | ⟨rfl, _⟩
    · exact Nat.zero_le position
    · exact Nat.le_refl position

theorem run_position [DepthLimit] (fails : machine.run arithmetic position text = .error fault) :
    fault.position ≤ position + text.length := by
  induction text generalizing machine position with
  | nil => exact finish_position fails
  | cons found rest ih =>
      rw [Machine.run] at fails
      rw [List.length_cons]
      rcases bind_eq_error fails with stepFails | ⟨next, _, later⟩
      · have here := step_position stepFails
        omega
      · have behind := ih later
        omega

/-- However deep a text is nested, no fault names a position behind its end. -/
theorem position_le [DepthLimit] (fails : computeIn arithmetic text = .error fault) :
    fault.position ≤ (Text.withoutBlanks text).length := by
  by_cases isEmpty : Text.withoutBlanks text = []
  · simp only [computeIn, isEmpty, Except.error.injEq] at fails
    rw [← fails]
    exact Nat.zero_le _
  · rw [computeIn_eq_run arithmetic isEmpty] at fails
    have within := run_position fails
    omega

end

/-- A message about a malformed text points at the first character that cannot stand where it stands: the characters in
front of it begin some derivable text, and with it they begin none. If there is no such character, the text begins a
derivable text but is none, and the message says that something is missing at its end. -/
theorem faults_lie_at_first_impossible [DepthLimit] (text : List Char) (fault : Expr.Fault)
    (shallow : nesting (Text.withoutBlanks text) ≤ depthLimit) (fails : evaluate text = .error fault)
    (defined : fault ≠ .undefined) : Blames (Text.withoutBlanks text) fault.message := by
  by_cases isEmpty : Text.withoutBlanks text = []
  · have isFault : fault = .empty := by
      simp only [evaluate, computeIn, isEmpty, Except.error.injEq] at fails
      exact fails.symm
    have unfinished : IsUnfinished [] :=
      ⟨(reads_start Arithmetic.floats).viable, not_derivable_of_walk rfl (.inl rfl)⟩
    rw [isFault, isEmpty]
    exact .empty rfl unfinished
  · rw [evaluate, computeIn_eq_run .floats isEmpty] at fails
    exact @Machine.Reads.blames Float .floats .start [] _ fault _ (reads_start _) rfl rfl shallow defined fails

section

attribute [local instance] DepthLimit.standard

theorem faults_lie_at_first_impossible_of_early_bracket :
    let text := "1 + ) * 2".toList
    nesting (Text.withoutBlanks text) ≤ depthLimit ∧ evaluate text = .error (.notANumber ')' 2) ∧
      Blames "1+)*2".toList "Expected a number at position 2, got ')'" := by
  intro text
  have shallow : nesting (Text.withoutBlanks text) ≤ depthLimit := by decide +kernel
  have fails : evaluate text = .error (.notANumber ')' 2) := by rfl
  have clean : Text.withoutBlanks text = "1+)*2".toList := by decide +kernel
  have blames := faults_lie_at_first_impossible text _ shallow fails (by decide)
  rw [clean] at blames
  exact ⟨shallow, fails, blames⟩

end

end TenPuzzle
