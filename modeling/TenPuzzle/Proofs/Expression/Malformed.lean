import TenPuzzle.Expression.Evaluation
import TenPuzzle.Proofs.Expression.Prefix

/-!
When an evaluation ends as undefined. It does exactly if the text starts with a part that ends in a
term without a value, whatever stands behind that part: a division by zero wins over every fault
further to the right, and over none to its left.
-/

namespace TenPuzzle

variable {α : Type}

def Stops (arithmetic : Arithmetic α) (text : List Char) : Prop :=
  ∃ before term tree, text = before ++ term ∧ Opens before ∧ Derives .term term tree ∧
    tree.value arithmetic = none

/-- A division without a result is complete before anything else is wrong. -/
def DividesEarly [DepthLimit] (arithmetic : Arithmetic α) (text : List Char) : Prop :=
  ∃ taken after, text = taken ++ after ∧ Stops arithmetic taken ∧ Separate taken after ∧
    nesting taken ≤ depthLimit

theorem Context.Keeps.stops {arithmetic : Arithmetic α} {shapes enclosing shape context text tree}
    (outer : List.Forall₂ (Context.Keeps arithmetic) shapes enclosing)
    (keeps : Context.Keeps arithmetic shape context)
    (derives : Derives .term (shape.productText ++ text) tree) (noValue : tree.value arithmetic = none) :
    Stops arithmetic (enclosingText shapes ++ pendingText shape.sum ++ shape.productText ++ text) :=
  ⟨enclosingText shapes ++ pendingText shape.sum, shape.productText ++ text, tree, by simp,
    (opens_enclosing outer).append_waits keeps.sum, derives, noValue⟩

theorem Machine.Reads.stops_of_complete {arithmetic : Arithmetic α} {machine : Machine α}
    {text : List Char} (reads : machine.Reads arithmetic text) (begun : machine.cursor ≠ .operand)
    (undefined : machine.complete arithmetic = .error .undefined) : Stops arithmetic text := by
  obtain @⟨shapes, enclosing, shape, context, cursor, operand, outer, keeps, operandReads⟩ := reads
  obtain ⟨tree, derives, outcome⟩ := keeps.complete operandReads begun enclosing
  rw [undefined] at outcome
  exact keeps.stops outer derives (outcome_eq_error outcome.symm)

theorem Machine.Reads.total_isOk {arithmetic : Arithmetic α} {machine : Machine α} {text : List Char}
    (adds : arithmetic.AddsAlways) (reads : machine.Reads arithmetic text) (term : α) :
    ∃ total, machine.context.total arithmetic term = .ok total := by
  obtain @⟨shapes, enclosing, shape, context, cursor, operand, outer, keeps, operandReads⟩ := reads
  obtain ⟨waits, _, _⟩ := keeps
  change ∃ total, Context.applyPending arithmetic term context.sum = .ok total
  revert waits
  generalize shape.sum = pendingTree, context.sum = pending
  intro waits
  cases waits with
  | none => exact ⟨term, rfl⟩
  | @some left leftValue operator _ _ weak =>
      obtain ⟨total, isTotal⟩ := adds operator leftValue term weak
      exact ⟨total, by simp [Context.applyPending, isTotal]⟩

theorem bind_eq_error {result : Except Expr.Fault α} {β : Type} {next : α → Except Expr.Fault β}
    {fault : Expr.Fault} (fails : (do let first ← result; next first) = .error fault) :
    result = .error fault ∨ ∃ first, result = .ok first ∧ next first = .error fault := by
  cases result with
  | error other =>
      left
      simpa [bind, Except.bind] using fails
  | ok first => exact .inr ⟨first, rfl, fails⟩

theorem Machine.Reads.stops_of_close {arithmetic : Arithmetic α} {machine : Machine α}
    {text : List Char} {context enclosing term total} (reads : machine.Reads arithmetic text)
    (begun : machine.cursor ≠ .operand) (isEnclosed : machine.enclosing = context :: enclosing)
    (complete : machine.complete arithmetic = .ok term)
    (isTotal : machine.context.total arithmetic term = .ok total)
    (undefined : context.term arithmetic (arithmetic.group total) = .error .undefined) :
    Stops arithmetic (text ++ [')']) := by
  obtain @⟨shapes, _, shape, _, cursor, operand, outer, keeps, operandReads⟩ := reads
  cases isEnclosed
  cases outer with
  | @cons outerShape _ shapes _ outsideKeeps outer =>
      obtain ⟨whole, wholeDerives, wholeValue⟩ := keeps.complete_total operandReads begun complete isTotal
      obtain ⟨term, termDerives, termOutcome⟩ := outsideKeeps.close wholeDerives wholeValue
      rw [undefined] at termOutcome
      have stops := outsideKeeps.stops outer termDerives (outcome_eq_error termOutcome.symm)
      simpa [enclosingText] using stops

theorem afterTerm_undefined {arithmetic : Arithmetic α} {machine : Machine α} {term total : α}
    {position : Nat} {found : Char} (isTotal : machine.context.total arithmetic term = .ok total)
    (undefined : machine.afterTerm arithmetic term position found = .error .undefined) :
    found = ')' ∧ ∃ context enclosing, machine.enclosing = context :: enclosing ∧
      context.term arithmetic (arithmetic.group total) = .error .undefined := by
  unfold Machine.afterTerm Machine.add Machine.close at undefined
  rw [isTotal] at undefined
  split at undefined
  · simp at undefined
  split at undefined
  · simp at undefined
  split at undefined
  · simp [bind, Except.bind] at undefined
  split at undefined
  · simp [bind, Except.bind] at undefined
  split at undefined
  · next isBracket =>
      refine ⟨isBracket, ?_⟩
      split at undefined
      · simp at undefined
      · next context enclosing isEnclosed =>
          refine ⟨context, enclosing, isEnclosed, ?_⟩
          rcases bind_eq_error undefined with noTotal | ⟨_, same, later⟩
          · simp at noTotal
          · cases same
            rcases bind_eq_error later with noTerm | ⟨value, _, impossible⟩
            · exact noTerm
            · simp at impossible
  · split at undefined <;> simp at undefined

theorem Machine.Reads.stops_of_step [DepthLimit] {arithmetic : Arithmetic α} {machine : Machine α}
    {text : List Char} {position : Nat} {found : Char} (adds : arithmetic.AddsAlways)
    (reads : machine.Reads arithmetic text)
    (undefined : machine.step arithmetic position found = .error .undefined) :
    (Stops arithmetic text ∧ found.isDigit = false) ∨ (Stops arithmetic (text ++ [')']) ∧ found = ')') := by
  by_cases ends : machine.cursor.EndsBefore found
  · rw [step_eq_complete arithmetic machine position found ends] at undefined
    rcases bind_eq_error undefined with incomplete | ⟨term, complete, after⟩
    · refine .inl ⟨reads.stops_of_complete ends.begun incomplete, ?_⟩
      obtain ⟨enclosing, context, cursor⟩ := machine
      cases cursor with
      | operand => exact ends.elim
      | digits read => exact ends
      | term value => simp [Machine.complete] at incomplete
    · obtain ⟨total, isTotal⟩ := reads.total_isOk adds term
      obtain ⟨isBracket, context, enclosing, isEnclosed, noTerm⟩ := afterTerm_undefined isTotal after
      exact .inr ⟨reads.stops_of_close ends.begun isEnclosed complete isTotal noTerm, isBracket⟩
  · obtain ⟨enclosing, context, cursor⟩ := machine
    cases cursor with
    | operand =>
        simp only [Machine.step, Machine.open, Machine.sign] at undefined
        repeat' split at undefined
        all_goals simp at undefined
    | digits read =>
        have isDigit : found.isDigit = true := by simpa [Cursor.EndsBefore] using ends
        simp [Machine.step, isDigit] at undefined
    | term value => exact (ends trivial).elim

theorem separate_bracket (text rest : List Char) : Separate (text ++ [')']) rest := by
  intro last isLast isDigit
  rw [List.getLast?_append] at isLast
  cases isLast
  simp at isDigit

/-- A run that ends as undefined has stopped at a part of the text that divides by zero. -/
theorem Machine.Reads.dividesEarly [DepthLimit] {arithmetic : Arithmetic α} {machine : Machine α}
    {text rest : List Char} {position : Nat} (adds : arithmetic.AddsAlways)
    (reads : machine.Reads arithmetic text)
    (around : machine.surroundings = text.foldl Surroundings.step .start)
    (shallow : nesting text ≤ depthLimit)
    (undefined : machine.run arithmetic position rest = .error .undefined) :
    DividesEarly arithmetic (text ++ rest) := by
  induction rest generalizing machine position text with
  | nil =>
      refine ⟨text, [], rfl, ?_, startsNoDigit_nil.separate text, shallow⟩
      change machine.finish arithmetic position = .error .undefined at undefined
      rw [finish_eq_complete] at undefined
      have begun : machine.cursor ≠ .operand := by
        intro operand
        simp [Machine.complete, operand, Except.bind] at undefined
      rcases bind_eq_error undefined with incomplete | ⟨term, _, ends⟩
      · exact reads.stops_of_complete begun incomplete
      · obtain ⟨total, isTotal⟩ := reads.total_isOk adds term
        split at ends <;> simp [isTotal] at ends
  | cons found rest ih =>
      have here : machine.surroundings.depth ≤ depthLimit := by
        rw [around]
        exact Nat.le_trans (depth_foldl_le_nesting text) shallow
      rw [Machine.run] at undefined
      rcases bind_eq_error undefined with stepFails | ⟨next, steps, later⟩
      · rcases reads.stops_of_step adds stepFails with ⟨stops, notDigit⟩ | ⟨stops, isBracket⟩
        · exact ⟨text, found :: rest, rfl, stops, (startsNoDigit_cons notDigit).separate text, shallow⟩
        · subst isBracket
          refine ⟨text ++ [')'], rest, by simp, stops, separate_bracket text rest, ?_⟩
          rw [nesting_concat, ← around]
          exact Nat.max_le.mpr ⟨shallow, Machine.closing_shallow here⟩
      · have moves := moves_of_step steps
        have whole := ih (moves.reads reads) ?_ ?_ later
        · rwa [List.append_assoc] at whole
        · rw [List.foldl_append, ← around]
          exact moves.surroundings
        · rw [nesting_concat, ← around, ← moves.surroundings]
          exact Nat.max_le.mpr ⟨shallow, moves.shallow here⟩

/-! The other direction: a text that opens a term leads the machine there, or stops it before. -/

/-- What reading an opening text comes to: a machine in front of a term, at the depth that the
characters tell. -/
structure Machine.Reaches [DepthLimit] (arithmetic : Arithmetic α) (before : List Char)
    (enclosing : List (Context α)) (sum : Option (α × Operator)) : Prop where
  weak : ∀ value operator, sum = some (value, operator) → operator.isSum = true
  around : before.foldl Surroundings.step .start = ⟨outerLevels enclosing, levelDepth enclosing, 0, true⟩
  runs : ∀ rest, Machine.start.run arithmetic 0 (before ++ rest) =
    (Machine.before enclosing ⟨sum, none, 0⟩).run arithmetic before.length rest

theorem applyPending_isOk {arithmetic : Arithmetic α} (adds : arithmetic.AddsAlways) (term : α)
    {sum : Option (α × Operator)} (weak : ∀ value operator, sum = some (value, operator) → operator.isSum = true) :
    ∃ total, Context.applyPending arithmetic term sum = .ok total := by
  cases sum with
  | none => exact ⟨term, rfl⟩
  | some pending =>
      obtain ⟨value, operator⟩ := pending
      obtain ⟨total, isTotal⟩ := adds operator value term (weak value operator rfl)
      exact ⟨total, by simp [Context.applyPending, isTotal]⟩

theorem Machine.Reaches.shallow [DepthLimit] {arithmetic : Arithmetic α} {before text tree enclosing sum}
    (reaches : Machine.Reaches arithmetic before enclosing sum) (derives : Derives .term text tree)
    (limited : nesting (before ++ text) ≤ depthLimit) :
    levelDepth enclosing + tree.nesting ≤ depthLimit := by
  have whole := Surroundings.deepest_append .start before text
  have inner := Surroundings.deepest_derives derives (outerLevels enclosing) (levelDepth enclosing) 0 rfl []
  rw [List.append_nil] at inner
  rw [reaches.around, inner] at whole
  unfold nesting at limited
  omega

theorem Machine.Reaches.term [DepthLimit] {arithmetic : Arithmetic α} {before text tree enclosing sum}
    (reaches : Machine.Reaches arithmetic before enclosing sum) (derives : Derives .term text tree)
    (limited : nesting (before ++ text) ≤ depthLimit) {rest : List Char} (separate : Separate text rest) :
    Machine.start.run arithmetic 0 (before ++ (text ++ rest)) =
      (tree.outcome arithmetic).bind fun value =>
        (Machine.behind enclosing sum value).run arithmetic (before.length + text.length) rest := by
  rw [reaches.runs]
  exact derives.accepts arithmetic enclosing sum before.length rest separate
    (reaches.shallow derives limited)

theorem run_signs [DepthLimit] {arithmetic : Arithmetic α} {enclosing : List (Context α)}
    (context : Context α) (count position : Nat) (rest : List Char)
    (limited : context.signs + count + levelDepth enclosing ≤ depthLimit) :
    (Machine.before enclosing context).run arithmetic position (List.replicate count '-' ++ rest) =
      (Machine.before enclosing { context with signs := context.signs + count }).run arithmetic
        (position + count) rest := by
  induction count generalizing context position with
  | zero => rfl
  | succ count ih =>
      have step := run_sign arithmetic enclosing context position (List.replicate count '-' ++ rest) (by omega)
      have later := ih { context with signs := context.signs + 1 } (position + 1) (by simp only; omega)
      have steps : position + 1 + count = position + (count + 1) := by omega
      have total : context.signs + 1 + count = context.signs + (count + 1) := by omega
      rw [List.replicate_succ, List.cons_append, step, later, steps, total]

theorem Machine.Reaches.bracket [DepthLimit] {arithmetic : Arithmetic α} {before : List Char}
    {enclosing : List (Context α)} {sum product : Option (α × Operator)} {count : Nat}
    (around : before.foldl Surroundings.step .start = ⟨outerLevels enclosing, levelDepth enclosing, 0, true⟩)
    (runs : ∀ rest, Machine.start.run arithmetic 0 (before ++ rest) =
      (Machine.before enclosing ⟨sum, product, 0⟩).run arithmetic before.length rest)
    (limited : nesting (before ++ List.replicate count '-' ++ ['(']) ≤ depthLimit) :
    Machine.Reaches arithmetic (before ++ List.replicate count '-' ++ ['('])
      (⟨sum, product, count⟩ :: enclosing) none := by
  have opened : (before ++ List.replicate count '-' ++ ['(']).foldl Surroundings.step .start =
      ⟨levelDepth enclosing :: outerLevels enclosing, levelDepth enclosing + 3 + count, 0, true⟩ := by
    rw [List.append_assoc, List.foldl_append, around, Surroundings.foldl_bracket]
  have depth := depth_foldl_le_nesting (before ++ List.replicate count '-' ++ ['('])
  rw [opened] at depth
  simp only [Surroundings.depth] at depth
  refine ⟨by simp, opened, ?_⟩
  intro rest
  have signed := @run_signs α _ arithmetic enclosing ⟨sum, product, 0⟩ count before.length ('(' :: rest)
    (by simp only; omega)
  have bracket := run_open arithmetic enclosing ⟨sum, product, 0 + count⟩ (before.length + count) rest
    (by simp only; omega)
  have steps : before.length + count + 1 = (before ++ List.replicate count '-' ++ ['(']).length := by
    simp
    omega
  have parts : before ++ List.replicate count '-' ++ ['('] ++ rest =
      before ++ (List.replicate count '-' ++ '(' :: rest) := by simp
  rw [parts, runs, signed, bracket, steps, Nat.zero_add]
  rfl

section

variable [DepthLimit] {arithmetic : Arithmetic α} {before text : List Char} {tree : Expr} {value total : α}
  {enclosing : List (Context α)} {sum : Option (α × Operator)} {operator : Operator}

theorem Machine.Reaches.undefined (reaches : Machine.Reaches arithmetic before enclosing sum)
    (derives : Derives .term text tree) (limited : nesting (before ++ text) ≤ depthLimit)
    (noValue : tree.value arithmetic = none) {rest : List Char} (separate : Separate text rest) :
    Machine.start.run arithmetic 0 (before ++ (text ++ rest)) = .error .undefined := by
  rw [reaches.term derives limited separate, outcome_eq_undefined.mpr noValue]
  rfl

theorem Machine.Reaches.around_symbol (reaches : Machine.Reaches arithmetic before enclosing sum)
    (derives : Derives .term text tree) :
    (before ++ text ++ [operator.symbol]).foldl Surroundings.step .start =
      ⟨outerLevels enclosing, levelDepth enclosing, 0, true⟩ := by
  rw [List.foldl_append, List.foldl_append, reaches.around, Surroundings.foldl_derives derives]
  exact Surroundings.step_operator _ _ operator

theorem Machine.Reaches.append_sum (reaches : Machine.Reaches arithmetic before enclosing sum)
    (derives : Derives .term text tree) (limited : nesting (before ++ text) ≤ depthLimit)
    (isValue : tree.value arithmetic = some value) (weak : operator.isSum = true)
    (isTotal : Context.applyPending arithmetic value sum = .ok total) :
    Machine.Reaches arithmetic (before ++ text ++ [operator.symbol]) enclosing (some (total, operator)) := by
  refine ⟨?_, reaches.around_symbol derives, ?_⟩
  · intro _ _ same
    cases same
    exact weak
  · intro rest
    have whole := @Machine.Reaches.term α _ arithmetic _ _ _ _ _ reaches derives limited (operator.symbol :: rest)
      ((startsNoDigit_cons (symbol_isDigit operator)).separate text)
    rw [outcome_eq_ok.mpr isValue] at whole
    simp only [Except.bind, run_symbol_sum arithmetic enclosing sum value operator _ rest weak, isTotal] at whole
    simpa [Nat.add_assoc] using whole

theorem Machine.Reaches.append_product (reaches : Machine.Reaches arithmetic before enclosing sum)
    (derives : Derives .term text tree) (shorter : nesting (before ++ text) ≤ depthLimit)
    (isValue : tree.value arithmetic = some value) (strong : operator.isSum = false) {count : Nat}
    (limited : nesting (before ++ (text ++ [operator.symbol]) ++ List.replicate count '-' ++ ['(']) ≤ depthLimit) :
    Machine.Reaches arithmetic (before ++ (text ++ [operator.symbol]) ++ List.replicate count '-' ++ ['('])
      (⟨sum, some (value, operator), count⟩ :: enclosing) none := by
  apply Machine.Reaches.bracket ?_ ?_ limited
  · rw [← List.append_assoc]
    exact reaches.around_symbol derives
  · intro rest
    have whole := @Machine.Reaches.term α _ arithmetic _ _ _ _ _ reaches derives shorter (operator.symbol :: rest)
      ((startsNoDigit_cons (symbol_isDigit operator)).separate text)
    rw [outcome_eq_ok.mpr isValue] at whole
    simp only [Except.bind, run_symbol arithmetic enclosing sum value operator _ rest strong] at whole
    simpa [Nat.add_assoc] using whole

end

theorem Opens.reaches [DepthLimit] {arithmetic : Arithmetic α} {before : List Char} (adds : arithmetic.AddsAlways)
    (opens : Opens before) (limited : nesting before ≤ depthLimit) :
    (∃ enclosing sum, Machine.Reaches arithmetic before enclosing sum) ∨
      ∀ rest, Machine.start.run arithmetic 0 (before ++ rest) = .error .undefined := by
  induction opens with
  | start => exact .inl ⟨[], none, by simp, rfl, fun _ => rfl⟩
  | @sum before text tree operator _ derives weak ih =>
      have shorter : nesting (before ++ text) ≤ depthLimit :=
        Nat.le_trans (nesting_le_append _ [operator.symbol]) limited
      rcases ih (Nat.le_trans (nesting_le_append _ text) shorter) with ⟨enclosing, sum, reaches⟩ | stopped
      · cases isValue : tree.value arithmetic with
        | none =>
            right
            intro rest
            have whole := reaches.undefined derives shorter isValue
              ((@startsNoDigit_cons operator.symbol rest (symbol_isDigit operator)).separate text)
            simpa using whole
        | some value =>
            obtain ⟨total, isTotal⟩ := applyPending_isOk adds value reaches.weak
            exact .inl ⟨_, _, reaches.append_sum derives shorter isValue weak isTotal⟩
      · right
        intro rest
        simpa using stopped (text ++ operator.symbol :: rest)
  | @bracket before signs _ ih =>
      have shorter : nesting before ≤ depthLimit := by
        refine Nat.le_trans (nesting_le_append before (List.replicate signs '-' ++ ['('])) ?_
        rwa [← List.append_assoc]
      rcases ih shorter with ⟨enclosing, sum, reaches⟩ | stopped
      · exact .inl ⟨_, none, Machine.Reaches.bracket reaches.around reaches.runs limited⟩
      · right
        intro rest
        simpa using stopped (List.replicate signs '-' ++ '(' :: rest)
  | @product before text tree signs operator _ derives strong ih =>
      have shorter : nesting (before ++ text) ≤ depthLimit := by
        refine Nat.le_trans (nesting_le_append _ (operator.symbol :: (List.replicate signs '-' ++ ['(']))) ?_
        simpa using limited
      rcases ih (Nat.le_trans (nesting_le_append _ text) shorter) with ⟨enclosing, sum, reaches⟩ | stopped
      · cases isValue : tree.value arithmetic with
        | none =>
            right
            intro rest
            have whole := reaches.undefined derives shorter isValue
              ((@startsNoDigit_cons operator.symbol (List.replicate signs '-' ++ '(' :: rest)
                (symbol_isDigit operator)).separate text)
            simpa using whole
        | some value => exact .inl ⟨_, none, reaches.append_product derives shorter isValue strong limited⟩
      · right
        intro rest
        simpa using stopped (text ++ operator.symbol :: (List.replicate signs '-' ++ '(' :: rest))

theorem DividesEarly.run_undefined [DepthLimit] {arithmetic : Arithmetic α} {text : List Char}
    (adds : arithmetic.AddsAlways) (divides : DividesEarly arithmetic text) :
    Machine.start.run arithmetic 0 text = .error .undefined := by
  obtain ⟨_, after, rfl, ⟨before, term, tree, rfl, opens, derives, noValue⟩, separate, limited⟩ := divides
  rw [List.append_assoc]
  rcases opens.reaches adds (Nat.le_trans (nesting_le_append _ term) limited) with
    ⟨enclosing, sum, reaches⟩ | stopped
  · exact reaches.undefined derives limited noValue separate.of_append
  · exact stopped (term ++ after)

end TenPuzzle
