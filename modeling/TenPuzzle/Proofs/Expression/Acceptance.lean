import TenPuzzle.Expression.Machine
import TenPuzzle.Proofs.Expression.Grammar

/-!
What the machine does with a derivable text. A derivable part of a text moves it from the point
where the part may start to the point behind it, with the value of the part's tree in hand; a part
without a value stops it as undefined.
-/

namespace TenPuzzle

variable {α : Type}

def Arithmetic.AddsAlways (arithmetic : Arithmetic α) : Prop :=
  ∀ operator left right, operator.isSum = true → ∃ value, arithmetic.apply operator left right = some value

def Expr.outcome (arithmetic : Arithmetic α) (tree : Expr) : Except Expr.Fault α :=
  match tree.value arithmetic with
  | some value => .ok value
  | none => .error .undefined

/-- The machine behind a complete term, with a sum that waits for it. -/
def Machine.behind (enclosing : List (Context α)) (sum : Option (α × Operator)) (term : α) : Machine α :=
  ⟨enclosing, ⟨sum, none, 0⟩, .term term⟩

def Machine.before (enclosing : List (Context α)) (context : Context α) : Machine α :=
  ⟨enclosing, context, .operand⟩

def levelDepth (enclosing : List (Context α)) : Nat :=
  enclosing.foldr (fun context depth => depth + 3 + context.signs) 0

theorem foldl_depth (enclosing : List (Context α)) (start : Nat) :
    enclosing.foldl (fun depth context => depth + 3 + context.signs) start =
      start + levelDepth enclosing := by
  induction enclosing generalizing start with
  | nil => rfl
  | cons context enclosing ih =>
      simp only [List.foldl_cons, ih, levelDepth, List.foldr_cons]
      omega

theorem depth_before (enclosing : List (Context α)) (context : Context α) :
    (Machine.before enclosing context).depth = context.signs + levelDepth enclosing :=
  foldl_depth enclosing context.signs

theorem levelDepth_cons (context : Context α) (enclosing : List (Context α)) :
    levelDepth (context :: enclosing) = levelDepth enclosing + 3 + context.signs := rfl

theorem run_digits_end [DepthLimit] (arithmetic : Arithmetic α) (enclosing : List (Context α))
    (context : Context α) (read : List Char) (position : Nat) {rest : List Char}
    (complete : StartsNoDigit rest) :
    (Machine.mk enclosing context (.digits read)).run arithmetic position rest =
      (context.term arithmetic (arithmetic.number read.reverse)).bind fun term =>
        (Machine.behind enclosing context.sum term).run arithmetic position rest := by
  cases rest with
  | nil => rfl
  | cons found rest =>
      have notDigit : found.isDigit = false := complete found rest rfl
      simp only [Machine.run, Machine.step, notDigit, Bool.false_eq_true, if_false]
      cases context.term arithmetic (arithmetic.number read.reverse) <;> rfl

theorem run_digits_append [DepthLimit] (arithmetic : Arithmetic α) (enclosing : List (Context α))
    (context : Context α) (read digits : List Char) (position : Nat) (rest : List Char)
    (allDigits : ∀ digit ∈ digits, digit.isDigit = true) :
    (Machine.mk enclosing context (.digits read)).run arithmetic position (digits ++ rest) =
      (Machine.mk enclosing context (.digits (digits.reverse ++ read))).run arithmetic
        (position + digits.length) rest := by
  induction digits generalizing read position with
  | nil => rfl
  | cons digit digits ih =>
      have isDigit := allDigits digit (by simp)
      have later := ih (digit :: read) (position + 1) fun other member => allDigits other (by simp [member])
      have steps : position + 1 + digits.length = position + (digits.length + 1) := by omega
      simpa [Machine.run, Machine.step, isDigit, bind, Except.bind, steps] using later

theorem run_number [DepthLimit] (arithmetic : Arithmetic α) (enclosing : List (Context α)) (context : Context α)
    (digits : List Char) (position : Nat) {rest : List Char} (nonempty : digits ≠ [])
    (allDigits : ∀ digit ∈ digits, digit.isDigit = true) (complete : StartsNoDigit rest) :
    (Machine.before enclosing context).run arithmetic position (digits ++ rest) =
      (context.term arithmetic (arithmetic.number digits)).bind fun term =>
        (Machine.behind enclosing context.sum term).run arithmetic (position + digits.length) rest := by
  obtain ⟨digit, digits, rfl⟩ := List.exists_cons_of_ne_nil nonempty
  have isDigit := allDigits digit (by simp)
  have begin : (Machine.before enclosing context).step arithmetic position digit =
      .ok ⟨enclosing, context, .digits [digit]⟩ := by
    simp [Machine.before, Machine.step, isDigit,
      ne_of_isDigit isDigit (show '('.isDigit = false from rfl),
      ne_of_isDigit isDigit (show '-'.isDigit = false from rfl)]
  have later := run_digits_append arithmetic enclosing context [digit] digits (position + 1) rest
    fun other member => allDigits other (by simp [member])
  have steps : position + 1 + digits.length = position + (digits.length + 1) := by omega
  rw [List.cons_append, Machine.run, begin]
  change Machine.run arithmetic ⟨enclosing, context, .digits [digit]⟩ (position + 1) (digits ++ rest) = _
  rw [later, run_digits_end arithmetic enclosing context _ _ complete, steps]
  simp

theorem run_symbol [DepthLimit] (arithmetic : Arithmetic α) (enclosing : List (Context α))
    (sum : Option (α × Operator)) (term : α) (operator : Operator) (position : Nat) (rest : List Char)
    (strong : operator.isSum = false) :
    (Machine.behind enclosing sum term).run arithmetic position (operator.symbol :: rest) =
      (Machine.before enclosing ⟨sum, some (term, operator), 0⟩).run arithmetic (position + 1) rest := by
  cases operator <;> first | rfl | simp [Operator.isSum] at strong

theorem run_symbol_sum [DepthLimit] (arithmetic : Arithmetic α) (enclosing : List (Context α))
    (sum : Option (α × Operator)) (term : α) (operator : Operator) (position : Nat) (rest : List Char)
    (weak : operator.isSum = true) :
    (Machine.behind enclosing sum term).run arithmetic position (operator.symbol :: rest) =
      (Context.applyPending arithmetic term sum).bind fun total =>
        (Machine.before enclosing ⟨some (total, operator), none, 0⟩).run arithmetic (position + 1) rest := by
  have step : (Machine.behind enclosing sum term).step arithmetic position operator.symbol =
      (Context.applyPending arithmetic term sum).bind fun total =>
        .ok (Machine.before enclosing ⟨some (total, operator), none, 0⟩) := by
    cases operator <;> first | rfl | simp [Operator.isSum] at weak
  rw [Machine.run, step]
  cases Context.applyPending arithmetic term sum <;> rfl

theorem run_close [DepthLimit] (arithmetic : Arithmetic α) (enclosing : List (Context α)) (context : Context α)
    (sum : Option (α × Operator)) (term : α) (position : Nat) (rest : List Char) :
    (Machine.behind (context :: enclosing) sum term).run arithmetic position (')' :: rest) =
      (Context.applyPending arithmetic term sum).bind fun total =>
        (context.term arithmetic (arithmetic.group total)).bind fun value =>
          (Machine.behind enclosing context.sum value).run arithmetic (position + 1) rest := by
  have step : (Machine.behind (context :: enclosing) sum term).step arithmetic position ')' =
      (Context.applyPending arithmetic term sum).bind fun total =>
        (context.term arithmetic (arithmetic.group total)).bind fun value =>
          .ok (Machine.behind enclosing context.sum value) := rfl
  rw [Machine.run, step]
  cases Context.applyPending arithmetic term sum with
  | error fault => rfl
  | ok total =>
      simp only [Except.bind]
      cases context.term arithmetic (arithmetic.group total) <;> rfl

theorem run_open [DepthLimit] (arithmetic : Arithmetic α) (enclosing : List (Context α)) (context : Context α)
    (position : Nat) (rest : List Char)
    (shallow : context.signs + levelDepth enclosing + 3 ≤ depthLimit) :
    (Machine.before enclosing context).run arithmetic position ('(' :: rest) =
      (Machine.before (context :: enclosing) .fresh).run arithmetic (position + 1) rest := by
  have step : (Machine.before enclosing context).step arithmetic position '(' =
      .ok (Machine.before (context :: enclosing) .fresh) := by
    change (Machine.before enclosing context).open = _
    rw [Machine.open, depth_before, if_neg (by omega)]
    rfl
  rw [Machine.run, step]
  rfl

theorem run_sign [DepthLimit] (arithmetic : Arithmetic α) (enclosing : List (Context α)) (context : Context α)
    (position : Nat) (rest : List Char)
    (shallow : context.signs + levelDepth enclosing + 1 ≤ depthLimit) :
    (Machine.before enclosing context).run arithmetic position ('-' :: rest) =
      (Machine.before enclosing { context with signs := context.signs + 1 }).run arithmetic
        (position + 1) rest := by
  have step : (Machine.before enclosing context).step arithmetic position '-' =
      .ok (Machine.before enclosing { context with signs := context.signs + 1 }) := by
    change (Machine.before enclosing context).sign = _
    rw [Machine.sign, depth_before, if_neg (by omega)]
    rfl
  rw [Machine.run, step]
  rfl

theorem repeat_comm (transform : α → α) (count : Nat) (value : α) :
    Nat.repeat transform count (transform value) = transform (Nat.repeat transform count value) := by
  induction count with
  | zero => rfl
  | succ count ih => rw [Nat.repeat, ih, Nat.repeat]

theorem outcome_negate (arithmetic : Arithmetic α) (operand : Expr) :
    (Expr.negate operand).outcome arithmetic =
      (operand.outcome arithmetic).bind fun value => .ok (arithmetic.negate value) := by
  simp only [Expr.outcome, Expr.value]
  cases operand.value arithmetic <;> rfl

theorem outcome_group (arithmetic : Arithmetic α) (inner : Expr) :
    (Expr.group inner).outcome arithmetic =
      (inner.outcome arithmetic).bind fun value => .ok (arithmetic.group value) := by
  simp only [Expr.outcome, Expr.value]
  cases inner.value arithmetic <;> rfl

theorem outcome_binary (arithmetic : Arithmetic α) (operator : Operator) (left right : Expr) :
    (Expr.binary operator left right).outcome arithmetic =
      (left.outcome arithmetic).bind fun leftValue =>
        (right.outcome arithmetic).bind fun rightValue =>
          Context.applyPending arithmetic rightValue (some (leftValue, operator)) := by
  simp only [Expr.outcome, Expr.value, Context.applyPending]
  cases left.value arithmetic with
  | none => rfl
  | some leftValue =>
      cases right.value arithmetic with
      | none => rfl
      | some rightValue =>
          cases combined : arithmetic.apply operator leftValue rightValue with
          | none => simp [combined, Except.bind]
          | some result => simp [combined, Except.bind]

/-- What the machine makes of a text of each level, whatever stands around it. -/
def Accepts [DepthLimit] (arithmetic : Arithmetic α) (text : List Char) (tree : Expr) : Level → Prop
  | .factor => ∀ enclosing context position rest, Separate text rest →
      context.signs + levelDepth enclosing + tree.nesting ≤ depthLimit →
      (Machine.before enclosing context).run arithmetic position (text ++ rest) =
        (tree.outcome arithmetic).bind fun value =>
          (context.term arithmetic value).bind fun term =>
            (Machine.behind enclosing context.sum term).run arithmetic (position + text.length) rest
  | .term => ∀ enclosing sum position rest, Separate text rest →
      levelDepth enclosing + tree.nesting ≤ depthLimit →
      (Machine.before enclosing ⟨sum, none, 0⟩).run arithmetic position (text ++ rest) =
        (tree.outcome arithmetic).bind fun value =>
          (Machine.behind enclosing sum value).run arithmetic (position + text.length) rest
  | .expression => ∃ outcome : Except Expr.Fault (Option (α × Operator) × α),
      tree.outcome arithmetic = outcome.bind (fun parts => Context.applyPending arithmetic parts.2 parts.1) ∧
      ∀ enclosing position rest, Separate text rest →
        levelDepth enclosing + tree.nesting ≤ depthLimit →
        (Machine.before enclosing .fresh).run arithmetic position (text ++ rest) =
          outcome.bind fun parts =>
            (Machine.behind enclosing parts.1 parts.2).run arithmetic (position + text.length) rest

section

variable [DepthLimit] {arithmetic : Arithmetic α} {operator : Operator} {text leftText rightText : List Char}
  {tree left right : Expr}

theorem accepts_negate (accepts : Accepts arithmetic text tree .factor) :
    Accepts arithmetic ('-' :: text) (.negate tree) .factor := by
  intro enclosing context position rest complete shallow
  simp only [Expr.nesting] at shallow
  have signed := accepts enclosing { context with signs := context.signs + 1 } (position + 1) rest
    complete.of_cons (by simp only; omega)
  have steps : position + 1 + text.length = position + (text.length + 1) := by omega
  rw [List.cons_append, run_sign arithmetic enclosing context position _ (by omega), signed,
    outcome_negate, List.length_cons, steps]
  cases tree.outcome arithmetic with
  | error fault => rfl
  | ok value =>
      simp only [Except.bind, Context.term, repeat_comm]
      rfl

theorem accepts_group (accepts : Accepts arithmetic text tree .expression) :
    Accepts arithmetic ('(' :: text ++ [')']) (.group tree) .factor := by
  intro enclosing context position rest complete shallow
  simp only [Expr.nesting] at shallow
  obtain ⟨outcome, agrees, inner⟩ := accepts
  have reads := inner (context :: enclosing) (position + 1) (')' :: rest)
    ((startsNoDigit_cons rfl).separate text) (by rw [levelDepth_cons]; omega)
  have steps : position + 1 + text.length + 1 = position + ('(' :: text ++ [')']).length := by
    simp only [List.cons_append, List.length_cons, List.length_append, List.length_nil]
    omega
  rw [List.append_assoc, List.cons_append, run_open arithmetic enclosing context position _ (by omega)]
  rw [List.cons_append, List.nil_append, reads, outcome_group, agrees, ← steps]
  cases outcome with
  | error fault => rfl
  | ok parts =>
      simp only [Except.bind, run_close]
      cases Context.applyPending arithmetic parts.2 parts.1 <;> rfl

theorem accepts_product (strong : operator.isSum = false)
    (leftAccepts : Accepts arithmetic leftText left .term)
    (rightAccepts : Accepts arithmetic rightText right .factor) :
    Accepts arithmetic (leftText ++ operator.symbol :: rightText) (.binary operator left right) .term := by
  intro enclosing sum position rest complete shallow
  simp only [Expr.nesting] at shallow
  have first := leftAccepts enclosing sum position (operator.symbol :: (rightText ++ rest))
    ((startsNoDigit_cons (symbol_isDigit operator)).separate leftText) (by omega)
  have steps : position + leftText.length + 1 + rightText.length =
      position + (leftText ++ operator.symbol :: rightText).length := by
    simp only [List.length_append, List.length_cons]
    omega
  have ends : Separate rightText rest := complete.of_append.of_cons
  rw [List.append_assoc, List.cons_append, first, outcome_binary]
  cases left.outcome arithmetic with
  | error fault => rfl
  | ok leftValue =>
      have second := rightAccepts enclosing ⟨sum, some (leftValue, operator), 0⟩
        (position + leftText.length + 1) rest ends (by simp only; omega)
      simp only [Except.bind, run_symbol arithmetic enclosing sum leftValue operator _ _ strong]
      rw [second, steps]
      cases right.outcome arithmetic <;> rfl

theorem accepts_term (accepts : Accepts arithmetic text tree .term) :
    Accepts arithmetic text tree .expression := by
  refine ⟨(tree.outcome arithmetic).bind fun value => .ok (none, value), ?_, ?_⟩
  · cases tree.outcome arithmetic <;> rfl
  · intro enclosing position rest complete shallow
    have reads := accepts enclosing none position rest complete shallow
    refine reads.trans ?_
    cases tree.outcome arithmetic <;> rfl

theorem accepts_sum (weak : operator.isSum = true)
    (leftAccepts : Accepts arithmetic leftText left .expression)
    (rightAccepts : Accepts arithmetic rightText right .term) :
    Accepts arithmetic (leftText ++ operator.symbol :: rightText) (.binary operator left right) .expression := by
  obtain ⟨outcome, agrees, first⟩ := leftAccepts
  refine ⟨(left.outcome arithmetic).bind fun leftValue => (right.outcome arithmetic).bind fun rightValue =>
    .ok (some (leftValue, operator), rightValue), ?_, ?_⟩
  · rw [outcome_binary]
    cases left.outcome arithmetic with
    | error fault => rfl
    | ok leftValue =>
        simp only [Except.bind]
        cases right.outcome arithmetic <;> rfl
  · intro enclosing position rest complete shallow
    simp only [Expr.nesting] at shallow
    have reads := first enclosing position (operator.symbol :: (rightText ++ rest))
      ((startsNoDigit_cons (symbol_isDigit operator)).separate leftText) (by omega)
    have steps : position + leftText.length + 1 + rightText.length =
        position + (leftText ++ operator.symbol :: rightText).length := by
      simp only [List.length_append, List.length_cons]
      omega
    have ends : Separate rightText rest := complete.of_append.of_cons
    rw [List.append_assoc, List.cons_append, reads, agrees]
    cases outcome with
    | error fault => rfl
    | ok leftParts =>
        simp only [Except.bind, run_symbol_sum arithmetic enclosing _ _ operator _ _ weak]
        cases Context.applyPending arithmetic leftParts.2 leftParts.1 with
        | error fault => rfl
        | ok total =>
            have second := rightAccepts enclosing (some (total, operator))
              (position + leftText.length + 1) rest ends (by omega)
            simp only
            rw [second, steps]
            cases right.outcome arithmetic <;> rfl

end

theorem Derives.accepts [DepthLimit] (arithmetic : Arithmetic α) {level text tree}
    (derives : Derives level text tree) : Accepts arithmetic text tree level := by
  induction derives with
  | @number digits nonempty allDigits =>
      intro enclosing context position rest complete shallow
      exact run_number arithmetic enclosing context digits position nonempty allDigits
        (complete.startsNoDigit nonempty allDigits)
  | negate _ ih => exact accepts_negate ih
  | group _ ih => exact accepts_group ih
  | factor _ ih =>
      intro enclosing sum position rest complete shallow
      have reads := ih enclosing ⟨sum, none, 0⟩ position rest complete (by simp only; omega)
      rw [reads]
      rfl
  | product strong _ _ leftIh rightIh => exact accepts_product strong leftIh rightIh
  | term _ ih => exact accepts_term ih
  | sum weak _ _ leftIh rightIh => exact accepts_sum weak leftIh rightIh

/-- Reading a derivable text from the start gives the value of its tree. -/
theorem Derives.run_start [DepthLimit] (arithmetic : Arithmetic α) {text tree}
    (derives : Derives .expression text tree) (shallow : tree.nesting ≤ depthLimit) :
    Machine.start.run arithmetic 0 text = tree.outcome arithmetic := by
  obtain ⟨outcome, agrees, reads⟩ := derives.accepts arithmetic
  have whole := reads [] 0 [] (startsNoDigit_nil.separate text) (by simpa [levelDepth] using shallow)
  rw [List.append_nil] at whole
  rw [agrees]
  refine whole.trans ?_
  cases outcome <;> rfl

end TenPuzzle
