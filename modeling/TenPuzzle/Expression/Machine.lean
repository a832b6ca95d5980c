import TenPuzzle.Expression.Basic

/-!
A machine that reads an expression character by character and computes as it goes. Between two
characters it keeps, for every open bracket, the operands that still wait for a right-hand side. A
result that does not exist stops it at once, before the characters that follow are looked at.
-/

namespace TenPuzzle

inductive Expr.Fault where
  | undefined
  | empty
  | tooDeep
  | unexpectedEnd
  | notANumber (found : Char) (position : Nat)
  | unclosed (position : Nat)
  | unexpected (found : Char) (position : Nat)
  deriving DecidableEq, Repr

/-- What waits, on one level of nesting, for the operand being read. -/
structure Context (α : Type) where
  sum : Option (α × Operator)
  product : Option (α × Operator)
  signs : Nat
  deriving DecidableEq, Repr

inductive Cursor (α : Type) where
  | operand
  | digits (read : List Char)
  | term (value : α)
  deriving DecidableEq, Repr

/-- The contexts are those of the enclosing brackets, innermost first. -/
structure Machine (α : Type) where
  enclosing : List (Context α)
  context : Context α
  cursor : Cursor α
  deriving DecidableEq, Repr

variable {α : Type}

def Context.fresh : Context α := ⟨none, none, 0⟩

def Machine.start : Machine α := ⟨[], .fresh, .operand⟩

/-- An open bracket weighs three and a sign one. -/
def Machine.depth (machine : Machine α) : Nat :=
  machine.enclosing.foldl (fun depth context => depth + 3 + context.signs) machine.context.signs

/-- How deep an expression may be nested before it is given up. The runtime sets this limit; it leaves room for a
bracket for each of four operands. -/
class DepthLimit where
  value : Nat
  enough : 12 ≤ value

def depthLimit [limit : DepthLimit] : Nat := limit.value

/-- The limit of a thousand calls, less those around the reader. -/
@[reducible] def DepthLimit.standard : DepthLimit := ⟨960, by decide⟩

def Context.applyPending (arithmetic : Arithmetic α) (value : α) :
    Option (α × Operator) → Except Expr.Fault α
  | none => .ok value
  | some (left, operator) =>
    match arithmetic.apply operator left value with
    | some result => .ok result
    | none => .error .undefined

def Context.term (arithmetic : Arithmetic α) (context : Context α) (operand : α) : Except Expr.Fault α :=
  applyPending arithmetic (Nat.repeat arithmetic.negate context.signs operand) context.product

def Context.total (arithmetic : Arithmetic α) (context : Context α) (term : α) : Except Expr.Fault α :=
  applyPending arithmetic term context.sum

def Machine.close (arithmetic : Arithmetic α) (machine : Machine α) (term : α) (position : Nat) :
    Except Expr.Fault (Machine α) :=
  match machine.enclosing with
  | [] => .error (.unexpected ')' position)
  | context :: enclosing => do
    let total ← machine.context.total arithmetic term
    let value ← context.term arithmetic (arithmetic.group total)
    .ok ⟨enclosing, ⟨context.sum, none, 0⟩, .term value⟩

def Machine.multiply (machine : Machine α) (term : α) (operator : Operator) : Machine α :=
  ⟨machine.enclosing, ⟨machine.context.sum, some (term, operator), 0⟩, .operand⟩

def Machine.add (arithmetic : Arithmetic α) (machine : Machine α) (term : α) (operator : Operator) :
    Except Expr.Fault (Machine α) := do
  let total ← machine.context.total arithmetic term
  .ok ⟨machine.enclosing, ⟨some (total, operator), none, 0⟩, .operand⟩

def Machine.afterTerm (arithmetic : Arithmetic α) (machine : Machine α) (term : α) (position : Nat)
    (found : Char) : Except Expr.Fault (Machine α) :=
  if found = '*' then .ok (machine.multiply term .mul)
  else if found = '/' then .ok (machine.multiply term .div)
  else if found = '+' then machine.add arithmetic term .add
  else if found = '-' then machine.add arithmetic term .sub
  else if found = ')' then machine.close arithmetic term position
  else if machine.enclosing.isEmpty then .error (.unexpected found position)
  else .error (.unclosed position)

def Machine.open [DepthLimit] (machine : Machine α) : Except Expr.Fault (Machine α) :=
  if depthLimit < machine.depth + 3 then .error .tooDeep
  else .ok ⟨machine.context :: machine.enclosing, .fresh, .operand⟩

def Machine.sign [DepthLimit] (machine : Machine α) : Except Expr.Fault (Machine α) :=
  if depthLimit < machine.depth + 1 then .error .tooDeep
  else .ok { machine with context := { machine.context with signs := machine.context.signs + 1 } }

def Machine.step [DepthLimit] (arithmetic : Arithmetic α) (machine : Machine α) (position : Nat) (found : Char) :
    Except Expr.Fault (Machine α) :=
  match machine.cursor with
  | .operand =>
    if found = '(' then machine.open
    else if found = '-' then machine.sign
    else if found.isDigit then .ok { machine with cursor := .digits [found] }
    else .error (.notANumber found position)
  | .digits read =>
    if found.isDigit then .ok { machine with cursor := .digits (found :: read) }
    else do
      let term ← machine.context.term arithmetic (arithmetic.number read.reverse)
      machine.afterTerm arithmetic term position found
  | .term value => machine.afterTerm arithmetic value position found

def Machine.finish (arithmetic : Arithmetic α) (machine : Machine α) (position : Nat) :
    Except Expr.Fault α := do
  let term ← match machine.cursor with
    | .operand => .error .unexpectedEnd
    | .digits read => machine.context.term arithmetic (arithmetic.number read.reverse)
    | .term value => .ok value
  if machine.enclosing.isEmpty then machine.context.total arithmetic term
  else .error (.unclosed position)

def Machine.run [DepthLimit] (arithmetic : Arithmetic α) (machine : Machine α) (position : Nat) :
    List Char → Except Expr.Fault α
  | [] => machine.finish arithmetic position
  | found :: rest => do
    let next ← machine.step arithmetic position found
    next.run arithmetic (position + 1) rest

end TenPuzzle
