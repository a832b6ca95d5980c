import TenPuzzle.Number.Digits

/-!
Arithmetic expressions: syntax trees that keep the brackets they were written with, and their
meaning in any arithmetic in which an operation may have no result.
-/

namespace TenPuzzle

inductive Operator where
  | add
  | sub
  | mul
  | div
  deriving DecidableEq, Repr

def Operator.all : List Operator := [.add, .sub, .mul, .div]

def Operator.symbol : Operator → Char
  | .add => '+'
  | .sub => '-'
  | .mul => '*'
  | .div => '/'

inductive Expr where
  | number (digits : List Char)
  | negate (operand : Expr)
  | group (inner : Expr)
  | binary (operator : Operator) (left right : Expr)
  deriving DecidableEq, Repr

def Expr.text : Expr → List Char
  | .number digits => digits
  | .negate operand => '-' :: operand.text
  | .group inner => '(' :: inner.text ++ [')']
  | .binary operator left right => left.text ++ operator.symbol :: right.text

/-- What numbers, signs, brackets and operators stand for. -/
structure Arithmetic (α : Type) where
  number : List Char → α
  negate : α → α
  group : α → α
  apply : Operator → α → α → Option α

def Expr.value (arithmetic : Arithmetic α) : Expr → Option α
  | .number digits => some (arithmetic.number digits)
  | .negate operand => (operand.value arithmetic).map arithmetic.negate
  | .group inner => (inner.value arithmetic).map arithmetic.group
  | .binary operator left right => do
    let leftValue ← left.value arithmetic
    let rightValue ← right.value arithmetic
    arithmetic.apply operator leftValue rightValue

def Arithmetic.trees : Arithmetic Expr where
  number := .number
  negate := .negate
  group := .group
  apply operator left right := some (.binary operator left right)

def leastDivisor : Float := 1e-9

def floatOperation : Operator → Float → Float → Option Float
  | .add, left, right => some (left + right)
  | .sub, left, right => some (left - right)
  | .mul, left, right => some (left * right)
  | .div, left, right => if right.abs < leastDivisor then none else some (left / right)

/-- Double arithmetic; a number is the double nearest to its decimal value. -/
def Arithmetic.floats : Arithmetic Float where
  number digits := Float.ofScientific (Number.valueOfDigits digits) false 0
  negate value := -value
  group value := value
  apply := floatOperation

end TenPuzzle
