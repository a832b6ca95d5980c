import TenPuzzle.Expression.Basic
import TenPuzzle.Text.Integer

/-!
Candidate expressions for four operands in a fixed order: every choice of three operators in every
one of twelve bracketings, 768 in all. There are none for a number that is too long to be written.
-/

namespace TenPuzzle

structure Slot where
  opened : Nat
  closed : Nat
  deriving DecidableEq, Repr

/-- A bracketing of four operands. -/
structure Shape where
  name : String
  first : Slot
  second : Slot
  third : Slot
  fourth : Slot
  deriving DecidableEq, Repr

def Slot.render (slot : Slot) (operand : String) : String :=
  String.ofList (List.replicate slot.opened '(') ++ operand ++
    String.ofList (List.replicate slot.closed ')')

structure Four (α : Type) where
  first : α
  second : α
  third : α
  fourth : α
  deriving DecidableEq, Repr

structure Three (α : Type) where
  first : α
  second : α
  third : α
  deriving DecidableEq, Repr

def Four.map (transform : α → β) (four : Four α) : Four β :=
  ⟨transform four.first, transform four.second, transform four.third, transform four.fourth⟩

def Three.map (transform : α → β) (three : Three α) : Three β :=
  ⟨transform three.first, transform three.second, transform three.third⟩

def Shape.render (shape : Shape) (operands : Four String) (operators : Three String) : String :=
  shape.first.render operands.first ++ operators.first ++
  shape.second.render operands.second ++ operators.second ++
  shape.third.render operands.third ++ operators.third ++
  shape.fourth.render operands.fourth

def Shape.template (shape : Shape) : String :=
  shape.render ⟨"\x7bn0\x7d", "\x7bn1\x7d", "\x7bn2\x7d", "\x7bn3\x7d"⟩
    ⟨"\x7bop1\x7d", "\x7bop2\x7d", "\x7bop3\x7d"⟩

def Shape.all : List Shape := [
  ⟨"flat", ⟨0, 0⟩, ⟨0, 0⟩, ⟨0, 0⟩, ⟨0, 0⟩⟩,
  ⟨"left-pair", ⟨1, 0⟩, ⟨0, 1⟩, ⟨0, 0⟩, ⟨0, 0⟩⟩,
  ⟨"middle-pair", ⟨0, 0⟩, ⟨1, 0⟩, ⟨0, 1⟩, ⟨0, 0⟩⟩,
  ⟨"right-pair", ⟨0, 0⟩, ⟨0, 0⟩, ⟨1, 0⟩, ⟨0, 1⟩⟩,
  ⟨"left-nested", ⟨2, 0⟩, ⟨0, 1⟩, ⟨0, 1⟩, ⟨0, 0⟩⟩,
  ⟨"left-inner-middle", ⟨1, 0⟩, ⟨1, 0⟩, ⟨0, 2⟩, ⟨0, 0⟩⟩,
  ⟨"right-inner-middle", ⟨0, 0⟩, ⟨2, 0⟩, ⟨0, 1⟩, ⟨0, 1⟩⟩,
  ⟨"right-nested", ⟨0, 0⟩, ⟨1, 0⟩, ⟨1, 0⟩, ⟨0, 2⟩⟩,
  ⟨"two-pairs", ⟨1, 0⟩, ⟨0, 1⟩, ⟨1, 0⟩, ⟨0, 1⟩⟩,
  ⟨"right-triple", ⟨0, 0⟩, ⟨1, 0⟩, ⟨0, 0⟩, ⟨0, 1⟩⟩,
  ⟨"left-nested-outer", ⟨3, 0⟩, ⟨0, 1⟩, ⟨0, 1⟩, ⟨0, 1⟩⟩,
  ⟨"right-inner-middle-outer", ⟨1, 0⟩, ⟨2, 0⟩, ⟨0, 1⟩, ⟨0, 2⟩⟩]

/-- The first operator varies slowest. -/
def operatorTriples : List (Three Operator) :=
  Operator.all.flatMap fun first =>
    Operator.all.flatMap fun second =>
      Operator.all.map fun third => ⟨first, second, third⟩

/-- The candidates of numbers that can be written. -/
def candidatesOf (operands : Four Int) : List String :=
  operatorTriples.flatMap fun operators =>
    Shape.all.map fun shape =>
      shape.render (operands.map toString) (operators.map fun operator => operator.symbol.toString)

inductive ProblemFault where
  | notFourDigits (problem : String)
  | wrongCount (count : Nat)
  | tooLong
  deriving DecidableEq, Repr

def ProblemFault.message : ProblemFault → String
  | .notFourDigits problem => "Problem must be four digits, got " ++ Text.quoted problem
  | .wrongCount count => s!"Expected four digits, got {count}"
  | .tooLong => Text.lengthMessage ""

/-- Numbers are counted first, and then written for the first candidate. -/
def candidates : List Int → Except ProblemFault (List String)
  | [first, second, third, fourth] =>
    if [first, second, third, fourth].any Text.isTooLong then .error .tooLong
    else .ok (candidatesOf ⟨first, second, third, fourth⟩)
  | digits => .error (.wrongCount digits.length)

/-- The leading candidates; where none is asked for, the digits are not looked at. -/
def firstCandidates (count : Nat) (digits : List Int) : Except ProblemFault (List String) :=
  if count = 0 then .ok [] else (candidates digits).map fun all => all.take count

def digitsOf (problem : String) : Except ProblemFault (Four Int) :=
  match problem.toList with
  | [first, second, third, fourth] =>
    let characters : Four Char := ⟨first, second, third, fourth⟩
    if first.isDigit && second.isDigit && third.isDigit && fourth.isDigit
    then .ok (characters.map fun character => (Number.valueOfDigits [character] : Int))
    else .error (.notFourDigits problem)
  | _ => .error (.notFourDigits problem)

def Four.toList (four : Four α) : List α :=
  [four.first, four.second, four.third, four.fourth]

end TenPuzzle
