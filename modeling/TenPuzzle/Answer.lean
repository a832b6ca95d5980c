import TenPuzzle.Expression.Evaluation
import TenPuzzle.Text.DecimalDigit

/-!
Answers to a problem. An answer is brought into normal form, has to use the problem's digits one at
a time and in order without signs, and is then evaluated.
-/

namespace TenPuzzle

inductive Rejection where
  | empty
  | forbidden (character : Char)
  | signed
  | joined (operand : String)
  | outOfOrder (problem : String)
  | wrongDigits (problem : String)
  | missingOperator
  | malformed (fault : Expr.Fault)
  deriving DecidableEq, Repr

def Rejection.message : Rejection → String
  | .empty => "Empty expression"
  | .forbidden character => s!"Character **{character}** is not allowed"
  | .signed => "Digits cannot carry a sign"
  | .joined operand => s!"Digits must be used one at a time, got **{operand}**"
  | .outOfOrder problem => s!"Digits must stay in order: **{problem}**"
  | .wrongDigits problem => s!"Use exactly the digits **{problem}**"
  | .missingOperator => "Put an operator between every pair of digits"
  | .malformed fault => "Invalid syntax: " ++ fault.message

def plainSymbol (character : Char) : Char :=
  if character = '×' ∨ character = 'x' ∨ character = 'X' then '*'
  else if character = '÷' then '/'
  else if character = '−' then '-'
  else character

def normalize (text : List Char) : List Char :=
  Text.withoutBlanks (text.map plainSymbol)

def isOperator (character : Char) : Bool :=
  character = '+' || character = '-' || character = '*' || character = '/'

def isAllowed (character : Char) : Bool :=
  character.isDigit || isOperator character || character = '(' || character = ')' || character = ' '

def forbidden? (text : List Char) : Option Rejection :=
  (text.find? fun character => !isAllowed character).map .forbidden

/-- Whether a minus stands where an operand has to, at the start or behind an operator or bracket. -/
def isSigned (operandFollows : Bool) : List Char → Bool
  | [] => false
  | character :: rest =>
    (operandFollows && character = '-') || isSigned (isOperator character || character = '(') rest

def shapeFault? (text : List Char) : Option Rejection :=
  if isSigned true text then some .signed
  else
    ((Text.digitRuns text).find? fun run => 1 < run.length).map fun run =>
      .joined (String.ofList run)

def digitsFault? (text : List Char) (problem : String) : Option Rejection :=
  let used := (Text.digitRuns text).flatten
  if used ≠ problem.toList then
    if used.isPerm problem.toList then some (.outOfOrder problem) else some (.wrongDigits problem)
  else if text.countP isOperator + 1 < problem.length then some .missingOperator
  else none

def usesDigits (text : List Char) (problem : String) : Except Rejection Unit :=
  match (shapeFault? text).or (digitsFault? text problem) with
  | some rejection => .error rejection
  | none => .ok ()

def plainFault? (text : List Char) : Option Rejection :=
  if text.isEmpty then some .empty else (forbidden? text).or (shapeFault? text)

/-- An answer in normal form with its value; an accepted answer without one divides by zero. -/
structure Answer where
  expression : List Char
  verdict : Except Rejection (Option Float)

def valueOf [DepthLimit] (text : List Char) : Except Rejection (Option Float) :=
  match evaluate text with
  | .ok value => .ok (some value)
  | .error .undefined => .ok none
  | .error fault => .error (.malformed fault)

def judge [DepthLimit] (text : List Char) (problem : String) : Answer :=
  let expression := normalize text
  let verdict := match (plainFault? expression).or (digitsFault? expression problem) with
    | some rejection => .error rejection
    | none => valueOf expression
  ⟨expression, verdict⟩

def Answer.isValid (answer : Answer) : Bool :=
  answer.verdict.isOk

def Answer.result? (answer : Answer) : Option Float :=
  answer.verdict.toOption.join

def Answer.isCorrect (answer : Answer) : Bool :=
  match answer.result? with
  | some value => reaches target tolerance (.ok value)
  | none => false

def Answer.error? (answer : Answer) : Option String :=
  match answer.verdict with
  | .error rejection => some rejection.message
  | .ok none => some Expr.Fault.undefined.message
  | .ok (some _) => none

end TenPuzzle
