import TenPuzzle.Expression.Machine
import TenPuzzle.Text.Blank

/-!
Evaluation of expressions as players write them. Blanks are left out first, and positions in faults
count the characters that remain.
-/

namespace TenPuzzle

def computeIn [DepthLimit] (arithmetic : Arithmetic α) (text : List Char) : Except Expr.Fault α :=
  match Text.withoutBlanks text with
  | [] => .error .empty
  | characters => Machine.start.run arithmetic 0 characters

def evaluate [DepthLimit] (text : List Char) : Except Expr.Fault Float :=
  computeIn .floats text

/-- The syntax tree of an expression, whatever its value. -/
def parse [DepthLimit] (text : List Char) : Except Expr.Fault Expr :=
  computeIn .trees text

def target : Float := 10

def tolerance : Float := 1e-4

def reaches (target tolerance : Float) : Except Expr.Fault Float → Bool
  | .ok value => (value - target).abs < tolerance
  | .error _ => false

def reachesTarget [DepthLimit] (text : List Char) : Bool :=
  reaches target tolerance (evaluate text)

def Expr.Fault.message : Expr.Fault → String
  | .undefined => "Division by zero"
  | .empty => "Empty expression"
  | .tooDeep => "Expression is nested too deeply"
  | .unexpectedEnd => "Unexpected end of expression"
  | .notANumber found position => s!"Expected a number at position {position}, got '{found}'"
  | .unclosed position => s!"Expected ')' at position {position}"
  | .unexpected found position => s!"Unexpected '{found}' at position {position}"

end TenPuzzle
