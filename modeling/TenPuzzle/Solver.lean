import TenPuzzle.Candidate
import TenPuzzle.Expression.Evaluation

/-!
Solutions of a problem: the first candidate that evaluates to the target.
-/

namespace TenPuzzle

def solution? [DepthLimit] (problem : String) : Except ProblemFault (Option String) := do
  let digits ← digitsOf problem
  let all ← candidates digits.toList
  .ok (all.find? fun candidate => reachesTarget candidate.toList)

def isSolvable [DepthLimit] (problem : String) : Bool :=
  match solution? problem with
  | .ok (some _) => true
  | _ => false

end TenPuzzle
