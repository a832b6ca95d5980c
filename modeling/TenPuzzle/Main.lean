import TenPuzzle.Solver
import TenPuzzle.Startup
import TenPuzzle.Sweep.Transcript

/-!
The command line: sweeps over all problems, shows how far it has come, and prints the list of those
that can be solved.
-/

namespace TenPuzzle

/-- Prints at once, so that the progress line moves. -/
def printNow (text : String) : IO Unit := do
  let output ← IO.getStdout
  output.putStr text
  output.flush

def showSweep : IO Unit := do
  printNow sweepHeading
  let sweep ← Sweep.runWith (fun problem => return isSolvable problem) fun progress => printNow progress.text
  printNow (sweepSummary sweep.accepted.reverse)

end TenPuzzle

def main : IO UInt32 := do
  TenPuzzle.showSweep
  return 0
