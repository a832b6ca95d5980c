import TenPuzzle.Sweep.Basic
import TenPuzzle.Sweep.Listing

/-!
What the sweep prints: a heading, a progress line that overwrites itself, and the result.
-/

namespace TenPuzzle

def progressText (index accepted : Int) : String :=
  let percent := Int.fdiv (index * 100) (problemCount - 1)
  s!"Progress: {index + 1} / {problemCount} ({percent}%) | Solvable: {accepted}"

def Progress.text (progress : Progress) : String :=
  "\r" ++ progressText progress.index progress.accepted

def sweepHeading : String :=
  "Starting complete verification (0000-9999 WITHOUT reordering, WITHOUT signs)...\n"

def sweepSummary (problems : List String) : String :=
  "\n".intercalate [
    "", "", "Verification complete!",
    s!"Total patterns checked: {problemCount}",
    s!"Solvable patterns found: {problems.length}",
    "", "// JavaScript array format:",
    problemListing problems, ""]

def Sweep.transcript (sweep : Sweep) : String :=
  sweepHeading ++ String.join (sweep.reports.reverse.map Progress.text) ++
    sweepSummary sweep.accepted.reverse

end TenPuzzle
