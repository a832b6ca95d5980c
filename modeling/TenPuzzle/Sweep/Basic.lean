import TenPuzzle.Number.Digits

/-!
The sweep over all problems from 0000 to 9999, in order, with progress reported every hundred
problems and at the last one.
-/

namespace TenPuzzle

def problemCount : Nat := 10000

def problemAt (index : Nat) : String :=
  Number.padded 4 index

def reportsAt (index : Nat) : Bool :=
  index % 100 = 0 || index + 1 = problemCount

structure Progress where
  index : Nat
  accepted : Nat
  deriving DecidableEq, Repr

/-- The accepted problems and the reports so far, latest first. -/
structure Sweep where
  accepted : List String
  count : Nat
  reports : List Progress
  deriving DecidableEq, Repr

def Sweep.start : Sweep := ⟨[], 0, []⟩

def Sweep.advance (solvable : String → Bool) (sweep : Sweep) (index : Nat) : Sweep :=
  let problem := problemAt index
  let found := solvable problem
  let count := if found then sweep.count + 1 else sweep.count
  { accepted := if found then problem :: sweep.accepted else sweep.accepted
    count := count
    reports := if reportsAt index then ⟨index, count⟩ :: sweep.reports else sweep.reports }

def Sweep.run (solvable : String → Bool) : Sweep :=
  (List.range problemCount).foldl (Sweep.advance solvable) .start

/-- A step for a solver that may act when it is asked. Progress is reported as it is made. -/
def Sweep.advanceWith {m : Type → Type} [Monad m] (ask : String → m Bool) (report : Progress → m Unit)
    (sweep : Sweep) (index : Nat) : m Sweep := do
  let found ← ask (problemAt index)
  let later := sweep.advance (fun _ => found) index
  if reportsAt index then report ⟨index, later.count⟩
  return later

def Sweep.runWith {m : Type → Type} [Monad m] (ask : String → m Bool) (report : Progress → m Unit) : m Sweep :=
  (List.range problemCount).foldlM (Sweep.advanceWith ask report) .start

def solvableProblems (solvable : String → Bool) : List String :=
  (Sweep.run solvable).accepted.reverse

end TenPuzzle
