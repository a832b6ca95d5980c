import TenPuzzle.Game.Basic
import TenPuzzle.Number.Fixed

/-!
How a game is told: the clock, the summary at its end, its history and its counts.
-/

namespace TenPuzzle

/-- Minutes and seconds with two places each, fractions of a second dropped. Only a finite time has
them. -/
def clockText (seconds : Float) : Except Number.WholeFault String := do
  let whole ← Number.wholePart seconds
  .ok (Number.padded 2 (Int.fdiv whole 60) ++ ":" ++ Number.padded 2 (Int.fmod whole 60))

def Game.summary (game : Game) (now : Float) : Except Number.WholeFault String := do
  let seconds ← Number.wholePart (game.elapsed now)
  let minutes := Int.fdiv seconds 60
  let rest := Int.fmod seconds 60
  .ok s!"Make 10\n\nTime: {minutes}m {rest}s\nCorrect: {game.correctCount} / {game.mode}"

/-- The last items of a list; zero asks for all, and a negative count leaves so many out. -/
def recent (count : Int) (items : List α) : List α :=
  if 0 < count then items.drop (items.length - count.toNat) else items.drop (-count).toNat

def Attempt.mark (attempt : Attempt) : String :=
  if attempt.passed then "⏭" else if attempt.correct then "✅" else "❌"

def Attempt.outcome (attempt : Attempt) : String :=
  match attempt.result, attempt.error with
  | some value, _ => Number.fixed 2 value.toFloat
  | none, some reason => if reason.isEmpty then "undefined" else reason
  | none, none => "undefined"

def Attempt.line (attempt : Attempt) : String :=
  attempt.mark ++ " **" ++ attempt.problem ++ "**  `" ++ attempt.expression ++ "` = " ++ attempt.outcome

def Game.historyLines (game : Game) (count : Int) : List String :=
  (recent count game.history).map Attempt.line

structure Counts where
  answered : Nat
  correct : Int
  passed : Nat
  deriving DecidableEq, Repr

def Game.counts (game : Game) : Counts where
  answered := game.history.countP fun attempt => !attempt.passed
  correct := game.correctCount
  passed := game.history.countP fun attempt => attempt.passed

end TenPuzzle
