import TenPuzzle.Number.Quantity

/-!
Games: a run of problems that one player works through, with a record of every attempt.
-/

namespace TenPuzzle

structure Seat where
  server : String
  channel : String
  player : String
  deriving DecidableEq, Repr

structure Attempt where
  problem : String
  expression : String
  result : Option Number.Quantity
  correct : Bool
  error : Option String
  passed : Bool

structure Game where
  mode : Int
  problems : List String
  seat : Seat
  startTime : Number.Quantity
  status : String
  /-- The position of the problem in play; a negative one counts from the end. -/
  current : Int
  correctCount : Int
  endTime : Option Number.Quantity
  history : List Attempt

def activeStatus : String := "active"

def endedStatus : String := "ended"

def Game.fresh (seat : Seat) (mode : Int) (problems : List String) (now : Float) : Game where
  mode := mode
  problems := problems
  seat := seat
  startTime := .real now
  status := activeStatus
  current := 0
  correctCount := 0
  endTime := none
  history := []

def itemAt? (items : List α) (position : Int) : Option α :=
  if 0 ≤ position then items[position.toNat]?
  else if position + items.length < 0 then none
  else items[(position + items.length).toNat]?

def Game.isFinished (game : Game) : Bool :=
  (game.problems.length : Int) ≤ game.current

inductive Spot where
  | problem (digits : String)
  | finished
  | outOfRange
  deriving DecidableEq, Repr

def Game.spot (game : Game) : Spot :=
  if game.isFinished then .finished
  else match itemAt? game.problems game.current with
    | some digits => .problem digits
    | none => .outOfRange

/-- Seconds since the start, which stand still once the game has ended, and are never negative. -/
def Game.elapsed (game : Game) (now : Float) : Float :=
  let last := (game.endTime.map Number.Quantity.toFloat).getD now
  let passed := last - game.startTime.toFloat
  if 0.0 < passed then passed else 0.0

end TenPuzzle
