import TenPuzzle.Game.Fault
import TenPuzzle.Settings.Basic
import TenPuzzle.Solver
import TenPuzzle.Store
import TenPuzzle.Sweep.Basic

/-!
Game sessions: what players do, as commands on a store. A command sees the moment at which it runs
and either succeeds or ends at its first fault; what it did before the fault stays done.
-/

namespace TenPuzzle

structure Session where
  store : Store
  pool : List String
  asked : Nat

/-- The clock, the positions that the next draw gives, and why the store is out of reach. The store is out of reach
for all commands of a step or for none: that it is lost between two commands of one step is not modelled. -/
structure Moment where
  now : Float
  draw : Option (List Int)
  outage : Option String

structure Rules where
  settings : Settings
  solvable : String → Bool

def Action (α : Type) := Moment → Session → Except GameFault α × Session

namespace Action

protected def pure (value : α) : Action α :=
  fun _ session => (.ok value, session)

protected def bind (action : Action α) (next : α → Action β) : Action β :=
  fun moment session =>
    match action moment session with
    | (.ok value, later) => next value moment later
    | (.error fault, later) => (.error fault, later)

instance : Monad Action where
  pure := Action.pure
  bind := Action.bind

def fail (fault : GameFault) : Action α :=
  fun _ session => (.error fault, session)

def ofExcept (wrap : ε → GameFault) : Except ε α → Action α
  | .ok value => Action.pure value
  | .error fault => fail (wrap fault)

def moment : Action Moment :=
  fun moment session => (.ok moment, session)

def session : Action Session :=
  fun _ session => (.ok session, session)

def update (change : Session → Session) : Action Unit :=
  fun _ session => (.ok (), change session)

/-- One command on the store, as it is at this moment; in an outage it fails and changes nothing. -/
def command (run : Float → Store → α × Store) : Action α :=
  fun moment session =>
    match moment.outage with
    | some reason => (.error (.unreachable reason), session)
    | none =>
      let (value, store) := run moment.now (session.store.live moment.now)
      (.ok value, { session with store := store })

def query (look : Store → α) : Action α :=
  command fun _ store => (look store, store)

def write (change : Float → Store → Store) : Action Unit :=
  command fun now store => ((), change now store)

end Action

def Seat.key (seat : Seat) : String :=
  s!"make10:game:{seat.server}:{seat.channel}:{seat.player}"

def boardKey (server : String) : String :=
  s!"make10:leaderboard:{server}"

def poolKey : String := "make10:problems"

/-! The pool of problems. -/

/-- The stored problems, sorted, since the set that keeps them has no order. -/
def Store.problems (store : Store) : List String :=
  Text.sortedDistinct (store.membersOf poolKey)

def storedProblems : Action (List String) :=
  Action.query Store.problems

/-- Puts the problems in the place of those that are stored. -/
def storeProblems (problems : List String) : Action Unit := do
  Action.write fun _ store => store.erase poolKey
  if !problems.isEmpty then
    Action.write fun _ store => store.addMembers poolKey problems

def sweepProblems (rules : Rules) : Action (List String) := do
  let problems := solvableProblems rules.solvable
  Action.update fun session => { session with asked := session.asked + problemCount }
  storeProblems problems
  return problems

/-- The pool, from memory, else from the store, else from a sweep. -/
def ensureProblems (rules : Rules) : Action (List String) := do
  let session ← Action.session
  if !session.pool.isEmpty then return session.pool
  let stored ← storedProblems
  let problems ← if stored.isEmpty then sweepProblems rules else pure stored
  Action.update fun session => { session with pool := problems }
  return problems

def draw (count : Int) (pool : List String) : Action (List String) := do
  let moment ← Action.moment
  match moment.draw with
  | some positions =>
    if (positions.length : Int) = count then
      match positions.mapM (itemAt? pool) with
      | some problems => return problems
      | none => Action.fail .outOfRange
    else if count < 0 then Action.fail .negativeDraw
    else return pool.take count.toNat
  | none => if count < 0 then Action.fail .negativeDraw else return pool.take count.toNat

def drawProblems (rules : Rules) (count : Int) : Action (List String) := do
  let pool ← ensureProblems rules
  if (pool.length : Int) < count then Action.fail (.poolTooSmall pool.length)
  draw count pool

/-! Games. -/

def saveGame (rules : Rules) (game : Game) : Action Unit := do
  let text ← Action.ofExcept .stored game.encode
  Action.write fun _ store => store.putText game.seat.key text
  Action.write fun now store => store.expire now game.seat.key rules.settings.lifetime

def deleteGame (game : Game) : Action Unit :=
  Action.write fun _ store => store.erase game.seat.key

/-- An empty text counts as no game, and so does a game that is not active. -/
def activeGame (seat : Seat) : Action (Option Game) := do
  match ← Action.query (Store.text? seat.key) with
  | none => return none
  | some text =>
    if text.isEmpty then return none
    let game ← Action.ofExcept .stored (Game.ofText text)
    return if game.status = activeStatus then some game else none

def requireGame (seat : Seat) : Action Game := do
  match ← activeGame seat with
  | some game => return game
  | none => Action.fail .notPlaying

def createGame (rules : Rules) (seat : Seat) (mode : Option Int) : Action Game := do
  let mode := mode.getD rules.settings.defaultMode
  if !rules.settings.modes.contains mode then
    Action.fail (.modeNotOffered rules.settings.modes)
  if (← activeGame seat).isSome then Action.fail .alreadyPlaying
  let problems ← drawProblems rules mode
  let moment ← Action.moment
  let game := Game.fresh seat mode problems moment.now
  saveGame rules game
  return game

def finishGame (game : Game) : Action Game := do
  let moment ← Action.moment
  let ended := { game with status := endedStatus, endTime := some (.real moment.now) }
  deleteGame ended
  if 0 < ended.correctCount then
    Action.write fun _ store =>
      store.addScore (boardKey ended.seat.server) ended.seat.player (Float.ofInt ended.correctCount)
  return ended

def storeOrFinish (rules : Rules) (game : Game) : Action Game := do
  if game.isFinished then finishGame game
  else
    saveGame rules game
    return game

def Game.record (game : Game) (attempt : Attempt) : Game :=
  { game with
    history := game.history ++ [attempt]
    correctCount := if attempt.correct then game.correctCount + 1 else game.correctCount
    current := if attempt.correct || attempt.passed then game.current + 1 else game.current }

def judgeFor [DepthLimit] (game : Game) (expression : List Char) : Action (String × Answer) :=
  match game.spot with
  | .problem digits => return (digits, judge expression digits)
  | .outOfRange => Action.fail .outOfRange
  | .finished =>
    match plainFault? (normalize expression) with
    | some rejection => Action.fail (.rejected rejection)
    | none => Action.fail .nothingToAnswer

def submitAnswer [DepthLimit] (rules : Rules) (seat : Seat) (expression : List Char) :
    Action (Attempt × Game) := do
  let game ← requireGame seat
  let (problem, answer) ← judgeFor game expression
  let result ← Action.ofExcept .rejected answer.verdict
  let attempt : Attempt := {
    problem := problem
    expression := String.ofList answer.expression
    result := result.map .real
    correct := answer.isCorrect
    error := answer.error?
    passed := false }
  let later ← storeOrFinish rules (game.record attempt)
  return (attempt, later)

def revealFor [DepthLimit] (game : Game) : Action (String × Option String) :=
  match game.spot with
  | .problem digits => do
    let solution ← Action.ofExcept .unsolvable (solution? digits)
    return (digits, solution)
  | .outOfRange => Action.fail .outOfRange
  | .finished => Action.fail .nothingToPass

def passProblem [DepthLimit] (rules : Rules) (seat : Seat) : Action (Attempt × Game) := do
  let game ← requireGame seat
  let (problem, solution) ← revealFor game
  let attempt : Attempt := {
    problem := problem
    expression := solution.getD ""
    result := solution.map fun _ => .real target
    correct := false
    error := none
    passed := true }
  let later ← storeOrFinish rules (game.record attempt)
  return (attempt, later)

def cancelGame (seat : Seat) : Action Bool := do
  match ← activeGame seat with
  | none => return false
  | some game =>
    deleteGame game
    return true

/-! The leaderboard. -/

def Settings.boardLimit (settings : Settings) (limit : Option Int) : Int :=
  match limit with
  | none => settings.leaderboardSize
  | some limit => if limit = 0 then settings.leaderboardSize else limit

def leaderboard (rules : Rules) (server : String) (limit : Option Int) :
    Action (List (String × Int)) := do
  let last := rules.settings.boardLimit limit - 1
  let leaders ← Action.query (Store.leaders (boardKey server) last)
  leaders.mapM fun line => do
    return (line.1, ← Action.ofExcept .notWhole (Number.wholePart line.2))

end TenPuzzle
