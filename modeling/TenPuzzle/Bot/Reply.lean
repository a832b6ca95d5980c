import TenPuzzle.Game.Fault
import TenPuzzle.Game.Report
import TenPuzzle.Message.Chunk

/-!
What the bot says: the texts of its replies.
-/

namespace TenPuzzle

/-- What the bot does towards its server. A text that is said is taken to be sent: no send fails here, whatever the
text is. -/
inductive Effect where
  | say (text : String)
  | close
  | play (activity : String)
  deriving DecidableEq, Repr

def sayChunks (message : String) (language : Option String) : List Effect :=
  (chunks message language).map .say

namespace Reply

def activity : String := "Make 10 | !make10"

def usage : String := "Usage: `!make10 [number of problems]`"

def expressionMissing : String := "Please provide an expression, e.g. `!m10 (1+2)*3+1`."

def noGame : String := "You have no active game here. Start one with `!make10`."

def nothingToReset : String := "You have no active game here."

def reset : String := "Your game has been reset."

def noScores : String := "No scores yet. Be the first with `!make10`!"

def ownerOnly : String := "Only the bot owner can use this command."

def shuttingDown : String := "Shutting down..."

def mention (user : String) : String := s!"<@{user}>"

def problem (game : Game) (digits : String) : String :=
  let spaced := "  ".intercalate (digits.toList.map Char.toString)
  s!"**Problem {game.current + 1} / {game.mode}**\n" ++
  s!"# {spaced}\n" ++
  "Reach **10** with `+ - × ÷` and parentheses. Keep the digits in order.\n" ++
  "Answer with `!m10 <expression>`, give up with `!m10pass`."

def correct (attempt : Attempt) : String :=
  "✅ `" ++ attempt.expression ++ "` = 10"

def wrong (attempt : Attempt) : String :=
  match attempt.result with
  | none => "❌ `" ++ attempt.expression ++ "` is undefined (" ++ attempt.error.getD "None" ++ "). Try again!"
  | some value => "❌ `" ++ attempt.expression ++ "` = " ++ Number.fixed 2 value.toFloat ++ ". Try again!"

def reveal (attempt : Attempt) : String :=
  "⏭ One answer for **" ++ attempt.problem ++ "**: `" ++ attempt.expression ++ "`"

def headed (heading : String) (lines : List String) : String :=
  if lines.isEmpty then "" else heading ++ "\n".intercalate lines

def finished (user : String) (game : Game) (now : Float) : Except Number.WholeFault String := do
  let summary ← game.summary now
  .ok <|
    s!"🏁 {mention user} finished!\n" ++
    "```\n" ++ summary ++ "\n```" ++
    headed "\n**History**\n" (game.historyLines game.history.length)

def status (game : Game) (clock problemText : String) : String :=
  let counts := game.counts
  s!"**Time:** {clock}\n" ++
  s!"**Correct:** {counts.correct} / {game.mode} " ++
  s!"(answers: {counts.answered}, passed: {counts.passed})\n\n" ++
  problemText ++
  headed "\n\n**Recent answers**\n" (game.historyLines 10)

def rankLine (index : Nat) (user : String) (score : Int) : String :=
  s!"{index + 1}. {mention user} - **{score}**"

def leaderboard (leaders : List (String × Int)) : String :=
  let lines := leaders.zipIdx.map fun (leader, index) => rankLine index leader.1 leader.2
  "**Make 10 leaderboard**\n" ++ "\n".intercalate lines

def problemCount (count : Nat) : String := s!"{count} solvable problems:"

/-- Refusals are told as they are, other faults with their kind. -/
def fault (fault : GameFault) : String :=
  match fault.kind with
  | .refusal | .unreadableText => fault.message
  | kind => s!"Something went wrong: Command raised an exception: {kind.name}: {fault.message}"

end Reply

end TenPuzzle
