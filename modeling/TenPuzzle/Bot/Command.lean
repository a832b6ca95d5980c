import TenPuzzle.Text.Blank

/-!
Commands as they are written in a channel: an exclamation mark, the name up to the next blank, and
all that follows, without the blanks around it, as one argument.
-/

namespace TenPuzzle

inductive Command where
  | start
  | answer
  | pass
  | status
  | reset
  | leaderboard
  | problems
  | shutdown
  deriving DecidableEq, Repr

def Command.all : List Command :=
  [.start, .answer, .pass, .status, .reset, .leaderboard, .problems, .shutdown]

def Command.name : Command → String
  | .start => "make10"
  | .answer => "m10"
  | .pass => "m10pass"
  | .status => "m10status"
  | .reset => "m10reset"
  | .leaderboard => "m10top"
  | .problems => "m10problems"
  | .shutdown => "shutdown"

structure Invocation where
  command : Command
  /-- Never empty. -/
  argument : Option (List Char)
  deriving DecidableEq, Repr

/-- The commands that are looked up are those of the bot. A help command, which a framework may answer by itself, is
taken to be none of them. -/
def Invocation.ofText? : List Char → Option Invocation
  | '!' :: rest =>
    let name := rest.takeWhile fun character => !Text.isBlank character
    let argument := Text.trim (rest.drop name.length)
    (Command.all.find? fun command => command.name.toList = name).map fun command =>
      ⟨command, if argument.isEmpty then none else some argument⟩
  | _ => none

end TenPuzzle
