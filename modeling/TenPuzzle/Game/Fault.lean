import TenPuzzle.Answer
import TenPuzzle.Candidate
import TenPuzzle.Game.Stored
import TenPuzzle.Number.Binary64

/-!
Why a game command fails. Refusals are told to the player as they are; the other faults come with
the name of their kind.
-/

namespace TenPuzzle

inductive GameFault where
  | modeNotOffered (modes : List Int)
  | alreadyPlaying
  | notPlaying
  | poolTooSmall (available : Nat)
  | negativeDraw
  | rejected (rejection : Rejection)
  | unsolvable (fault : ProblemFault)
  | stored (fault : StoredFault)
  /-- An answer came although every problem is done. -/
  | nothingToAnswer
  /-- A pass came although every problem is done. -/
  | nothingToPass
  /-- The problem in play was to be shown although every problem is done. -/
  | nothingToShow
  | outOfRange
  /-- A time or a score is no finite number. -/
  | notWhole (fault : Number.WholeFault)
  /-- The store could not be reached. -/
  | unreachable (reason : String)

inductive FaultKind where
  | refusal
  | unreadableText
  | wrongShape
  | wrongType
  | outOfRange
  | overflow
  | tooDeep
  | connection
  deriving DecidableEq, Repr

def Json.Cause.kind : Json.Cause → FaultKind
  | .tooLong _ => .refusal
  | .tooDeep _ => .tooDeep
  | _ => .unreadableText

def Number.WholeFault.kind : Number.WholeFault → FaultKind
  | .notANumber => .refusal
  | .infinite => .overflow

def StoredFault.kind : StoredFault → FaultKind
  | .tooLong => .refusal
  | .unreadable fault => fault.cause.kind
  | .notAnObject _ => .wrongShape
  | _ => .wrongType

def GameFault.kind : GameFault → FaultKind
  | .stored fault => fault.kind
  | .nothingToAnswer | .nothingToPass | .nothingToShow => .wrongType
  | .outOfRange => .outOfRange
  | .notWhole fault => fault.kind
  | .unreachable _ => .connection
  | _ => .refusal

def FaultKind.name : FaultKind → String
  | .refusal => "ValueError"
  | .unreadableText => "JSONDecodeError"
  | .wrongShape => "AttributeError"
  | .wrongType => "TypeError"
  | .outOfRange => "IndexError"
  | .overflow => "OverflowError"
  | .tooDeep => "RecursionError"
  | .connection => "ConnectionError"

def Record.reader : Record → String
  | .game => "GameState.__init__()"
  | .attempt => "HistoryEntry.__init__()"

def Json.kindName : Json → String
  | .null => "NoneType"
  | .bool _ => "bool"
  | .integer _ => "int"
  | .float _ => "float"
  | .string _ => "str"
  | .array _ => "list"
  | .object _ => "dict"

def enumeration : List String → String
  | [] => ""
  | [name] => s!"'{name}'"
  | [first, second] => s!"'{first}' and '{second}'"
  | names =>
    let leading := names.dropLast.map fun name => s!"'{name}', "
    String.join leading ++ "and " ++ String.join (names.getLast?.toList.map fun name => s!"'{name}'")

def StoredFault.message : StoredFault → String
  | .tooLong => Text.lengthMessage ""
  | .unreadable fault => fault.message
  | .notAnObject found => s!"'{found.kindName}' object has no attribute 'get'"
  | .unknownField record name => record.reader ++ s!" got an unexpected keyword argument '{name}'"
  | .missingFields record names =>
    let plural := if names.length = 1 then "" else "s"
    record.reader ++ s!" missing {names.length} required positional argument{plural}: " ++
      enumeration names
  | .wrongType name => s!"'{name}' has an unexpected type"
  | .historyNotList found => s!"'{found.kindName}' object is not iterable"
  | .attemptNotObject found =>
    s!"make10.games.make10.HistoryEntry() argument after ** must be a mapping, not {found.kindName}"

def GameFault.message : GameFault → String
  | .modeNotOffered modes =>
    if modes.any Text.isTooLong then Text.lengthMessage ""
    else "Mode must be one of: " ++ ", ".intercalate (modes.map toString)
  | .alreadyPlaying => "You already have a game running here! Finish it or use `!m10reset`."
  | .notPlaying => "You have no active game here! Start one with `!make10`"
  | .poolTooSmall available => s!"Only {available} problems are available"
  | .negativeDraw => "Sample larger than population or is negative"
  | .rejected rejection => rejection.message
  | .unsolvable fault => fault.message
  | .stored fault => fault.message
  | .nothingToAnswer => "'NoneType' object is not iterable"
  | .nothingToPass => "object of type 'NoneType' has no len()"
  | .nothingToShow => "can only join an iterable"
  | .outOfRange => "list index out of range"
  | .notWhole fault => fault.message
  | .unreachable reason => reason

end TenPuzzle
