import TenPuzzle.Game.Basic
import TenPuzzle.Json.Reader
import TenPuzzle.Json.Writer

/-!
Stored games: the text that keeps a game between two commands. Every field is written, unless a
number is too long for that; fields that have a usual value may be missing when a text is read, and
no other fields may stand in it.
-/

namespace TenPuzzle

inductive Record where
  | game
  | attempt
  deriving DecidableEq, Repr

inductive StoredFault where
  /-- A whole number is too long to be written. -/
  | tooLong
  | unreadable (fault : Json.ReadFault)
  | notAnObject (found : Json)
  | unknownField (record : Record) (name : String)
  | missingFields (record : Record) (names : List String)
  | wrongType (name : String)
  | historyNotList (found : Json)
  | attemptNotObject (found : Json)

/-! Writing. -/

def Json.orNull (encode : α → Json) : Option α → Json
  | none => .null
  | some value => encode value

def Json.ofQuantity : Number.Quantity → Json
  | .whole value => .integer value
  | .real value => .float value

def Attempt.toJson (attempt : Attempt) : Json :=
  .object [
    ("problem", .string attempt.problem),
    ("expression", .string attempt.expression),
    ("result", Json.orNull .ofQuantity attempt.result),
    ("correct", .bool attempt.correct),
    ("error", Json.orNull .string attempt.error),
    ("passed", .bool attempt.passed)]

def Game.toJson (game : Game) : Json :=
  .object [
    ("mode", .integer game.mode),
    ("problems", .array (game.problems.map .string)),
    ("server_id", .string game.seat.server),
    ("channel_id", .string game.seat.channel),
    ("player_id", .string game.seat.player),
    ("start_time", .ofQuantity game.startTime),
    ("status", .string game.status),
    ("current_problem", .integer game.current),
    ("correct_count", .integer game.correctCount),
    ("end_time", Json.orNull .ofQuantity game.endTime),
    ("history", .array (game.history.map Attempt.toJson))]

def Game.text (game : Game) : String :=
  game.toJson.text

def Game.encode (game : Game) : Except StoredFault String :=
  if game.toJson.isWritable then .ok game.text else .error .tooLong

/-! Reading. -/

abbrev Members := List (String × Json)

def Record.required : Record → List String
  | .game => ["mode", "problems", "server_id", "channel_id", "player_id", "start_time", "status"]
  | .attempt => ["problem", "expression", "result", "correct"]

def Record.usual : Record → List String
  | .game => ["current_problem", "correct_count", "end_time", "history"]
  | .attempt => ["error", "passed"]

/-- Unknown fields are found before missing ones. -/
def checkFields (record : Record) (members : Members) : Except StoredFault Unit :=
  let names := members.map Prod.fst
  let missing := record.required.filter fun name => !names.contains name
  match names.find? fun name => !(record.required ++ record.usual).contains name with
  | some name => .error (.unknownField record name)
  | none => if missing.isEmpty then .ok () else .error (.missingFields record missing)

def readField (members : Members) (name : String) (usual : Json) (decode : Json → Option α) :
    Except StoredFault α :=
  match decode ((Json.member? name members).getD usual) with
  | some value => .ok value
  | none => .error (.wrongType name)

def Json.text? : Json → Option String
  | .string value => some value
  | _ => none

def Json.integer? : Json → Option Int
  | .integer value => some value
  | _ => none

def Json.bool? : Json → Option Bool
  | .bool value => some value
  | _ => none

def Json.quantity? : Json → Option Number.Quantity
  | .integer value => some (.whole value)
  | .float value => some (.real value)
  | _ => none

def Json.texts? : Json → Option (List String)
  | .array items => items.mapM Json.text?
  | _ => none

def Json.nullOr? (decode : Json → Option α) : Json → Option (Option α)
  | .null => some none
  | value => (decode value).map some

def Attempt.ofJson : Json → Except StoredFault Attempt
  | .object members => do
    checkFields .attempt members
    let problem ← readField members "problem" .null Json.text?
    let expression ← readField members "expression" .null Json.text?
    let result ← readField members "result" .null (Json.nullOr? Json.quantity?)
    let correct ← readField members "correct" .null Json.bool?
    let error ← readField members "error" .null (Json.nullOr? Json.text?)
    let passed ← readField members "passed" (.bool false) Json.bool?
    .ok ⟨problem, expression, result, correct, error, passed⟩
  | found => .error (.attemptNotObject found)

/-- The items of a value: those of an array, the names in an object, the characters of a text. -/
def Json.items? : Json → Option (List Json)
  | .array items => some items
  | .object members => some (members.map fun member => .string member.1)
  | .string value => some (value.toList.map fun character => .string (String.singleton character))
  | _ => none

def historyOf (members : Members) : Except StoredFault (List Attempt) :=
  let found := (Json.member? "history" members).getD (.array [])
  match found.items? with
  | some items => items.mapM Attempt.ofJson
  | none => .error (.historyNotList found)

def Game.ofJson : Json → Except StoredFault Game
  | .object members => do
    let history ← historyOf members
    checkFields .game members
    let mode ← readField members "mode" .null Json.integer?
    let problems ← readField members "problems" .null Json.texts?
    let server ← readField members "server_id" .null Json.text?
    let channel ← readField members "channel_id" .null Json.text?
    let player ← readField members "player_id" .null Json.text?
    let startTime ← readField members "start_time" .null Json.quantity?
    let status ← readField members "status" .null Json.text?
    let current ← readField members "current_problem" (.integer 0) Json.integer?
    let correctCount ← readField members "correct_count" (.integer 0) Json.integer?
    let endTime ← readField members "end_time" .null (Json.nullOr? Json.quantity?)
    .ok {
      mode, problems, seat := ⟨server, channel, player⟩, startTime, status, current, correctCount
      endTime, history }
  | other => .error (.notAnObject other)

def Game.ofText (text : String) : Except StoredFault Game :=
  match Json.read text with
  | .ok value => Game.ofJson value
  | .error fault => .error (.unreadable fault)

end TenPuzzle
