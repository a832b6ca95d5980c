import TenPuzzle.Bot.Command
import TenPuzzle.Bot.Reply
import TenPuzzle.Game.Session
import TenPuzzle.Sweep.Listing
import TenPuzzle.Text.Integer

/-!
The bot: each message is taken at most once among the last hundred, and a command in it runs on the
session of the games. It is assumed that no command is dispatched but those below, also none that shows
help, and that all that is said is sent.
-/

namespace TenPuzzle

structure Message where
  id : Int
  author : Int
  guild : Option Int
  channel : Int
  content : String
  automated : Bool
  deriving DecidableEq, Repr

inductive Event where
  | message (message : Message)
  | ready

structure Bot where
  user : Int
  owner : Int
  rules : Rules

/-- The ids of the messages taken last, latest first. -/
structure BotState where
  session : Session
  taken : List Int

def takenLimit : Nat := 100

/-- What a command says, and the fault that stops it if it does not come to its end. -/
structure Reaction where
  effects : List Effect
  fault : Option GameFault

def Reaction.done (effects : List Effect) : Reaction := ⟨effects, none⟩

def Reaction.after (effect : Effect) (reaction : Reaction) : Reaction :=
  { reaction with effects := effect :: reaction.effects }

/-- A fault is told after all that was said before it. -/
def Reaction.told (reaction : Reaction) : List Effect :=
  reaction.effects ++ (reaction.fault.map fun fault => .say (Reply.fault fault)).toList

def Message.seat (message : Message) : Seat where
  server := match message.guild with
    | some guild => toString guild
    | none => "dm"
  channel := toString message.channel
  player := toString message.author

namespace Bot

def problemText (game : Game) : Action String :=
  match game.spot with
  | .problem digits => return Reply.problem game digits
  | .outOfRange => Action.fail .outOfRange
  | .finished => Action.fail .nothingToShow

def sayEnd (player : String) (game : Game) : Action Reaction := do
  let moment ← Action.moment
  match Reply.finished player game moment.now with
  | .ok text => return .done (sayChunks text none)
  | .error fault => return ⟨[], some (.notWhole fault)⟩

def sayNext (player : String) (text : String) (game : Game) : Action Reaction := do
  if game.isFinished then
    let farewell ← sayEnd player game
    return farewell.after (.say text)
  else
    let next ← problemText game
    return .done [.say (text ++ "\n\n" ++ next)]

def startGame (rules : Rules) (seat : Seat) (mode : Option Int) : Action Reaction := do
  let game ← createGame rules seat mode
  let text ← problemText game
  return .done [.say text]

def start (rules : Rules) (seat : Seat) : Option (List Char) → Action Reaction
  | none => startGame rules seat none
  | some argument =>
    match Text.readInteger argument with
    | .ok mode => startGame rules seat (some mode)
    | .error _ => return .done [.say Reply.usage]

def answer [DepthLimit] (rules : Rules) (seat : Seat) : Option (List Char) → Action Reaction
  | none => return .done [.say Reply.expressionMissing]
  | some expression => do
    let (attempt, game) ← submitAnswer rules seat expression
    if attempt.correct then sayNext seat.player (Reply.correct attempt) game
    else return .done [.say (Reply.wrong attempt)]

def pass [DepthLimit] (rules : Rules) (seat : Seat) : Action Reaction := do
  let (attempt, game) ← passProblem rules seat
  sayNext seat.player (Reply.reveal attempt) game

def status (seat : Seat) : Action Reaction := do
  match ← activeGame seat with
  | none => return .done [.say Reply.noGame]
  | some game =>
    let moment ← Action.moment
    let clock ← Action.ofExcept .notWhole (clockText (game.elapsed moment.now))
    let text ← problemText game
    return .done (sayChunks (Reply.status game clock text) none)

def reset (seat : Seat) : Action Reaction := do
  let cancelled ← cancelGame seat
  return .done [.say (if cancelled then Reply.reset else Reply.nothingToReset)]

def showLeaderboard (rules : Rules) (seat : Seat) : Action Reaction := do
  let leaders ← leaderboard rules seat.server none
  return .done [.say (if leaders.isEmpty then Reply.noScores else Reply.leaderboard leaders)]

def showProblems (rules : Rules) : Action Reaction := do
  let problems ← ensureProblems rules
  return .done <| .say (Reply.problemCount problems.length) ::
    sayChunks (problemListing problems) (some "js")

def shutdown (bot : Bot) (author : Int) : Action Reaction :=
  if author = bot.owner then return .done [.say Reply.shuttingDown, .close]
  else return .done [.say Reply.ownerOnly]

def perform [DepthLimit] (bot : Bot) (message : Message) (invocation : Invocation) : Action Reaction :=
  let seat := message.seat
  match invocation.command with
  | .start => start bot.rules seat invocation.argument
  | .answer => answer bot.rules seat invocation.argument
  | .pass => pass bot.rules seat
  | .status => status seat
  | .reset => reset seat
  | .leaderboard => showLeaderboard bot.rules seat
  | .problems => showProblems bot.rules
  | .shutdown => shutdown bot message.author

def react [DepthLimit] (bot : Bot) (moment : Moment) (message : Message) (invocation : Invocation)
    (session : Session) : Reaction × Session :=
  match bot.perform message invocation moment session with
  | (.ok reaction, later) => (reaction, later)
  | (.error fault, later) => (⟨[], some fault⟩, later)

def process [DepthLimit] (bot : Bot) (moment : Moment) (message : Message) (session : Session) :
    List Effect × Session :=
  match Invocation.ofText? message.content.toList with
  | none => ([], session)
  | some invocation =>
    let (reaction, later) := bot.react moment message invocation session
    (reaction.told, later)

/-- The bot's own messages and those taken lately are passed over. -/
def takes (bot : Bot) (state : BotState) (message : Message) : Bool :=
  message.author ≠ bot.user && !state.taken.contains message.id

def receive [DepthLimit] (bot : Bot) (moment : Moment) (message : Message) (state : BotState) :
    List Effect × BotState :=
  if bot.takes state message then
    let taken := (message.id :: state.taken).take takenLimit
    if message.automated then ([], ⟨state.session, taken⟩)
    else
      let (effects, session) := bot.process moment message state.session
      (effects, ⟨session, taken⟩)
  else ([], state)

def handle [DepthLimit] (bot : Bot) (moment : Moment) (event : Event) (state : BotState) :
    List Effect × BotState :=
  match event with
  | .message message => bot.receive moment message state
  | .ready => ([.play Reply.activity], state)

def prepare (bot : Bot) (moment : Moment) (session : Session) : BotState :=
  ⟨(ensureProblems bot.rules moment session).2, []⟩

end Bot

end TenPuzzle
