import TenPuzzle.Proofs.Bot.Delivery
import TenPuzzle.Proofs.Bot.Refusal

/-!
Reactions. Every command is a turn of the seat that it comes from, or lets time pass only, and its reply shows the
problem that this turn brings up, and no other.
-/

namespace TenPuzzle

/-! What can be told of. -/

/-- A game that can be told of without any mention of a problem. -/
structure Game.IsCalm (game : Game) : Prop where
  player : TenPuzzle.IsCalm game.seat.player
  history : ∀ attempt ∈ game.history, attempt.IsCalm

inductive Entry.IsCalm : Entry → Prop
  | game {text : String} {game : Game} {expires : Option Float} : Game.ofText text = .ok game → game.IsCalm →
      IsCalm ⟨.text text, expires⟩
  | scores {board : List (String × Float)} {expires : Option Float} :
      (∀ line ∈ board, TenPuzzle.IsCalm line.1) → IsCalm ⟨.scores board, expires⟩
  | members {set : TextSet} {expires : Option Float} : IsCalm ⟨.members set, expires⟩

structure Session.IsTellable (rules : Rules) (pool : List String) (session : Session) : Prop
    extends session.IsSound rules pool AreProblems where
  calm : session.store.Every fun _ entry => entry.IsCalm

section

variable {rules : Rules} {pool : List String} {game : Game} {attempt : Attempt} {store : Store}

theorem Game.IsCalm.record (isCalm : game.IsCalm) (isAttempt : attempt.IsCalm) : (game.record attempt).IsCalm := by
  refine ⟨isCalm.player, ?_⟩
  intro other member
  rcases List.mem_append.mp member with before | isLast
  · exact isCalm.history other before
  · rw [List.mem_singleton.mp isLast]
    exact isAttempt

theorem Game.IsCalm.settled (isCalm : game.IsCalm) (now : Float) : (game.settled now).IsCalm := by
  unfold Game.settled
  split
  · exact ⟨isCalm.player, isCalm.history⟩
  · exact isCalm

theorem Game.IsRunning.calm_attempt [DepthLimit] (running : game.IsRunning rules pool AreProblems)
    (takes : game.Takes attempt) : attempt.IsCalm :=
  takes.arises.calm (running.fair _ (List.mem_of_getElem? (running.problem_in_play takes)))

theorem calm_boardOf (calm : store.Every fun _ entry => entry.IsCalm) (key : String) :
    ∀ line ∈ store.boardOf key, IsCalm line.1 := by
  refine calm.boardOf ?_
  rintro board expires (_ | areCalm)
  exact areCalm

theorem Store.Every.credited_calm (calm : store.Every fun _ entry => entry.IsCalm) (isCalm : game.IsCalm) :
    (store.credited game).Every fun _ entry => entry.IsCalm := by
  unfold Store.credited
  split
  · exact calm.addScore (calm_boardOf calm _) isCalm.player fun board expires areCalm => .scores areCalm
  · exact calm

end

section

variable {rules : Rules} {pool : List String} {step : Step} {before after : Session} {game : Game}

theorem opening_isTellable (rules : Rules) (stored kept : List String) (asked : Nat) :
    (Session.opening stored kept asked).IsTellable rules ((Session.opening stored kept asked).problems rules) :=
  ⟨opening_isSound rules stored kept asked AreProblems, opening_every (fun _ => .members) stored kept asked⟩

theorem Session.IsTellable.ages (tellable : before.IsTellable rules pool) {now : Float}
    (ages : before.Ages rules now after) : after.IsTellable rules pool := by
  refine ⟨⟨ages.stocked, ages.problems.trans tellable.pooled, ?_⟩, ?_⟩
  · rw [Store.holds_iff]
    exact ages.every (Store.holds_iff.mp tellable.games) fun texts text isText => nomatch isText
  · exact ages.every tellable.calm fun _ => .members

theorem Session.IsTellable.found (tellable : before.IsTellable rules pool)
    (found : step.found before = .ok (some game)) : game.IsRunning rules pool AreProblems ∧ game.IsCalm := by
  refine ⟨(found_of_holds tellable.stocked tellable.games found).2, ?_⟩
  obtain ⟨text, expires, stored, reads, _⟩ := entry_of_found tellable.stocked found
  cases tellable.calm _ _ stored with
  | game kept isCalm =>
      rw [reads] at kept
      cases kept
      exact isCalm

/-- Turns keep a session tellable, and tell of nothing else. -/
theorem Turn.isTellable [DepthLimit] {outcome : Except GameFault Outcome} (turn : Turn rules step before outcome after)
    (tellable : before.IsTellable rules pool) (modes : ∀ mode ∈ rules.settings.modes, 1 ≤ mode)
    (isPool : IsPool pool) (player : IsCalm step.seat.player) :
    after.IsTellable rules pool ∧ ∀ value, outcome = .ok value →
      value.IsSound rules pool AreProblems step.moment.now ∧ ∀ game ∈ value.game?, game.IsCalm := by
  obtain ⟨sound, tells⟩ := turn.isSound tellable.toIsSound modes isPool.short
    fun problems draws problem member => isPool.problems problem (draws.subset problem member)
  have fresh (mode : Int) (problems : List String) : (Game.fresh step.seat mode problems step.moment.now).IsCalm :=
    ⟨player, fun attempt member => nomatch member⟩
  have recorded {game : Game} {attempt : Attempt} (found : step.found before = .ok (some game))
      (takes : game.Takes attempt) : (game.record attempt).IsCalm := by
    obtain ⟨running, isCalm⟩ := tellable.found found
    exact isCalm.record (running.calm_attempt takes)
  refine ⟨⟨sound, ?_⟩, ?_⟩
  · apply turn.every tellable.calm
    · exact fun _ => .members
    · intro mode problems _ _ _ _ storable _
      exact .game (Game.ofText_text storable) (fresh mode problems)
    · intro game attempt found takes settles unfinished _
      exact .game (Game.ofText_text (settles unfinished)) (recorded found takes)
    · intro game attempt found takes store calm
      exact calm.credited_calm (recorded found takes)
  · rintro value isValue
    refine ⟨tells value isValue, ?_⟩
    cases turn with
    | fails => cases isValue
    | finds ages found =>
        cases isValue
        rintro game ⟨⟩
        exact (tellable.found found).2
    | leaves =>
        cases isValue
        exact fun game told => nomatch told
    | drops =>
        cases isValue
        exact fun game told => nomatch told
    | starts =>
        cases isValue
        rintro game ⟨⟩
        exact fresh _ _
    | records ages found takes =>
        cases isValue
        rintro game ⟨⟩
        exact (recorded found takes).settled _

end

/-! What turns bring up. -/

/-- The lines that show the problem in play. -/
def Game.heading? (game : Game) : Option (List (List Char)) :=
  match game.spot with
  | .problem digits => some (problemLines (game.current + 1) game.mode digits)
  | .finished | .outOfRange => none

/-- What is to be shown after a turn: the problem in play, if it is a new one or was asked for. -/
def Outcome.shown? : Outcome → Option (List (List Char))
  | .started game => game.heading?
  | .recorded attempt game => if attempt.advances then game.heading? else none
  | .found game => game.bind Game.heading?
  | .cancelled _ => none

def shownBy? : Except GameFault Outcome → Option (List (List Char))
  | .ok outcome => outcome.shown?
  | .error _ => none

theorem heading_eq {game : Game} {digits : String} (plays : game.spot = .problem digits) :
    game.heading? = some (problemLines (game.current + 1) game.mode digits) := by
  rw [Game.heading?, plays]

theorem heading_of_finished {game : Game} (finished : game.isFinished = true) : game.heading? = none := by
  rw [Game.heading?, Game.spot, if_pos finished]

namespace Bot

/-- The reaction to which a command comes. -/
def reactionOf : Except GameFault Reaction → Reaction
  | .ok reaction => reaction
  | .error fault => ⟨[], some fault⟩

theorem react_eq [DepthLimit] (bot : Bot) (moment : Moment) (message : Message) (invocation : Invocation)
    (session : Session) :
    bot.react moment message invocation session =
      (reactionOf (bot.perform message invocation moment session).1,
        (bot.perform message invocation moment session).2) := by
  unfold react
  cases bot.perform message invocation moment session with
  | mk result later => cases result <;> rfl

/-- From a session, a command is a turn of a seat, and its reply shows what this turn brings up. -/
def Tells [DepthLimit] (command : Action Reaction) (rules : Rules) (moment : Moment) (seat : Seat)
    (session : Session) : Prop :=
  ∃ play outcome, Turn rules ⟨moment, seat, play⟩ session outcome (command moment session).2 ∧
    replyShows? (replyText (reactionOf (command moment session).1).told) = shownBy? outcome

section

variable {command : Action Reaction} {rules : Rules} {moment : Moment} {seat : Seat} {play : Play}
  {session later : Session} {outcome : Except GameFault Outcome}

theorem told_done (effects : List Effect) : (Reaction.done effects).told = effects :=
  List.append_nil effects

theorem replyText_one (text : String) : replyText [.say text] = text.toList := by
  rw [replyText_say]
  exact List.append_nil _

theorem replyShows_one {text : String} (calm : IsCalm text) : replyShows? (replyText [.say text]) = none := by
  rw [replyText_one]
  exact replyShows_of_none (shown_of_calm calm.absent)

theorem tells_of_done [DepthLimit] {effects : List Effect}
    (performs : command moment session = (.ok (.done effects), later))
    (turn : Turn rules ⟨moment, seat, play⟩ session outcome later)
    (shows : replyShows? (replyText effects) = shownBy? outcome) : Tells command rules moment seat session := by
  refine ⟨play, outcome, ?_, ?_⟩
  · rwa [performs]
  · rwa [performs, reactionOf, told_done]

theorem tells_of_error [DepthLimit] {fault : GameFault} (fails : command moment session = (.error fault, later))
    (ages : session.Ages rules moment.now later) (ordinary : fault.IsOrdinary) :
    Tells command rules moment seat session := by
  refine ⟨.look, .error fault, ?_, ?_⟩
  · rw [fails]
    exact .fails ages
  · rw [fails]
    exact (congrArg replyShows? (replyText_one _)).trans (fault_hides ordinary)

/-- A command that lets time pass, and says nothing of a problem. -/
theorem tells_of_passing [DepthLimit] {effects : List Effect}
    (performs : command moment session = (.ok (.done effects), later))
    (ages : session.Ages rules moment.now later) (hides : replyShows? (replyText effects) = none) :
    Tells command rules moment seat session := by
  have turn : Turn rules ⟨moment, seat, .look⟩ session (.error .notPlaying) later := .fails ages
  exact tells_of_done performs turn hides

/-- What a player's command does is a turn; so it fails while the session ages, or has the value that the turn tells
of. -/
theorem play_cases [DepthLimit] {α : Type} {perform : Action α} (play : Play) (told : α → Outcome)
    (stocked : session.IsStocked) (plays : play.perform rules seat = perform >>= fun value => pure (told value)) :
    (∃ fault later, perform moment session = (.error fault, later) ∧ session.Ages rules moment.now later) ∨
      ∃ value later, perform moment session = (.ok value, later) ∧
        Turn rules ⟨moment, seat, play⟩ session (.ok (told value)) later := by
  have turn := Step.turn rules ⟨moment, seat, play⟩ stocked
  have runs : Step.run rules ⟨moment, seat, play⟩ session =
      (perform >>= fun value => pure (told value)) moment session :=
    congrFun (congrFun plays moment) session
  rw [runs] at turn
  cases performed : perform moment session with
  | mk result later =>
      cases result with
      | error fault =>
          rw [bind_of_error performed] at turn
          cases turn with
          | fails ages => exact .inl ⟨fault, later, rfl, ages⟩
      | ok value =>
          rw [bind_of_ok performed] at turn
          exact .inr ⟨value, later, rfl, turn⟩

/-- A command makes a play, and goes on with what came of it. -/
theorem tells_of_play [DepthLimit] {α : Type} {perform : Action α} {next : α → Action Reaction} {pool : List String}
    {answer : Option (List Char)} (play : Play) (told : α → Outcome) (stocked : session.IsStocked)
    (plays : play.perform rules seat = perform >>= fun value => pure (told value))
    (failsOnly : perform.FailsOnly moment session (GameFault.Arises rules pool moment answer))
    (goesOn : ∀ value later, perform moment session = (.ok value, later) →
      Turn rules ⟨moment, seat, play⟩ session (.ok (told value)) later →
      (perform >>= next) moment session = next value moment later →
      Tells (perform >>= next) rules moment seat session) :
    Tells (perform >>= next) rules moment seat session := by
  rcases @play_cases _ moment seat session _ _ _ play told stocked plays with
    ⟨fault, later, fails, ages⟩ | ⟨value, later, performs, turn⟩
  · exact tells_of_error (bind_of_error fails) ages (failsOnly fault later fails).ordinary
  · exact goesOn value later performs turn (bind_of_ok performs)

end

/-! Commands of players. -/

theorem correct_toList (attempt : Attempt) : ∃ rest, (Reply.correct attempt).toList = '✅' :: rest := by
  refine ⟨(" `" ++ attempt.expression ++ "` = 10").toList, ?_⟩
  delta Reply.correct
  simp only [String.toList_append]
  rfl

theorem reveal_toList (attempt : Attempt) : ∃ rest, (Reply.reveal attempt).toList = '⏭' :: rest := by
  refine ⟨(" One answer for **" ++ attempt.problem ++ "**: `" ++ attempt.expression ++ "`").toList, ?_⟩
  delta Reply.reveal
  simp only [String.toList_append]
  rfl

section

variable {rules : Rules} {pool : List String} {moment : Moment} {session : Session} {game : Game} {digits : String}

theorem problemText_eq (plays : game.spot = .problem digits) :
    problemText game moment session = (.ok (Reply.problem game digits), session) := by
  unfold problemText
  rw [plays]
  rfl

theorem sayEnd_cases (player : String) (game : Game) (moment : Moment) (session : Session) :
    (∃ text, Reply.finished player game moment.now = .ok text ∧
      sayEnd player game moment session = (.ok (.done (sayChunks text none)), session)) ∨
    ∃ fault, sayEnd player game moment session = (.ok ⟨[], some (.notWhole fault)⟩, session) := by
  have looks : Action.moment moment session = (.ok moment, session) := rfl
  unfold sayEnd
  rw [bind_of_ok looks]
  cases Reply.finished player game moment.now with
  | ok text => exact .inl ⟨text, rfl, rfl⟩
  | error fault => exact .inr ⟨fault, rfl⟩

theorem calm_notWhole (fault : Number.WholeFault) : IsCalm (Reply.fault (.notWhole fault)) := by
  cases fault with
  | notANumber => decide
  | infinite => decide

/-- A reply that goes on to the next problem shows it, and a farewell shows none. -/
theorem sayNext_shows {player text : String} {first : Char} {rest : List Char} (calmPlayer : IsCalm player)
    (calmText : IsCalm text) (opens : text.toList = first :: rest) (other : first ≠ 'S') (isCalm : game.IsCalm)
    (plays : game.isFinished = false → ∃ digits, game.spot = .problem digits ∧ IsProblem digits) :
    ∃ reaction, sayNext player text game moment session = (.ok reaction, session) ∧
      replyShows? (replyText reaction.told) = game.heading? := by
  unfold sayNext
  split
  · next finished =>
      rw [heading_of_finished finished]
      rcases sayEnd_cases player game moment session with ⟨ending, tells, ends⟩ | ⟨fault, ends⟩
      · refine ⟨_, bind_of_ok ends, ?_⟩
        apply replyShows_of_none
        change shown? (replyText (.say text :: (Reaction.done (sayChunks ending none)).told)) = none
        rw [told_done, replyText_say, shown_append calmText.absent]
        exact shown_of_calm (chunks_lack (calm_finished calmPlayer isCalm.history tells))
      · refine ⟨_, bind_of_ok ends, ?_⟩
        apply replyShows_of_none
        change shown? (replyText (.say text :: [.say (Reply.fault (.notWhole fault))])) = none
        rw [replyText_say, shown_append calmText.absent, replyText_one]
        exact shown_of_calm (calm_notWhole fault).absent
  · next unfinished =>
      obtain ⟨digits, isSpot, isProblem⟩ := plays (Bool.not_eq_true _ ▸ unfinished)
      refine ⟨_, bind_of_ok (problemText_eq isSpot), ?_⟩
      have breaks : IsCalm (text ++ "\n\n") := lacks_append.mpr ⟨calmText, by decide⟩
      have shows := @shown_problem digits game (text ++ "\n\n").toList [] breaks.absent isProblem
      rw [List.append_nil, ← String.toList_append, String.toList_append, String.toList_append, opens, List.cons_append,
        List.cons_append] at shows
      rw [told_done, replyText_one, String.toList_append, String.toList_append, opens, List.cons_append,
        List.cons_append, replyShows_cons other, shows, heading_eq isSpot]

theorem attempt_of_submitAnswer [DepthLimit] {seat : Seat} {expression : List Char} {attempt : Attempt}
    {later : Session} (records : submitAnswer rules seat expression moment session = (.ok (attempt, game), later)) :
    ∃ found digits result, requireGame seat moment session = (.ok found, session.purged moment) ∧
      found.spot = .problem digits ∧ (judge expression digits).verdict = .ok result ∧
      attempt = (judge expression digits).attempt digits result := by
  rcases submitAnswer_cases rules seat expression moment session with
    ⟨fault, fails⟩ | ⟨found, digits, result, finds, plays, accepts, settles⟩
  · rw [fails] at records
    cases records
  · rw [submitAnswer_recorded finds plays accepts settles] at records
    cases records
    exact ⟨found, digits, result, finds, plays, accepts, rfl⟩

theorem attempt_of_passProblem [DepthLimit] {seat : Seat} {attempt : Attempt} {later : Session}
    (records : passProblem rules seat moment session = (.ok (attempt, game), later)) :
    ∃ found digits solution, requireGame seat moment session = (.ok found, session.purged moment) ∧
      found.spot = .problem digits ∧ solution? digits = .ok solution ∧ attempt = .revealing digits solution := by
  rcases passProblem_cases rules seat moment session with
    ⟨fault, fails⟩ | ⟨found, digits, solution, finds, plays, solves, reveals, settles⟩
  · rw [fails] at records
    cases records
  · rw [passProblem_recorded finds reveals settles] at records
    cases records
    exact ⟨found, digits, solution, finds, plays, solves, rfl⟩

variable (tellable : session.IsTellable rules pool) (modes : ∀ mode ∈ rules.settings.modes, 1 ≤ mode)
  (isPool : IsPool pool)

include tellable modes isPool in
theorem startGame_tells [DepthLimit] {seat : Seat} (player : IsCalm seat.player) (mode : Option Int) :
    Tells (startGame rules seat mode) rules moment seat session := by
  refine tells_of_play (.create mode) .started tellable.stocked rfl
    (@createGame_failsOnly _ _ _ _ none tellable.toIsSound _ seat mode) ?_
  intro game later _ turn goesOn
  obtain ⟨running, _⟩ := (turn.isTellable tellable modes isPool player).2 _ rfl
  obtain ⟨digits, member, plays⟩ := Game.IsRunning.spot running
  have shows := @shown_problem digits game [] [] List.not_mem_nil (running.fair digits member)
  obtain ⟨rest, isText⟩ := problem_toList game digits
  refine tells_of_done (goesOn.trans (bind_of_ok (problemText_eq plays))) turn ?_
  rw [List.nil_append, List.append_nil, isText] at shows
  rw [replyText_one, isText, replyShows_cons (by decide), shows]
  exact (heading_eq plays).symm

include tellable modes isPool in
theorem start_tells [DepthLimit] {seat : Seat} (player : IsCalm seat.player) (argument : Option (List Char)) :
    Tells (start rules seat argument) rules moment seat session := by
  cases argument with
  | none => exact startGame_tells tellable modes isPool player none
  | some text =>
      unfold start
      dsimp only
      split
      · next mode _ => exact startGame_tells tellable modes isPool player (some mode)
      · exact tells_of_passing rfl tellable.stocked.ages (replyShows_one (by decide))

include tellable modes isPool in
theorem running_of_recorded [DepthLimit] {seat : Seat} {play : Play} {attempt : Attempt} {later : Session}
    (player : IsCalm seat.player)
    (turn : Turn rules ⟨moment, seat, play⟩ session (.ok (.recorded attempt game)) later)
    (unfinished : game.isFinished = false) : game.IsRunning rules pool AreProblems := by
  obtain ⟨told, _⟩ := (turn.isTellable tellable modes isPool player).2 _ rfl
  change if game.isFinished then _ else _ at told
  rwa [unfinished, if_neg Bool.false_ne_true] at told

include tellable modes isPool in
/-- An attempt that brings up the next problem is told with it. -/
theorem sayNext_tells [DepthLimit] {seat : Seat} {play : Play} {command : Action Reaction} {attempt : Attempt}
    {text : String} {first : Char} {rest : List Char} {later : Session} (player : IsCalm seat.player)
    (turn : Turn rules ⟨moment, seat, play⟩ session (.ok (.recorded attempt game)) later)
    (advances : attempt.advances = true) (calmText : IsCalm text) (opens : text.toList = first :: rest)
    (other : first ≠ 'S') (goesOn : command moment session = sayNext seat.player text game moment later) :
    Tells command rules moment seat session := by
  obtain ⟨_, isCalm⟩ := (turn.isTellable tellable modes isPool player).2 _ rfl
  have plays : game.isFinished = false → ∃ digits, game.spot = .problem digits ∧ IsProblem digits := by
    intro unfinished
    have running := running_of_recorded tellable modes isPool player turn unfinished
    obtain ⟨digits, member, isSpot⟩ := running.spot
    exact ⟨digits, isSpot, running.fair digits member⟩
  obtain ⟨reaction, performs, shows⟩ :=
    @sayNext_shows moment later game _ _ _ _ player calmText opens other (isCalm game rfl) plays
  refine ⟨play, .ok (.recorded attempt game), ?_, ?_⟩
  · rw [goesOn, performs]
    exact turn
  · rw [goesOn, performs]
    change replyShows? (replyText reaction.told) = if attempt.advances then game.heading? else none
    rw [shows, if_pos advances]

include tellable in
theorem recorded_calm [DepthLimit] {seat : Seat} {play : Play} {attempt : Attempt} {later : Session}
    (turn : Turn rules ⟨moment, seat, play⟩ session (.ok (.recorded attempt game)) later) : attempt.IsCalm := by
  cases turn with
  | records ages found takes => exact (tellable.found found).1.calm_attempt takes

include tellable modes isPool in
theorem answer_tells [DepthLimit] {seat : Seat} (player : IsCalm seat.player) (argument : Option (List Char)) :
    Tells (answer rules seat argument) rules moment seat session := by
  cases argument with
  | none =>
      have hides := shown_of_lacking (by decide : 'b' ∈ problemMark) (by decide : 'b' ∉ Reply.expressionMissing.toList)
      exact tells_of_passing rfl tellable.stocked.ages (replyShows_of_none (by rwa [replyText_one]))
  | some expression =>
      refine tells_of_play (.answer expression) (fun recorded => .recorded recorded.1 recorded.2) tellable.stocked rfl
        (submitAnswer_failsOnly tellable.toIsSound seat expression) ?_
      rintro ⟨attempt, game⟩ later submits turn goesOn
      have isCalm := recorded_calm tellable turn
      have advances : attempt.advances = attempt.correct := by
        obtain ⟨_, _, _, _, _, _, rfl⟩ := attempt_of_submitAnswer submits
        exact Bool.or_false _
      dsimp only at goesOn
      cases correct : attempt.correct with
      | true =>
          rw [correct, if_pos rfl] at goesOn
          obtain ⟨rest, opens⟩ := correct_toList attempt
          exact sayNext_tells tellable modes isPool player turn (advances.trans correct) (calm_correct isCalm) opens
            (by decide) goesOn
      | false =>
          rw [correct, if_neg Bool.false_ne_true] at goesOn
          refine tells_of_done goesOn turn ((replyShows_one (calm_wrong isCalm)).trans ?_)
          change none = if attempt.advances then game.heading? else none
          rw [advances, correct, if_neg Bool.false_ne_true]

include tellable modes isPool in
theorem pass_tells [DepthLimit] {seat : Seat} (player : IsCalm seat.player) :
    Tells (pass rules seat) rules moment seat session := by
  refine tells_of_play .pass (fun recorded => .recorded recorded.1 recorded.2) tellable.stocked rfl
    (@passProblem_failsOnly _ _ _ _ none tellable.toIsSound _ seat) ?_
  rintro ⟨attempt, game⟩ later passes turn goesOn
  have advances : attempt.advances = true := by
    obtain ⟨_, _, _, _, _, _, rfl⟩ := attempt_of_passProblem passes
    rfl
  obtain ⟨rest, opens⟩ := reveal_toList attempt
  exact sayNext_tells tellable modes isPool player turn advances (calm_reveal (recorded_calm tellable turn)) opens
    (by decide) goesOn

include tellable modes isPool in
theorem status_tells [DepthLimit] {seat : Seat} (player : IsCalm seat.player) :
    Tells (status seat) rules moment seat session := by
  refine tells_of_play .look .found tellable.stocked rfl
    (@activeGame_failsOnly _ _ _ _ none tellable.toIsSound _ seat) ?_
  intro found later _ turn goesOn
  cases found with
  | none => exact tells_of_done goesOn turn (replyShows_one (by decide))
  | some game =>
      obtain ⟨told, _⟩ := (turn.isTellable tellable modes isPool player).2 _ rfl
      have running : game.IsRunning rules pool AreProblems := told game rfl
      obtain ⟨digits, member, plays⟩ := running.spot
      have isMoment : Action.moment moment later = (.ok moment, later) := rfl
      dsimp only at goesOn
      rw [bind_of_ok isMoment] at goesOn
      cases clock : clockText (game.elapsed moment.now) with
      | error fault =>
          have ages : session.Ages rules moment.now later := by
            cases turn with
            | finds ages found => exact ages
          rw [clock] at goesOn
          exact tells_of_error (goesOn.trans (bind_of_error rfl)) ages trivial
      | ok text =>
          have inPlay := running.inPlay
          have enough := running.enough
          have short := isPool.short
          have shows := @status_shows game digits text (calm_clock clock) (running.fair digits member) (by omega)
            (by omega)
          rw [clock] at goesOn
          refine tells_of_done (goesOn.trans ((bind_of_ok rfl).trans (bind_of_ok (problemText_eq plays)))) turn ?_
          rw [shows]
          exact (heading_eq plays).symm

include tellable in
theorem reset_tells [DepthLimit] (seat : Seat) : Tells (reset seat) rules moment seat session := by
  refine tells_of_play .cancel .cancelled tellable.stocked rfl
    (@cancelGame_failsOnly _ _ _ _ none tellable.toIsSound _ seat) ?_
  intro existed later _ turn goesOn
  refine tells_of_done goesOn turn (replyShows_one ?_)
  cases existed <;> decide

end

/-! Other commands. -/

section

variable {rules : Rules} {pool : List String} {moment : Moment} {session later : Session}
  (tellable : session.IsTellable rules pool)

include tellable in
theorem leaderboard_calm {server : String} {limit : Option Int} {leaders : List (String × Int)}
    (ranks : leaderboard rules server limit moment session = (.ok leaders, later)) :
    ∀ leader ∈ leaders, IsCalm leader.1 := by
  have purged := tellable.ages (tellable.stocked.purged rules moment)
  cases outage : moment.outage with
  | some reason =>
      have fails : leaderboard rules server limit moment session = _ :=
        bind_of_error (query_unreachable _ session outage)
      rw [fails] at ranks
      cases ranks
  | none =>
      have looks :=
        query_reachable (Store.leaders (boardKey server) (rules.settings.boardLimit limit - 1)) session outage
      have runs := (bind_of_ok looks).symm.trans ranks
      have names : ∀ leader ∈ leaders, ∃ line ∈ (session.store.live moment.now).leaders (boardKey server)
          (rules.settings.boardLimit limit - 1), line.1 = leader.1 := by
        apply mapM_related _ runs
        intro line value before after tells
        cases whole : Number.wholePart line.2 with
        | error fault =>
            rw [whole] at tells
            cases tells
        | ok score =>
            rw [whole] at tells
            cases tells
            rfl
      intro leader member
      obtain ⟨line, isLeader, same⟩ := names leader member
      rw [← same]
      rw [purged_eq outage] at purged
      exact calm_boardOf purged.calm _ line (mem_leaders isLeader)

include tellable in
theorem showLeaderboard_tells [DepthLimit] (seat : Seat) :
    Tells (showLeaderboard rules seat) rules moment seat session := by
  have leaves := leaderboard_session rules seat.server none moment session
  have ages := tellable.stocked.purged rules moment
  cases ranks : leaderboard rules seat.server none moment session with
  | mk result later =>
      rw [ranks] at leaves
      dsimp only at leaves
      subst leaves
      cases result with
      | error fault =>
          have arises := @leaderboard_failsOnly rules pool moment session none _ seat.server none fault _ ranks
          exact tells_of_error (bind_of_error ranks) ages arises.ordinary
      | ok leaders =>
          refine tells_of_passing (bind_of_ok ranks) ages (replyShows_one ?_)
          split
          · decide
          · exact calm_leaderboard (leaderboard_calm tellable ranks)

theorem calm_problemCount (count : Nat) : IsCalm (Reply.problemCount count) := by
  have constants : IsCalm (toString "") ∧ IsCalm (toString " solvable problems:") := by decide
  delta Reply.problemCount
  simp only [lacks_append, calm_nat, constants, and_self]

include tellable in
theorem showProblems_tells [DepthLimit] (isPool : IsPool pool) (seat : Seat) :
    Tells (showProblems rules) rules moment seat session := by
  obtain ⟨ages, gives⟩ := @ensureProblems_gives rules moment session tellable.stocked
  cases ensures : ensureProblems rules moment session with
  | mk result later =>
      rw [ensures] at ages gives
      cases result with
      | error fault =>
          have arises := @ensureProblems_failsOnly rules pool moment session none _ fault later ensures
          exact tells_of_error (bind_of_error ensures) ages arises.ordinary
      | ok problems =>
          have same : problems = pool := (gives problems rfl).trans tellable.pooled
          have hides : 'r' ∉ replyText (sayChunks (problemListing problems) (some "js")) := by
            apply fenced_lacks (listing_lacks ?_) (by decide) (by decide) (by decide)
            rw [same]
            exact isPool.problems
          refine tells_of_passing (bind_of_ok ensures) ages (replyShows_of_none ?_)
          rw [replyText_say, shown_append (calm_problemCount _).absent]
          exact shown_of_lacking (by decide) hides

end

/-- Whatever is asked for, the reply shows the problem that it brings up, and no other. -/
theorem perform_tells [DepthLimit] {bot : Bot} {pool : List String} {moment : Moment} {session : Session}
    {message : Message} (tellable : session.IsTellable bot.rules pool)
    (modes : ∀ mode ∈ bot.rules.settings.modes, 1 ≤ mode) (isPool : IsPool pool) (invocation : Invocation) :
    Tells (bot.perform message invocation) bot.rules moment message.seat session := by
  have player : IsCalm message.seat.player := calm_int message.author
  obtain ⟨command, argument⟩ := invocation
  cases command with
  | start => exact start_tells tellable modes isPool player argument
  | answer => exact answer_tells tellable modes isPool player argument
  | pass => exact pass_tells tellable modes isPool player
  | status => exact status_tells tellable modes isPool player
  | reset => exact reset_tells tellable message.seat
  | leaderboard => exact showLeaderboard_tells tellable message.seat
  | problems => exact showProblems_tells tellable isPool message.seat
  | shutdown =>
      change Tells (shutdown bot message.author) _ _ _ _
      unfold shutdown
      split
      · refine tells_of_passing rfl tellable.stocked.ages (replyShows_of_none ?_)
        exact shown_of_calm (by decide)
      · exact tells_of_passing rfl tellable.stocked.ages (replyShows_one (by decide))

end Bot

end TenPuzzle
