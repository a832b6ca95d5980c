import TenPuzzle.Proofs.Bot.Display
import TenPuzzle.Proofs.Bot.Length

/-!
What fits in one message. Every reply of the bot's own commands does, but for those that repeat what a player wrote;
these are longer than the message that they answer by no more than the problem that is shown with them.
-/

namespace TenPuzzle

/-! Scores. -/

/-- A score that is not negative, and that credits do not lift beyond a few dozen digits. -/
def IsModest (score : Float) : Prop :=
  ∃ exact, Number.exactValue score = some exact ∧ 0 ≤ exact ∧ exact ≤ Number.coarseBound

section

variable {score : Float}

theorem isModest_zero : IsModest 0.0 :=
  ⟨0, by decide +kernel, le_refl 0, (Number.two_zpow_pos 110).le⟩

theorem IsModest.isScore (modest : IsModest score) : IsScore score := by
  obtain ⟨exact, isExact, nonneg, _⟩ := modest
  exact ⟨exact, isExact, nonneg⟩

theorem IsModest.add {credit : Int} (modest : IsModest score) (positive : 0 < credit) (small : credit ≤ 20) :
    IsModest (score + Float.ofInt credit) := by
  obtain ⟨total, isTotal, nonneg, below⟩ := modest
  obtain ⟨number, rfl⟩ := Int.eq_ofNat_of_zero_le positive.le
  have few : (number : ℚ) ≤ 20 := by exact_mod_cast small
  have adds : (0 : ℚ) ≤ number := Nat.cast_nonneg number
  have isAmount := (Number.isNearest_ofNat number).exact (by omega)
  obtain ⟨sum, isSum, rounds⟩ :=
    Number.exactValue_add_moderate isTotal isAmount (by rw [abs_of_nonneg adds]; linarith)
  have moderate : (number : ℚ) ≤ 2 ^ (53 : ℤ) := few.trans (by norm_num)
  exact ⟨sum, isSum, rounds.nonneg (add_nonneg nonneg adds), rounds.le_coarseBound below moderate⟩

theorem IsModest.wholeOf (modest : IsModest score) : 0 ≤ wholeOf score ∧ (wholeOf score).natAbs < 10 ^ 34 := by
  obtain ⟨exact, isExact, nonneg, below⟩ := modest
  have isWhole : TenPuzzle.wholeOf score = ⌊exact⌋ := by rw [TenPuzzle.wholeOf, isExact, Option.getD_some]
  have above : 0 ≤ ⌊exact⌋ := Int.floor_nonneg.mpr nonneg
  have limit : ⌊exact⌋ < 10 ^ 34 := by
    rw [Int.floor_lt]
    refine lt_of_le_of_lt below ?_
    norm_num [Number.coarseBound]
  rw [isWhole]
  exact ⟨above, by omega⟩

end

/-! Sessions. -/

/-- What the store keeps, with players and scores that can be told in few characters. -/
inductive Entry.IsBrief : Entry → Prop
  | game {text : String} {game : Game} {expires : Option Float} : Game.ofText text = .ok game →
      game.seat.player.length ≤ 21 → IsBrief ⟨.text text, expires⟩
  | scores {board : List (String × Float)} {expires : Option Float} :
      (∀ line ∈ board, line.1.length ≤ 21 ∧ IsModest line.2) → IsBrief ⟨.scores board, expires⟩
  | members {set : TextSet} {expires : Option Float} : IsBrief ⟨.members set, expires⟩

structure Session.IsBrief (rules : Rules) (pool : List String) (session : Session) : Prop
    extends session.IsTellable rules pool where
  brief : session.store.Every fun _ entry => entry.IsBrief

section

variable {rules : Rules} {pool : List String} {fair : List String → Prop} {game : Game} {store : Store}
  {step : Step} {before after : Session}

theorem standard_modes (standard : rules.settings = .standard) : ∀ mode ∈ rules.settings.modes, 1 ≤ mode := by
  rw [standard]
  decide

theorem Game.IsSound.mode_le (sound : game.IsSound rules pool fair) (standard : rules.settings = .standard) :
    game.mode ≤ 20 := by
  have offered := sound.offered
  rw [standard] at offered
  have most : ∀ mode ∈ Settings.standard.modes, mode ≤ 20 := by decide
  exact most game.mode offered

theorem brief_boardOf (brief : store.Every fun _ entry => entry.IsBrief) (key : String) :
    ∀ line ∈ store.boardOf key, line.1.length ≤ 21 ∧ IsModest line.2 := by
  refine brief.boardOf ?_
  rintro board expires (_ | areBrief)
  exact areBrief

theorem Store.Every.credited_brief (brief : store.Every fun _ entry => entry.IsBrief)
    (player : game.seat.player.length ≤ 21) (few : game.correctCount ≤ 20) :
    (store.credited game).Every fun _ entry => entry.IsBrief := by
  unfold Store.credited
  split
  · next positive =>
      have lines := brief_boardOf brief (boardKey game.seat.server)
      have credit := creditOf_of_all isModest_zero (fun line member => (lines line member).2) game.seat.player
      exact brief.addScore lines ⟨player, credit.add positive few⟩ fun board expires areBrief => .scores areBrief
  · exact brief

theorem opening_isBrief (rules : Rules) (stored kept : List String) (asked : Nat) :
    (Session.opening stored kept asked).IsBrief rules ((Session.opening stored kept asked).problems rules) :=
  ⟨opening_isTellable rules stored kept asked, opening_every (fun _ => .members) stored kept asked⟩

theorem Session.IsBrief.ages (brief : before.IsBrief rules pool) {now : Float} (ages : before.Ages rules now after) :
    after.IsBrief rules pool :=
  ⟨brief.toIsTellable.ages ages, ages.every brief.brief fun _ => .members⟩

theorem Session.IsBrief.player (brief : before.IsBrief rules pool) (found : step.found before = .ok (some game)) :
    game.seat.player.length ≤ 21 := by
  obtain ⟨text, expires, stored, reads, _⟩ := entry_of_found brief.stocked found
  cases brief.brief _ _ stored with
  | game kept player =>
      rw [reads] at kept
      cases kept
      exact player

/-- Turns keep a session brief. -/
theorem Turn.isBrief [DepthLimit] {outcome : Except GameFault Outcome} (turn : Turn rules step before outcome after)
    (brief : before.IsBrief rules pool) (standard : rules.settings = .standard) (isPool : IsPool pool)
    (calm : IsCalm step.seat.player) (player : step.seat.player.length ≤ 21) : after.IsBrief rules pool := by
  refine ⟨(turn.isTellable brief.toIsTellable (standard_modes standard) isPool calm).1, ?_⟩
  apply turn.every brief.brief
  · exact fun _ => .members
  · intro mode problems _ _ _ _ storable _
    exact .game (Game.ofText_text storable) player
  · intro game attempt found takes settles unfinished _
    have same : game.seat.player.length ≤ 21 := brief.player found
    exact .game (Game.ofText_text (settles unfinished)) same
  · intro game attempt found takes store kept
    have sound := (brief.found found).1.record takes
    have fewer := sound.correctCount_le
    have current : (game.record attempt).current ≤ game.mode := (brief.found found).1.current_record
    have most : game.mode ≤ 20 := sound.mode_le standard
    have same : game.seat.player.length ≤ 21 := brief.player found
    exact kept.credited_brief same (by omega)

end

/-! What is said. -/

def Reply.Fits (text : String) : Prop :=
  text.length ≤ messageLimit

instance (text : String) : Decidable (Reply.Fits text) :=
  inferInstanceAs (Decidable (text.length ≤ messageLimit))

/-- A reply that repeats what a player wrote. -/
inductive Reply.Quotes (expression : List Char) : String → Prop
  | correct {attempt : Attempt} : attempt.expression = String.ofList (normalize expression) →
      Quotes expression (Reply.correct attempt)
  | next {attempt : Attempt} {game : Game} {digits : String} :
      attempt.expression = String.ofList (normalize expression) →
      Quotes expression (Reply.correct attempt ++ "\n\n" ++ Reply.problem game digits)
  | wrong {attempt : Attempt} : attempt.expression = String.ofList (normalize expression) →
      Quotes expression (Reply.wrong attempt)
  | joined {operand : String} : operand.toList <:+: normalize expression →
      Quotes expression (Rejection.joined operand).message

section

variable {rules : Rules} {pool : List String} {moment : Moment} {game : Game} {digits : String} {fault : GameFault}

theorem fits_notWhole (fault : Number.WholeFault) : Reply.Fits (Reply.fault (.notWhole fault)) := by
  cases fault <;> decide

theorem Game.IsRunning.isProblem_in_play (running : game.IsRunning rules pool AreProblems)
    (plays : game.spot = .problem digits) : IsProblem digits := by
  obtain ⟨shown, member, isSpot⟩ := running.spot
  rw [plays, Spot.problem.injEq] at isSpot
  exact running.fair digits (isSpot ▸ member)

theorem Game.IsRunning.problem_length_le (running : game.IsRunning rules pool AreProblems)
    (standard : rules.settings = .standard) :
    ∃ digits, game.spot = .problem digits ∧ (Reply.problem game digits).length ≤ 161 := by
  obtain ⟨digits, member, plays⟩ := running.spot
  have inPlay := running.inPlay
  have most := running.toIsSound.mode_le standard
  exact ⟨digits, plays, TenPuzzle.problem_length_le (running.fair digits member) (by omega) (by omega)⟩

theorem GameFault.Arises.fits [DepthLimit] (arises : fault.Arises rules pool moment none)
    (standard : rules.settings = .standard) (isPool : IsPool pool) (reachable : moment.outage = none) :
    Reply.Fits (Reply.fault fault) := by
  rcases arises.length_le standard isPool.short reachable (fun _ isAnswer => nomatch isAnswer) with
    fits | ⟨_, _, isAnswer, _⟩
  · exact fits
  · cases isAnswer

end

/-! Messages. -/

theorem normalize_length_le (text : List Char) : (normalize text).length ≤ text.length :=
  (List.length_filter_le _ _).trans (List.length_map _).le

theorem dropBlanks_length_le (text : List Char) : (Text.dropBlanks text).length ≤ text.length :=
  (List.dropWhile_suffix _).length_le

theorem trim_length_le (text : List Char) : (Text.trim text).length ≤ (Text.dropBlanks text).length := by
  rw [Text.trim, List.length_reverse]
  exact (dropBlanks_length_le _).trans List.length_reverse.le

/-- An argument comes behind the mark, the name of its command and a blank. -/
theorem argument_length_le {text argument : List Char} {command : Command}
    (invokes : Invocation.ofText? text = some ⟨command, some argument⟩) :
    argument.length + command.name.length + 2 ≤ text.length := by
  unfold Invocation.ofText? at invokes
  split at invokes
  · next rest =>
      dsimp only at invokes
      have split := @List.takeWhile_append_dropWhile _ (fun character => !Text.isBlank character) rest
      have blanks := List.head?_dropWhile_not (fun character => !Text.isBlank character) rest
      generalize rest.takeWhile (fun character => !Text.isBlank character) = name at invokes split
      generalize rest.dropWhile (fun character => !Text.isBlank character) = behind at blanks split
      rw [← split, List.drop_left] at invokes
      obtain ⟨found, isFound, same⟩ := Option.map_eq_some_iff.mp invokes
      obtain ⟨rfl, isArgument⟩ := Invocation.mk.inj same
      have named : found.name.toList = name := by simpa using List.find?_some isFound
      rw [← split, List.length_cons, List.length_append, ← String.length_toList, named]
      cases behind with
      | nil => cases isArgument
      | cons blank later =>
          have isBlank : Text.isBlank blank = true := by simpa using blanks
          have shorter : Text.dropBlanks (blank :: later) = Text.dropBlanks later := List.dropWhile_cons_of_pos isBlank
          have trimmed := trim_length_le (blank :: later)
          have dropped := dropBlanks_length_le later
          rw [shorter] at trimmed
          split at isArgument
          · cases isArgument
          · cases isArgument
            rw [List.length_cons]
            omega
  · cases invokes

/-- A message as it can be delivered: its author has a number of 64 bits, and its text fits. -/
structure Message.IsDeliverable (message : Message) : Prop where
  author : message.author.natAbs < 2 ^ 64
  content : message.content.length ≤ messageLimit

/-- A reply to a command fits, or repeats the answer and adds no more to it than a problem takes. -/
def Reply.FitsCall (invocation : Invocation) (text : String) : Prop :=
  Reply.Fits text ∨ ∃ expression, invocation = ⟨.answer, some expression⟩ ∧ Reply.Quotes expression text ∧
    text.length ≤ (normalize expression).length + 172

/-- A reply to a message fits, or repeats the answer in the message and is longer than it by a bounded amount. -/
def Reply.FitsMessage (message : Message) (text : String) : Prop :=
  Reply.Fits text ∨ ∃ expression, Invocation.ofText? message.content.toList = some ⟨.answer, some expression⟩ ∧
    Reply.Quotes expression text ∧ text.length ≤ message.content.length + 167

namespace Bot

def Utters (wanted : String → Prop) (effects : List Effect) : Prop :=
  ∀ text, .say text ∈ effects → wanted text

section

variable {wanted : String → Prop} {text : String} {effects : List Effect}

theorem utters_nil : Utters wanted [] :=
  fun _ said => nomatch said

theorem utters_cons (isWanted : wanted text) (utters : Utters wanted effects) :
    Utters wanted (.say text :: effects) := by
  intro other said
  rcases List.mem_cons.mp said with same | isLater
  · cases same
    exact isWanted
  · exact utters other isLater

theorem utters_one (isWanted : wanted text) : Utters wanted [.say text] :=
  utters_cons isWanted utters_nil

theorem Utters.mono {other : String → Prop} (utters : Utters wanted effects)
    (weaker : ∀ text, wanted text → other text) : Utters other effects :=
  fun text said => weaker text (utters text said)

theorem utters_chunks {message : String} {language : Option String}
    (room : ∀ name ∈ language, (fenceOpening name.toList).length + fenceClosing.length + 2 ≤ messageLimit) :
    Utters Reply.Fits (sayChunks message language) := by
  intro text said
  obtain ⟨chunk, isChunk, same⟩ := List.mem_map.mp said
  cases same
  exact chunk_length_le room isChunk

variable {command : Action Reaction} {rules : Rules} {moment : Moment} {seat : Seat} {session later : Session}

theorem utters_of_done (performs : command moment session = (.ok (.done effects), later))
    (utters : Utters wanted effects) : Utters wanted (reactionOf (command moment session).1).told := by
  rwa [performs, reactionOf, told_done]

theorem utters_of_error {fault : GameFault} (fails : command moment session = (.error fault, later))
    (isWanted : wanted (Reply.fault fault)) : Utters wanted (reactionOf (command moment session).1).told := by
  rw [fails]
  exact utters_one isWanted

/-- A command makes a play, and tells why it fails or goes on with what came of it. -/
theorem utters_of_play [DepthLimit] {α : Type} {perform : Action α} {next : α → Action Reaction} (play : Play)
    (told : α → Outcome) (stocked : session.IsStocked)
    (plays : play.perform rules seat = perform >>= fun value => pure (told value))
    (failsOnly : perform.FailsOnly moment session fun fault => wanted (Reply.fault fault))
    (goesOn : ∀ value later, perform moment session = (.ok value, later) →
      Turn rules ⟨moment, seat, play⟩ session (.ok (told value)) later →
      Utters wanted (reactionOf (next value moment later).1).told) :
    Utters wanted (reactionOf ((perform >>= next) moment session).1).told := by
  rcases @play_cases _ moment seat session _ _ _ play told stocked plays with
    ⟨fault, later, fails, _⟩ | ⟨value, later, performs, turn⟩
  · exact utters_of_error (bind_of_error fails) (failsOnly fault later fails)
  · rw [bind_of_ok performs]
    exact goesOn value later performs turn

/-- A reply that goes on to the next problem is as wanted if it is so with the problem in play. -/
theorem utters_next {game : Game} {player : String} (covers : ∀ text, Reply.Fits text → wanted text)
    (isWanted : wanted text)
    (goesOn : game.isFinished = false → ∃ digits, game.spot = .problem digits ∧
      wanted (text ++ "\n\n" ++ Reply.problem game digits)) :
    Utters wanted (reactionOf (sayNext player text game moment session).1).told := by
  unfold sayNext
  split
  · rcases sayEnd_cases player game moment session with ⟨ending, tells, ends⟩ | ⟨fault, ends⟩
    · rw [bind_of_ok ends]
      change Utters wanted (.say text :: (Reaction.done (sayChunks ending none)).told)
      rw [told_done]
      exact utters_cons isWanted ((utters_chunks (by simp)).mono covers)
    · rw [bind_of_ok ends]
      change Utters wanted [.say text, .say (Reply.fault (.notWhole fault))]
      exact utters_cons isWanted (utters_one (covers _ (fits_notWhole fault)))
  · next unfinished =>
      obtain ⟨digits, plays, both⟩ := goesOn (Bool.not_eq_true _ ▸ unfinished)
      exact utters_of_done (bind_of_ok (problemText_eq plays)) (utters_one both)

end

/-! Commands. -/

section

variable {rules : Rules} {pool : List String} {moment : Moment} {session : Session} {seat : Seat}
  (brief : session.IsBrief rules pool) (standard : rules.settings = .standard) (isPool : IsPool pool)
  (reachable : moment.outage = none)

section

variable [DepthLimit] (player : IsCalm seat.player)

include brief standard isPool reachable player in
theorem startGame_fits (mode : Option Int) :
    Utters Reply.Fits (reactionOf (startGame rules seat mode moment session).1).told := by
  refine utters_of_play (.create mode) .started brief.stocked rfl ?_ ?_
  · intro fault later fails
    exact (createGame_failsOnly brief.toIsSound seat mode fault later fails).fits standard isPool reachable
  · intro game later _ turn
    obtain ⟨running, _⟩ := (turn.isTellable brief.toIsTellable (standard_modes standard) isPool player).2 _ rfl
    obtain ⟨digits, plays, short⟩ := Game.IsRunning.problem_length_le running standard
    exact utters_of_done (bind_of_ok (problemText_eq plays)) (utters_one (short.trans (by decide)))

include brief standard isPool reachable player in
theorem start_fits (argument : Option (List Char)) :
    Utters Reply.Fits (reactionOf (start rules seat argument moment session).1).told := by
  cases argument with
  | none => exact startGame_fits brief standard isPool reachable player none
  | some text =>
      unfold start
      dsimp only
      cases Text.readInteger text with
      | ok mode => exact startGame_fits brief standard isPool reachable player (some mode)
      | error _ => exact utters_of_done rfl (utters_one (by decide))

include brief standard isPool player in
/-- The problem that an attempt brings up adds little to what is told of the attempt. -/
theorem problem_of_recorded {play : Play} {attempt : Attempt} {game : Game} {later : Session}
    (turn : Turn rules ⟨moment, seat, play⟩ session (.ok (.recorded attempt game)) later)
    (unfinished : game.isFinished = false) : ∃ digits, game.spot = .problem digits ∧
      ∀ text : String, (text ++ "\n\n" ++ Reply.problem game digits).length ≤ text.length + 163 := by
  have running := running_of_recorded brief.toIsTellable (standard_modes standard) isPool player turn unfinished
  obtain ⟨digits, plays, short⟩ := running.problem_length_le standard
  refine ⟨digits, plays, ?_⟩
  intro text
  have gap : "\n\n".length = 2 := by decide
  rw [String.length_append, String.length_append, gap]
  omega

include brief standard isPool reachable player in
theorem pass_fits : Utters Reply.Fits (reactionOf (pass rules seat moment session).1).told := by
  refine utters_of_play .pass (fun recorded => .recorded recorded.1 recorded.2) brief.stocked rfl ?_ ?_
  · intro fault later fails
    exact (passProblem_failsOnly brief.toIsSound seat fault later fails).fits standard isPool reachable
  · rintro ⟨attempt, game⟩ later passes turn
    obtain ⟨found, digits, solution, finds, plays, solves, rfl⟩ := attempt_of_passProblem passes
    have isProblem := (running_of_requireGame brief.toIsSound finds).isProblem_in_play plays
    have reveal := reveal_length_le isProblem solves
    refine utters_next (fun _ fits => fits) (reveal.trans (by decide)) ?_
    intro unfinished
    obtain ⟨next, isNext, short⟩ := problem_of_recorded brief standard isPool player turn unfinished
    exact ⟨next, isNext, (short _).trans ((Nat.add_le_add_right reveal 163).trans (by decide))⟩

include brief standard isPool reachable player in
theorem answer_fits {expression : List Char} (short : (normalize expression).length ≤ messageLimit) :
    Utters (Reply.FitsCall ⟨.answer, some expression⟩)
      (reactionOf (answer rules seat (some expression) moment session).1).told := by
  refine utters_of_play (.answer expression) (fun recorded => .recorded recorded.1 recorded.2) brief.stocked rfl ?_ ?_
  · intro fault later fails
    have arises := submitAnswer_failsOnly brief.toIsSound seat expression fault later fails
    rcases arises.length_le standard isPool.short reachable (by rintro _ ⟨⟩; exact short) with
      fits | ⟨_, operand, ⟨⟩, inside, same⟩
    · exact .inl fits
    · have operands := inside.length_le
      rw [String.length_toList] at operands
      rw [same]
      refine .inr ⟨expression, rfl, .joined inside, ?_⟩
      rw [joined_length]
      omega
  · rintro ⟨attempt, game⟩ later submits turn
    obtain ⟨found, digits, result, finds, plays, accepts, rfl⟩ := attempt_of_submitAnswer submits
    have isProblem := (running_of_requireGame brief.toIsSound finds).isProblem_in_play plays
    have written : ((judge expression digits).attempt digits result).expression =
        String.ofList (normalize expression) := rfl
    have correct := correct_length ((judge expression digits).attempt digits result)
    rw [written, String.length_ofList] at correct
    dsimp only
    split
    · refine utters_next (fun _ => .inl) (.inr ⟨expression, rfl, .correct written, by omega⟩) ?_
      intro unfinished
      obtain ⟨next, isNext, shown⟩ := problem_of_recorded brief standard isPool player turn unfinished
      exact ⟨next, isNext, .inr ⟨expression, rfl, .next written, (shown _).trans (by omega)⟩⟩
    · have wrong := wrong_length_le isProblem accepts
      exact utters_of_done rfl (utters_one (.inr ⟨expression, rfl, .wrong written, by omega⟩))

include brief standard isPool reachable player in
theorem status_fits : Utters Reply.Fits (reactionOf (status seat moment session).1).told := by
  refine @utters_of_play _ rules moment seat session _ _ _ _ .look .found brief.stocked rfl ?_ ?_
  · intro fault later fails
    exact (activeGame_failsOnly brief.toIsSound seat fault later fails).fits standard isPool reachable
  · intro found later _ turn
    cases found with
    | none => exact utters_of_done rfl (utters_one (by decide))
    | some game =>
        obtain ⟨told, _⟩ := (turn.isTellable brief.toIsTellable (standard_modes standard) isPool player).2 _ rfl
        have running : game.IsRunning rules pool AreProblems := told game rfl
        obtain ⟨digits, _, plays⟩ := running.spot
        have looks : Action.moment moment later = (.ok moment, later) := rfl
        dsimp only
        rw [bind_of_ok looks]
        cases clock : clockText (game.elapsed moment.now) with
        | error fault => exact utters_of_error (bind_of_error rfl) (fits_notWhole fault)
        | ok text =>
            exact utters_of_done ((bind_of_ok rfl).trans (bind_of_ok (problemText_eq plays))) (utters_chunks (by simp))

end

include brief standard isPool reachable in
theorem reset_fits [DepthLimit] : Utters Reply.Fits (reactionOf (reset seat moment session).1).told := by
  refine @utters_of_play _ rules moment seat session _ _ _ _ .cancel .cancelled brief.stocked rfl ?_ ?_
  · intro fault later fails
    exact (cancelGame_failsOnly brief.toIsSound seat fault later fails).fits standard isPool reachable
  · intro existed later _ _
    refine utters_of_done rfl (utters_one ?_)
    cases existed <;> decide

include brief standard reachable in
theorem showLeaderboard_fits : Utters Reply.Fits (reactionOf (showLeaderboard rules seat moment session).1).told := by
  have last : rules.settings.boardLimit none - 1 = 9 := by
    rw [standard]
    decide
  have purged : (session.purged moment).IsBrief rules pool := brief.ages (brief.stocked.purged rules moment)
  rw [purged_eq reachable] at purged
  have modest : ∀ line ∈ (session.store.live moment.now).leaders (boardKey seat.server)
      (rules.settings.boardLimit none - 1), line.1.length ≤ 21 ∧ IsModest line.2 :=
    fun line member => brief_boardOf purged.brief _ line (mem_leaders member)
  have ranks := leaderboard_eq reachable fun line member => (modest line member).2.isScore
  refine utters_of_done (bind_of_ok ranks) (utters_one ?_)
  split
  · decide
  · apply leaderboard_length_le
    · rw [List.length_map, last]
      exact List.length_take_le _ _
    · intro leader member
      obtain ⟨line, isLine, rfl⟩ := List.mem_map.mp member
      exact (modest line isLine).1
    · intro leader member
      obtain ⟨line, isLine, rfl⟩ := List.mem_map.mp member
      exact (modest line isLine).2.wholeOf

include brief standard isPool reachable in
theorem showProblems_fits [DepthLimit] : Utters Reply.Fits (reactionOf (showProblems rules moment session).1).told := by
  obtain ⟨_, gives⟩ := @ensureProblems_gives rules moment session brief.stocked
  cases ensures : ensureProblems rules moment session with
  | mk result later =>
      rw [ensures] at gives
      cases result with
      | error fault =>
          exact utters_of_error (bind_of_error ensures)
            ((ensureProblems_failsOnly fault later ensures).fits standard isPool reachable)
      | ok problems =>
          have same : problems = pool := (gives problems rfl).trans brief.pooled
          subst same
          refine utters_of_done (bind_of_ok ensures) (utters_cons ?_ (utters_chunks ?_))
          · have limit : listLimit < 10 ^ 19 := by decide
            have count : (toString problems.length).length ≤ 19 :=
              nat_length_le (by decide) (lt_of_le_of_lt isPool.short limit)
            have constants : (toString "").length = 0 ∧ (toString " solvable problems:").length = 19 := by decide
            delta Reply.Fits Reply.problemCount messageLimit
            simp only [String.length_append, constants]
            omega
          · rintro _ ⟨⟩
            decide

end

/-! Messages. -/

section

variable [DepthLimit] {bot : Bot} {pool : List String} {moment : Moment} {session : Session} {message : Message}
  (brief : session.IsBrief bot.rules pool) (standard : bot.rules.settings = .standard) (isPool : IsPool pool)
  (reachable : moment.outage = none)

include brief standard isPool reachable in
theorem perform_fits {invocation : Invocation}
    (short : ∀ argument ∈ invocation.argument, (normalize argument).length ≤ messageLimit) :
    Utters (Reply.FitsCall invocation) (reactionOf (bot.perform message invocation moment session).1).told := by
  have player : IsCalm message.seat.player := calm_int message.author
  have fits : ∀ text, Reply.Fits text → Reply.FitsCall invocation text := fun _ => .inl
  obtain ⟨command, argument⟩ := invocation
  cases command with
  | start => exact (start_fits brief standard isPool reachable player argument).mono fits
  | answer =>
      cases argument with
      | none => exact utters_of_done rfl (utters_one (fits _ (by decide)))
      | some expression => exact answer_fits brief standard isPool reachable player (short expression rfl)
  | pass => exact (pass_fits brief standard isPool reachable player).mono fits
  | status => exact (status_fits brief standard isPool reachable player).mono fits
  | reset => exact (reset_fits brief standard isPool reachable).mono fits
  | leaderboard => exact (showLeaderboard_fits brief standard reachable).mono fits
  | problems => exact (showProblems_fits brief standard isPool reachable).mono fits
  | shutdown =>
      change Utters _ (reactionOf (shutdown bot message.author moment session).1).told
      unfold shutdown
      split
      · refine utters_of_done rfl (utters_cons (fits _ (by decide)) ?_)
        exact fun text said => nomatch said
      · exact utters_of_done rfl (utters_one (fits _ (by decide)))

include brief standard isPool reachable in
theorem process_fits (deliverable : message.IsDeliverable) :
    (bot.process moment message session).2.IsBrief bot.rules pool ∧
      Utters (Reply.FitsMessage message) (bot.process moment message session).1 := by
  unfold process
  cases invokes : Invocation.ofText? message.content.toList with
  | none => exact ⟨brief, utters_nil⟩
  | some invocation =>
      have content := deliverable.content
      have within : ∀ command argument, invocation = ⟨command, some argument⟩ →
          (normalize argument).length + command.name.length + 2 ≤ message.content.length := by
        rintro command argument rfl
        have room := argument_length_le invokes
        have plain := normalize_length_le argument
        rw [String.length_toList] at room
        omega
      have player : message.seat.player.length ≤ 21 :=
        int_length_le (by decide) (lt_trans deliverable.author (by decide))
      dsimp only
      rw [react_eq]
      obtain ⟨play, outcome, turn, _⟩ :=
        @perform_tells _ bot pool moment session message brief.toIsTellable (standard_modes standard) isPool invocation
      refine ⟨turn.isBrief brief standard isPool (calm_int message.author) player, ?_⟩
      refine (perform_fits brief standard isPool reachable ?_).mono ?_
      · intro argument isArgument
        have room := within invocation.command argument (by rw [← isArgument])
        omega
      · rintro text (fitting | ⟨expression, isAnswer, quotes, long⟩)
        · exact .inl fitting
        · have room := within _ _ isAnswer
          have name : Command.answer.name.length = 3 := by decide
          exact .inr ⟨expression, isAnswer ▸ invokes, quotes, by omega⟩

include brief standard isPool reachable in
theorem receive_fits {state : BotState} (isSession : state.session = session) (deliverable : message.IsDeliverable) :
    (bot.receive moment message state).2.session.IsBrief bot.rules pool ∧
      Utters (fun text => bot.takes state message = true ∧ Reply.FitsMessage message text)
        (bot.receive moment message state).1 := by
  subst isSession
  have cases := bot.receive_cases moment message state
  split at cases
  · next takes =>
      obtain ⟨_, carries⟩ := cases
      split at carries
      · obtain ⟨silent, same⟩ := carries
        rw [silent, same]
        exact ⟨brief, utters_nil⟩
      · obtain ⟨effects, later⟩ := Prod.mk.inj carries
        obtain ⟨kept, utters⟩ := process_fits brief standard isPool reachable deliverable
        rw [effects, later]
        exact ⟨kept, utters.mono fun _ fits => ⟨takes, fits⟩⟩
  · rw [cases]
    exact ⟨brief, utters_nil⟩

end

/-! Conversations. -/

/-- Whatever was said was a reply that fits the message that it was given to. -/
structure Conversation.Fits (bot : Bot) (pool : List String) (conversation : Conversation) : Prop where
  brief : conversation.state.session.IsBrief bot.rules pool
  replies : ∀ exchange ∈ conversation.exchanges, Utters (fun text => ∃ message, exchange.taken? bot = some message ∧
    Reply.FitsMessage message text) exchange.effects

section

variable {bot : Bot} {pool : List String}

theorem Conversation.Fits.extend [DepthLimit] {conversation : Conversation} (fits : conversation.Fits bot pool)
    (standard : bot.rules.settings = .standard) (isPool : IsPool pool) {arrival : Arrival}
    (reachable : arrival.moment.outage = none)
    (deliverable : ∀ message, arrival.event = .message message → message.IsDeliverable) :
    (conversation.extend bot arrival).Fits bot pool := by
  obtain ⟨moment, event⟩ := arrival
  have last : (conversation.extend bot ⟨moment, event⟩).state.session.IsBrief bot.rules pool ∧
      Utters (fun text => ∃ message, event = .message message ∧ bot.takes conversation.state message = true ∧
        Reply.FitsMessage message text) (bot.handle moment event conversation.state).1 := by
    cases event with
    | ready => exact ⟨fits.brief, fun text said => by simp [handle] at said⟩
    | message message =>
        obtain ⟨kept, utters⟩ := receive_fits fits.brief standard isPool reachable rfl (deliverable message rfl)
        exact ⟨kept, utters.mono fun _ suits => ⟨message, rfl, suits⟩⟩
  refine ⟨last.1, ?_⟩
  intro exchange member
  rcases List.mem_append.mp member with before | isLast
  · exact fits.replies exchange before
  · rw [List.mem_singleton.mp isLast]
    refine last.2.mono ?_
    rintro text ⟨message, isMessage, takes, suits⟩
    exact ⟨message, taken_eq_some.mpr ⟨isMessage, takes_iff.mp takes⟩, suits⟩

theorem converse_fits [DepthLimit] {start : BotState} {arrivals : List Arrival}
    (brief : start.session.IsBrief bot.rules pool) (standard : bot.rules.settings = .standard) (isPool : IsPool pool)
    (reachable : ∀ arrival ∈ arrivals, arrival.moment.outage = none)
    (deliverable : ∀ arrival ∈ arrivals, ∀ message, arrival.event = .message message → message.IsDeliverable) :
    (bot.converse start arrivals).Fits bot pool := by
  refine converse_keeps ⟨brief, fun exchange member => nomatch member⟩ ?_
  intro conversation arrival member fits
  exact fits.extend standard isPool (reachable arrival member) (deliverable arrival member)

theorem prepare_isBrief (bot : Bot) (moment : Moment) (stored : List String) :
    (bot.prepare moment (Session.opening stored [] 0)).session.IsBrief bot.rules
      ((Session.opening stored [] 0).problems bot.rules) :=
  (opening_isBrief bot.rules stored [] 0).ages (ensureProblems_gives (opening_isStocked stored [] 0)).1

end

end Bot

/-! Joined digits. -/

section

variable {digits : List Char} (areDigits : ∀ digit ∈ digits, digit.isDigit = true)

include areDigits

theorem judge_joined [DepthLimit] (several : 1 < digits.length) (problem : String) :
    (judge digits problem).verdict = .error (.joined (String.ofList digits)) := by
  have nonempty : digits ≠ [] := List.ne_nil_of_length_pos (by omega)
  have unchanged : normalize digits = digits := normalize_plain fun digit member => .inl (areDigits digit member)
  have derives : Derives .factor digits (.number digits) := .number nonempty areDigits
  have unsigned : isSigned true digits = false := by
    have signs := derives.isSigned_append []
    rwa [List.append_nil] at signs
  have runs : Text.digitRuns digits = [digits] := by
    have numbers := @Derives.digitRuns_append _ _ _ derives [] (by simp)
    rwa [List.append_nil] at numbers
  have allowed : forbidden? digits = none := by
    rw [forbidden?, Option.map_eq_none_iff, List.find?_eq_none]
    intro digit member
    simp [isAllowed, areDigits digit member]
  have shape : shapeFault? digits = some (.joined (String.ofList digits)) := by
    rw [shapeFault?, unsigned, if_neg Bool.false_ne_true, runs, List.find?_cons, decide_eq_true several]
    rfl
  have plain : plainFault? digits = some (.joined (String.ofList digits)) := by
    rw [plainFault?, if_neg (by simpa using nonempty), allowed, Option.none_or, shape]
  unfold judge
  dsimp only
  rw [unchanged, plain, Option.some_or]

theorem trim_digits : Text.trim (' ' :: digits) = digits := by
  have kept {text : List Char} (solid : ∀ digit ∈ text, digit.isDigit = true) : Text.dropBlanks text = text := by
    cases text with
    | nil => rfl
    | cons digit text =>
        have isSolid := isBlank_of_isDigit (solid digit List.mem_cons_self)
        exact List.dropWhile_cons_of_neg (by simp [isSolid])
  have blank : Text.dropBlanks (' ' :: digits) = Text.dropBlanks digits := List.dropWhile_cons_of_pos (by decide)
  rw [Text.trim, blank, kept areDigits, kept (by simpa using areDigits), List.reverse_reverse]

theorem invocation_of_digits (nonempty : digits ≠ []) :
    Invocation.ofText? ("!m10 ".toList ++ digits) = some ⟨.answer, some digits⟩ := by
  have isName : ('m' :: '1' :: '0' :: ' ' :: digits).takeWhile (fun character => !Text.isBlank character) =
      ['m', '1', '0'] := rfl
  change Invocation.ofText? ('!' :: 'm' :: '1' :: '0' :: ' ' :: digits) = _
  rw [Invocation.ofText?, isName]
  change some (Invocation.mk .answer
    (if (Text.trim (' ' :: digits)).isEmpty then none else some (Text.trim (' ' :: digits)))) = _
  rw [trim_digits areDigits, if_neg (by simpa using nonempty)]

end

/-- While a game runs, an answer of joined digits is told back whole. -/
theorem Bot.receive_joined [DepthLimit] {bot : Bot} {moment : Moment} {state : BotState} {message : Message}
    {problem : String} {digits : List Char} (areDigits : ∀ digit ∈ digits, digit.isDigit = true)
    (several : 1 < digits.length)
    (content : message.content = "!m10 " ++ String.ofList digits) (takes : bot.takes state message = true)
    (byPlayer : message.automated = false)
    (plays : (requireGame message.seat moment state.session).1.toOption.map Game.spot = some (.problem problem)) :
    (bot.receive moment message state).1 = [.say (Rejection.joined (String.ofList digits)).message] := by
  have invokes : Invocation.ofText? message.content.toList = some ⟨.answer, some digits⟩ := by
    have isText : message.content.toList = "!m10 ".toList ++ digits := by
      rw [content, String.toList_append, @String.toList_ofList digits]
    rw [isText]
    exact invocation_of_digits areDigits (List.ne_nil_of_length_pos (by omega))
  have fails : ∃ later, bot.perform message ⟨.answer, some digits⟩ moment state.session =
      (.error (.rejected (.joined (String.ofList digits))), later) := by
    cases finds : requireGame message.seat moment state.session with
    | mk result later =>
        rw [finds] at plays
        cases result with
        | error fault => cases plays
        | ok game =>
            have isSpot : game.spot = .problem problem := Option.some.inj plays
            exact ⟨later, bind_of_error (submitAnswer_rejected finds isSpot (judge_joined areDigits several problem))⟩
  obtain ⟨later, fails⟩ := fails
  unfold receive process
  rw [if_pos takes, byPlayer, if_neg Bool.false_ne_true, invokes]
  dsimp only
  rw [react_eq, fails]
  rfl

/-- In every conversation with the standard settings, while the store is in reach, every text that is said is a reply
to a message that was taken, and fits in one message itself; or it repeats the answer that was given there, and then it
is longer than the message by 167 characters at most. -/
theorem replies_fit_unless_they_quote [DepthLimit] (bot : Bot) (stored : List String) (prepared : Moment)
    (arrivals : List Bot.Arrival) (standard : bot.rules.settings = .standard)
    (problems : ∀ problem ∈ stored, IsProblem problem)
    (reachable : ∀ arrival ∈ arrivals, arrival.moment.outage = none)
    (deliverable : ∀ arrival ∈ arrivals, ∀ message, arrival.event = .message message → message.IsDeliverable) :
    let conversation := bot.converse (bot.prepare prepared (Session.opening stored [] 0)) arrivals
    ∀ exchange ∈ conversation.exchanges, ∀ text, .say text ∈ exchange.effects →
      ∃ message, exchange.taken? bot = some message ∧ (text.length ≤ messageLimit ∨
        ∃ expression, Invocation.ofText? message.content.toList = some ⟨.answer, some expression⟩ ∧
          Reply.Quotes expression text ∧ text.length ≤ message.content.length + 167) := by
  intro conversation exchange member text said
  have fits := Bot.converse_fits (bot.prepare_isBrief prepared stored) standard (opening_isPool bot.rules problems)
    reachable deliverable
  exact fits.replies exchange member text said

section

attribute [local instance] DepthLimit.standard

theorem replies_fit_unless_they_quote_of_joined_digits :
    let bot : Bot := ⟨9, 8, ⟨.standard, fun _ => false⟩⟩
    let stored : List String := ["1234", "1235", "1236", "1237", "1238"]
    let moment : Moment := ⟨0.0, none, none⟩
    let start : Message := ⟨1, 7, some 5, 6, "!make10", false⟩
    let answer : Message := ⟨2, 7, some 5, 6, "!m10 " ++ String.ofList (List.replicate 1995 '1'), false⟩
    let arrivals : List Bot.Arrival := [⟨moment, .message start⟩, ⟨moment, .message answer⟩]
    ∃ exchange ∈ (bot.converse (bot.prepare moment (Session.opening stored [] 0)) arrivals).exchanges,
      ∃ text, .say text ∈ exchange.effects ∧ text.length = 2038 ∧
        ∃ message expression, exchange.taken? bot = some message ∧
        Invocation.ofText? message.content.toList = some ⟨.answer, some expression⟩ ∧
        Reply.Quotes expression text ∧ text.length ≤ message.content.length + 167 := by
  intro bot stored moment start answer arrivals
  have areDigits : ∀ digit ∈ List.replicate 1995 '1', digit.isDigit = true := by
    intro digit member
    rw [List.eq_of_mem_replicate member]
    rfl
  have deliverable : ∀ arrival ∈ arrivals, ∀ message, arrival.event = .message message → message.IsDeliverable := by
    have content : answer.content.length = 2000 := by
      change ("!m10 " ++ String.ofList (List.replicate 1995 '1')).length = 2000
      rw [String.length_append, @String.length_ofList (List.replicate 1995 '1'), List.length_replicate]
      rfl
    rintro arrival member message isMessage
    simp only [arrivals, List.mem_cons, List.not_mem_nil, or_false] at member
    rcases member with rfl | rfl
    · cases isMessage
      exact ⟨by decide, by decide⟩
    · cases isMessage
      exact ⟨by decide, content.le⟩
  have runs : ∃ before : Bot.Conversation, bot.converse (bot.prepare moment (Session.opening stored [] 0)) arrivals =
        before.extend bot ⟨moment, .message answer⟩ ∧
      bot.takes before.state answer = true ∧
      (requireGame answer.seat moment before.state.session).1.toOption.map Game.spot = some (.problem "1234") :=
    ⟨bot.converse (bot.prepare moment (Session.opening stored [] 0)) [⟨moment, .message start⟩],
      @Bot.converse_concat _ bot _ [_] _, by decide +kernel, by decide +kernel⟩
  obtain ⟨before, continues, takes, plays⟩ := runs
  have several : 1 < (List.replicate 1995 '1').length := by
    rw [List.length_replicate]
    decide
  have reply := Bot.receive_joined areDigits several rfl takes rfl plays
  have length := joined_length (String.ofList (List.replicate 1995 '1'))
  rw [@String.length_ofList (List.replicate 1995 '1'), List.length_replicate] at length
  have replies := replies_fit_unless_they_quote bot stored moment arrivals rfl (by decide) (by decide) deliverable
  have isLast : ∃ exchange ∈ (bot.converse (bot.prepare moment (Session.opening stored [] 0)) arrivals).exchanges,
      exchange.effects = (bot.receive moment answer before.state).1 := by
    rw [continues, Bot.extend_exchanges]
    exact ⟨_, List.mem_append_right _ List.mem_cons_self, rfl⟩
  obtain ⟨exchange, member, effects⟩ := isLast
  have said : .say (Rejection.joined (String.ofList (List.replicate 1995 '1'))).message ∈ exchange.effects := by
    rw [effects, reply]
    exact List.mem_cons_self
  obtain ⟨message, taken, fits | ⟨expression, invokes, quotes, within⟩⟩ := replies exchange member _ said
  · rw [length] at fits
    exact absurd fits (by decide)
  · exact ⟨exchange, member, _, said, length, message, expression, taken, invokes, quotes, within⟩

end

end TenPuzzle
