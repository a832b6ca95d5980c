import TenPuzzle.Bot.Basic
import TenPuzzle.Proofs.Game.Safety

/-!
The bot at work. Every command that a message can hold is carried out on the session that the messages before it
have left, and never gets stuck. As everywhere here, no command is dispatched but the bot's own, and no send fails.
-/

namespace TenPuzzle

section

variable {game : Game} {now : Float}

theorem Game.IsTimely.wholePart (timely : game.IsTimely now) (ends : ∀ time ∈ game.endTime, time = .real now) :
    ∃ whole, Number.wholePart (game.elapsed now) = .ok whole := by
  obtain ⟨exact, isExact, nonneg⟩ := timely.elapsed ends
  exact ⟨_, Number.wholePart_of_nonneg isExact nonneg⟩

theorem finished_isOk (player : String) (timely : game.IsTimely now) (ends : game.endTime = some (.real now)) :
    ∃ text, Reply.finished player game now = .ok text := by
  obtain ⟨whole, isWhole⟩ := timely.wholePart (by simp [ends])
  rw [Reply.finished, Game.summary, isWhole]
  exact ⟨_, rfl⟩

theorem clockText_isOk (timely : game.IsTimely now) (runs : game.endTime = none) :
    ∃ text, clockText (game.elapsed now) = .ok text := by
  obtain ⟨whole, isWhole⟩ := timely.wholePart (by simp [runs])
  rw [clockText, isWhole]
  exact ⟨_, rfl⟩

end

/-- What a command may be answered with instead of what was asked for. -/
def Command.Refuses : Command → GameFault → Prop
  | .start => GameFault.RefusesStart
  | .answer => GameFault.RefusesAnswer
  | .pass => GameFault.RefusesPass
  | .status | .reset | .leaderboard | .problems | .shutdown => GameFault.RefusesNothing

theorem Command.Refuses.kind {command : Command} {fault : GameFault} (refuses : command.Refuses fault) :
    fault.kind = .refusal := by
  cases command with
  | start => exact kind_of_refusesStart refuses
  | answer => exact kind_of_refusesAnswer refuses
  | pass => exact kind_of_refusesPass refuses
  | status | reset | leaderboard | problems | shutdown => exact refuses.elim

namespace Bot

section

variable {rules : Rules} {pool : List String} {moment : Moment} {refuses : GameFault → Prop}

theorem problemText_ensures {game : Game} {fair : List String → Prop} (running : game.IsRunning rules pool fair) :
    (problemText game).Ensures (Session.IsHealthy rules pool) moment refuses fun _ => True := by
  obtain ⟨digits, _, plays⟩ := running.spot
  unfold problemText
  rw [plays]
  exact ensures_pure trivial

theorem sayEnd_ensures (player : String) {game : Game} (timely : game.IsTimely moment.now)
    (ends : game.endTime = some (.real moment.now)) :
    (sayEnd player game).Ensures (Session.IsHealthy rules pool) moment refuses
      fun reaction => reaction.fault = none := by
  apply ensures_moment.bind
  rintro _ rfl
  obtain ⟨text, tells⟩ := finished_isOk player timely ends
  rw [tells]
  exact ensures_pure rfl

theorem sayNext_ensures (player text : String) {game : Game} (left : game.IsLeft rules pool moment.now) :
    (sayNext player text game).Ensures (Session.IsHealthy rules pool) moment refuses
      fun reaction => reaction.fault = none := by
  have settled := left.settled
  unfold sayNext
  split
  · next finished =>
      rw [if_pos finished] at settled
      exact (sayEnd_ensures player left.timely settled.endTime).bind fun farewell silent => ensures_pure silent
  · next unfinished =>
      rw [if_neg unfinished] at settled
      exact (problemText_ensures settled).bind fun _ _ => ensures_pure rfl

variable (playable : rules.ArePlayable) (isPool : IsPool pool) (fair : moment.IsFair pool.length)

include playable isPool fair in
theorem startGame_ensures (seat : Seat) (mode : Option Int) :
    (startGame rules seat mode).Ensures (Session.IsHealthy rules pool) moment GameFault.RefusesStart
      fun reaction => reaction.fault = none := by
  apply (createGame_ensures playable isPool fair seat mode).bind
  intro game played
  exact (problemText_ensures played.toIsRunning).bind fun _ _ => ensures_pure rfl

include playable isPool fair in
theorem start_ensures (seat : Seat) (argument : Option (List Char)) :
    (start rules seat argument).Ensures (Session.IsHealthy rules pool) moment GameFault.RefusesStart
      fun reaction => reaction.fault = none := by
  cases argument with
  | none => exact startGame_ensures playable isPool fair seat none
  | some text =>
      unfold start
      dsimp only
      split
      · next mode _ => exact startGame_ensures playable isPool fair seat (some mode)
      · exact ensures_pure rfl

include playable isPool fair in
theorem answer_ensures [DepthLimit] (seat : Seat) (argument : Option (List Char)) :
    (answer rules seat argument).Ensures (Session.IsHealthy rules pool) moment GameFault.RefusesAnswer
      fun reaction => reaction.fault = none := by
  cases argument with
  | none => exact ensures_pure rfl
  | some expression =>
      apply (submitAnswer_ensures playable isPool fair seat expression).bind
      rintro ⟨attempt, game⟩ left
      dsimp only
      split
      · exact sayNext_ensures seat.player _ left
      · exact ensures_pure rfl

include playable isPool fair in
theorem pass_ensures [DepthLimit] (seat : Seat) :
    (pass rules seat).Ensures (Session.IsHealthy rules pool) moment GameFault.RefusesPass
      fun reaction => reaction.fault = none := by
  apply (passProblem_ensures playable isPool fair seat).bind
  rintro ⟨attempt, game⟩ left
  exact sayNext_ensures seat.player _ left

include playable fair in
theorem status_ensures (seat : Seat) :
    (status seat).Ensures (Session.IsHealthy rules pool) moment refuses fun reaction => reaction.fault = none := by
  apply (activeGame_ensures playable fair seat).bind
  intro found played
  cases found with
  | none => exact ensures_pure rfl
  | some game =>
      have isPlayed := played game rfl
      obtain ⟨text, tells⟩ := clockText_isOk isPlayed.timely isPlayed.endTime
      have clocks : (Action.ofExcept .notWhole (clockText (game.elapsed moment.now))).Ensures
          (Session.IsHealthy rules pool) moment refuses fun _ => True := by
        rw [tells]
        exact ensures_pure trivial
      apply ensures_moment.bind
      rintro _ rfl
      exact clocks.bind fun _ _ => (problemText_ensures isPlayed.toIsRunning).bind fun _ _ => ensures_pure rfl

end

/-! Runs. -/

section

variable [DepthLimit] {bot : Bot} {pool : List String} {moment : Moment} {session : Session}
  (playable : bot.rules.ArePlayable) (isPool : IsPool pool) (fair : moment.IsFair pool.length)

include playable isPool fair

/-- Whatever is asked for, it is done or refused. -/
theorem perform_ensures (message : Message) (invocation : Invocation) :
    (bot.perform message invocation).Ensures (Session.IsHealthy bot.rules pool) moment invocation.command.Refuses
      fun reaction => reaction.fault = none := by
  obtain ⟨command, argument⟩ := invocation
  cases command with
  | start => exact start_ensures playable isPool fair message.seat argument
  | answer => exact answer_ensures playable isPool fair message.seat argument
  | pass => exact pass_ensures playable isPool fair message.seat
  | status => exact status_ensures playable fair message.seat
  | reset => exact (cancelGame_ensures playable fair message.seat).bind fun _ _ => ensures_pure rfl
  | leaderboard => exact (leaderboard_ensures fair message.seat.server none).bind fun _ _ => ensures_pure rfl
  | problems => exact (ensureProblems_ensures fair).bind fun _ _ => ensures_pure rfl
  | shutdown =>
      change (shutdown bot message.author).Ensures _ _ _ _
      unfold shutdown
      split <;> exact ensures_pure rfl

theorem react_isSafe (message : Message) (invocation : Invocation) (healthy : session.IsHealthy bot.rules pool) :
    (bot.react moment message invocation session).2.IsHealthy bot.rules pool ∧
      ∀ fault, (bot.react moment message invocation session).1.fault = some fault →
        invocation.command.Refuses fault := by
  obtain ⟨still, holds⟩ := perform_ensures playable isPool fair message invocation session healthy
  unfold react
  cases performed : bot.perform message invocation moment session with
  | mk result later =>
      rw [performed] at still holds
      refine ⟨?_, ?_⟩
      · cases result <;> exact still
      · cases result with
        | error fault =>
            rintro _ ⟨⟩
            exact holds
        | ok reaction =>
            intro fault isFault
            dsimp only at holds isFault
            rw [holds] at isFault
            cases isFault

theorem handle_isHealthy (event : Event) {state : BotState} (healthy : state.session.IsHealthy bot.rules pool) :
    (bot.handle moment event state).2.session.IsHealthy bot.rules pool := by
  cases event with
  | ready => exact healthy
  | message message =>
      unfold handle receive
      dsimp only
      split
      · split
        · exact healthy
        · unfold process
          cases invoked : Invocation.ofText? message.content.toList with
          | none => exact healthy
          | some invocation => exact (react_isSafe playable isPool fair message invocation healthy).1
      · exact healthy

end

structure Arrival where
  moment : Moment
  event : Event

/-- The bot after events, one and then another. -/
def handleAll [DepthLimit] (bot : Bot) (start : BotState) (arrivals : List Arrival) : BotState :=
  arrivals.foldl (fun state arrival => (bot.handle arrival.moment arrival.event state).2) start

theorem handleAll_isHealthy [DepthLimit] {bot : Bot} {pool : List String} {start : BotState} {arrivals : List Arrival}
    (playable : bot.rules.ArePlayable) (isPool : IsPool pool) (healthy : start.session.IsHealthy bot.rules pool)
    (fair : ∀ arrival ∈ arrivals, arrival.moment.IsFair pool.length) :
    (bot.handleAll start arrivals).session.IsHealthy bot.rules pool := by
  induction arrivals generalizing start with
  | nil => exact healthy
  | cons arrival arrivals ih =>
      have later := handle_isHealthy playable isPool (fair arrival List.mem_cons_self) arrival.event healthy
      exact ih later fun other member => fair other (.tail _ member)

theorem prepare_isHealthy {bot : Bot} {pool : List String} {moment : Moment} {session : Session}
    (fair : moment.IsFair pool.length) (healthy : session.IsHealthy bot.rules pool) :
    (bot.prepare moment session).session.IsHealthy bot.rules pool :=
  (@ensureProblems_ensures _ _ _ GameFault.RefusesNothing fair session healthy).1

end Bot

/-- A refusal is told as it is, after all that was said before it. -/
theorem told_of_refusal {reaction : Reaction} {fault : GameFault} (refuses : fault.kind = .refusal)
    (isFault : reaction.fault = some fault) : reaction.told = reaction.effects ++ [.say fault.message] := by
  rw [Reaction.told, isFault, Option.map_some, Option.toList_some, Reply.fault, refuses]

/-- With settings that were loaded and a pool of problems, after whatever messages, a command comes to its end or is
refused, for no other reason than it can have, and a refusal is told as it is; and so it is with the games themselves.
The store is taken to be within reach, clocks to show a time, draws to be samples, lifetimes to be short enough for
doubles to count, and each text that is said to be sent, however long it is. -/
theorem no_command_crashes [DepthLimit] (bot : Bot) (directory : Directory) (path : Option String)
    (stored : List String) (loads : Settings.load directory path = .ok bot.rules.settings)
    (lifetime : bot.rules.settings.lifetime < 2 ^ 53)
    (problems : ∀ problem ∈ stored, IsProblem problem) :
    let opening := Session.opening stored [] 0
    let size := (opening.problems bot.rules).length
    (∀ prepared : Moment, prepared.IsFair size → ∀ arrivals : List Bot.Arrival,
        (∀ arrival ∈ arrivals, arrival.moment.IsFair size) → ∀ moment : Moment, moment.IsFair size →
        ∀ message invocation,
          let state := bot.handleAll (bot.prepare prepared opening) arrivals
          let reaction := (bot.react moment message invocation state.session).1
          ∀ fault, reaction.fault = some fault → invocation.command.Refuses fault ∧ fault.kind = .refusal ∧
            reaction.told = reaction.effects ++ [.say fault.message]) ∧
      ∀ calls : List Call, (∀ call ∈ calls, call.moment.IsFair size) → ∀ call : Call, call.moment.IsFair size →
        ∀ fault later, call.run bot.rules (callAll bot.rules opening calls) = (.error fault, later) →
          call.request.Refuses fault ∧ fault.kind = .refusal := by
  intro opening size
  have playable : bot.rules.ArePlayable := ⟨Settings.load_isPlayable loads, lifetime⟩
  have isPool := opening_isPool bot.rules problems
  have healthy := opening_isHealthy bot.rules stored [] 0
  constructor
  · intro prepared isPrepared arrivals fair moment isFair message invocation state reaction fault isFault
    have ready := Bot.handleAll_isHealthy playable isPool (Bot.prepare_isHealthy isPrepared healthy) fair
    have refuses := (Bot.react_isSafe playable isPool isFair message invocation ready).2 fault isFault
    exact ⟨refuses, refuses.kind, told_of_refusal refuses.kind isFault⟩
  · intro calls fair call isFair fault later fails
    have before := callAll_isHealthy playable isPool healthy fair
    have refuses := (Request.perform_ensures playable isPool isFair call.request).refusal before fails
    exact ⟨refuses, refuses.kind⟩

section

attribute [local instance] DepthLimit.standard

theorem no_command_crashes_of_refused_mode :
    let bot : Bot := ⟨9, 8, ⟨.standard, fun _ => false⟩⟩
    let stored := ["1111", "1234", "2222", "5678", "9999"]
    let arrivals : List Bot.Arrival :=
      [⟨⟨1.0, some [4, 3, 2, 1, 0], none⟩, .message ⟨1, 7, some 5, 6, "!make10", false⟩⟩]
    let message : Message := ⟨2, 7, some 5, 6, "!make10 7", false⟩
    let reaction := (bot.react ⟨5.0, none, none⟩ message ⟨.start, some "7".toList⟩
      (bot.handleAll (bot.prepare ⟨0.0, none, none⟩ (Session.opening stored [] 0)) arrivals).session).1
    ∃ fault, reaction.fault = some fault ∧ Command.start.Refuses fault ∧ fault.kind = .refusal ∧
      reaction.told = reaction.effects ++ [.say fault.message] := by
  intro bot stored arrivals message reaction
  obtain ⟨safe, _⟩ := no_command_crashes bot ⟨[]⟩ none stored rfl (by decide) (by decide)
  have size : ((Session.opening stored [] 0).problems bot.rules).length = 5 := by decide +kernel
  have undrawn (now : Float) (finite : now.isFinite = true) :
      Moment.IsFair ((Session.opening stored [] 0).problems bot.rules).length ⟨now, none, none⟩ :=
    ⟨rfl, finite, fun _ drawn => nomatch drawn⟩
  have arrives : ∀ arrival ∈ arrivals,
      arrival.moment.IsFair ((Session.opening stored [] 0).problems bot.rules).length := by
    intro arrival member
    rw [List.mem_singleton.mp member, size]
    refine ⟨rfl, by decide +kernel, ?_⟩
    rintro _ ⟨⟩
    decide
  have isFault : reaction.fault.isSome = true := by decide +kernel
  obtain ⟨fault, fails⟩ := Option.isSome_iff_exists.mp isFault
  exact ⟨fault, fails, safe ⟨0.0, none, none⟩ (undrawn 0.0 (by decide +kernel)) arrivals arrives ⟨5.0, none, none⟩
    (undrawn 5.0 (by decide +kernel)) message ⟨.start, some "7".toList⟩ fault fails⟩

end

end TenPuzzle
