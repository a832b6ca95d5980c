import TenPuzzle.Proofs.Game.Health
import TenPuzzle.Proofs.Game.Request

/-!
Safety. On a healthy session every command comes to its end, or refuses what a player asked for; and it leaves a
healthy session behind.
-/

namespace TenPuzzle

/-! Refusals. -/

def GameFault.RefusesStart : GameFault → Prop
  | .modeNotOffered _ | .alreadyPlaying | .poolTooSmall _ => True
  | _ => False

def GameFault.RefusesAnswer : GameFault → Prop
  | .notPlaying | .rejected _ => True
  | _ => False

def GameFault.RefusesPass : GameFault → Prop
  | .notPlaying => True
  | _ => False

def GameFault.RefusesNothing : GameFault → Prop :=
  fun _ => False

/-- What a player may be told instead of an answer. -/
def Play.Refuses : Play → GameFault → Prop
  | .create _ => GameFault.RefusesStart
  | .answer _ => GameFault.RefusesAnswer
  | .pass => GameFault.RefusesPass
  | .look | .cancel => GameFault.RefusesNothing

def Request.Refuses : Request → GameFault → Prop
  | .move _ play => play.Refuses
  | .rank _ _ | .stock => GameFault.RefusesNothing

section

variable {fault : GameFault}

theorem kind_of_refusesStart (refuses : fault.RefusesStart) : fault.kind = .refusal := by
  cases fault <;> first | rfl | exact refuses.elim

theorem kind_of_refusesAnswer (refuses : fault.RefusesAnswer) : fault.kind = .refusal := by
  cases fault <;> first | rfl | exact refuses.elim

theorem kind_of_refusesPass (refuses : fault.RefusesPass) : fault.kind = .refusal := by
  cases fault <;> first | rfl | exact refuses.elim

theorem Play.Refuses.kind {play : Play} (refuses : play.Refuses fault) : fault.kind = .refusal := by
  cases play with
  | create mode => exact kind_of_refusesStart refuses
  | answer expression => exact kind_of_refusesAnswer refuses
  | pass => exact kind_of_refusesPass refuses
  | look => exact refuses.elim
  | cancel => exact refuses.elim

theorem Request.Refuses.kind {request : Request} (refuses : request.Refuses fault) : fault.kind = .refusal := by
  cases request with
  | move seat play => exact Play.Refuses.kind refuses
  | rank server limit => exact refuses.elim
  | stock => exact refuses.elim

end

/-! Specifications. -/

/-- From every session that keeps an invariant, an action leads to another one, with a value as wanted or with one of
some refusals. -/
def Action.Ensures {α : Type} (action : Action α) (invariant : Session → Prop) (moment : Moment)
    (refuses : GameFault → Prop) (post : α → Prop) : Prop :=
  ∀ session, invariant session → invariant (action moment session).2 ∧
    match (action moment session).1 with
    | .ok value => post value
    | .error fault => refuses fault

section

variable {α β : Type} {invariant : Session → Prop} {moment : Moment} {refuses : GameFault → Prop} {post : α → Prop}
  {goal : β → Prop}

theorem ensures_of_ok {action : Action α} (succeeds : ∀ session, invariant session →
    ∃ value later, action moment session = (.ok value, later) ∧ invariant later ∧ post value) :
    action.Ensures invariant moment refuses post := by
  intro session kept
  obtain ⟨value, later, same, still, holds⟩ := succeeds session kept
  rw [same]
  exact ⟨still, holds⟩

theorem Action.Ensures.refusal {action : Action α} (ensures : action.Ensures invariant moment refuses post)
    {session later : Session} {fault : GameFault} (kept : invariant session)
    (fails : action moment session = (.error fault, later)) : refuses fault := by
  have holds := (ensures session kept).2
  rw [fails] at holds
  exact holds

theorem ensures_pure {value : α} (holds : post value) :
    (pure value : Action α).Ensures invariant moment refuses post :=
  fun _ kept => ⟨kept, holds⟩

theorem ensures_fail {fault : GameFault} (allowed : refuses fault) :
    (Action.fail fault : Action α).Ensures invariant moment refuses post :=
  fun _ kept => ⟨kept, allowed⟩

/-- Nothing follows a failure. -/
theorem ensures_fail_bind {fault : GameFault} {next : α → Action β} (allowed : refuses fault) :
    (Action.fail fault >>= next).Ensures invariant moment refuses goal :=
  fun _ kept => ⟨kept, allowed⟩

theorem ensures_moment : Action.moment.Ensures invariant moment refuses (moment = ·) :=
  fun _ kept => ⟨kept, rfl⟩

theorem Action.Ensures.bind {action : Action α} {next : α → Action β}
    (first : action.Ensures invariant moment refuses post)
    (rest : ∀ value, post value → (next value).Ensures invariant moment refuses goal) :
    (action >>= next).Ensures invariant moment refuses goal := by
  intro session kept
  obtain ⟨still, holds⟩ := first session kept
  cases performed : action moment session with
  | mk result later =>
      rw [performed] at still holds
      cases result with
      | error fault =>
          rw [bind_of_error performed]
          exact ⟨still, holds⟩
      | ok value =>
          rw [bind_of_ok performed]
          exact rest value holds later still

theorem ensures_ofExcept {ε : Type} {wrap : ε → GameFault} {result : Except ε α}
    (allowed : ∀ fault, result = .error fault → refuses (wrap fault)) :
    (Action.ofExcept wrap result).Ensures invariant moment refuses (result = .ok ·) := by
  cases result with
  | error fault => exact ensures_fail (allowed fault rfl)
  | ok value => exact ensures_pure rfl

end

/-! Games as commands leave them. -/

/-- A game after a move: complete, or still in play. -/
structure Game.IsLeft (rules : Rules) (pool : List String) (now : Float) (game : Game) : Prop where
  timely : game.IsTimely now
  settled : if game.isFinished then game.IsComplete rules pool AreProblems now
    else game.IsRunning rules pool AreProblems

section

variable [DepthLimit] {rules : Rules} {pool : List String} {now : Float} {game : Game} {attempt : Attempt}

theorem Game.IsPlayed.record (played : game.IsPlayed rules pool now) (takes : game.Takes attempt) :
    ((game.record attempt).settled now).IsLeft rules pool now := by
  constructor
  · unfold Game.settled
    split <;> exact played.timely
  · rw [Game.isFinished_settled]
    exact played.settled takes now

theorem Game.IsPlayed.unfinished (played : game.IsPlayed rules pool now) (takes : game.Takes attempt)
    (unfinished : (game.record attempt).isFinished = false) : (game.record attempt).IsPlayed rules pool now :=
  ⟨played.toIsRunning.next takes unfinished, played.timely⟩

end

/-! Commands. -/

/-- A moment at which the store is within reach, with a clock that shows a time and a fair draw. -/
structure Moment.IsFair (size : Nat) (moment : Moment) : Prop where
  reachable : moment.outage = none
  finite : moment.now.isFinite = true
  samples : moment.Samples size

section

variable {rules : Rules} {pool : List String} {moment : Moment} {refuses : GameFault → Prop}
  (playable : rules.ArePlayable) (isPool : IsPool pool) (fair : moment.IsFair pool.length)

include playable fair in
theorem activeGame_ensures (seat : Seat) :
    (activeGame seat).Ensures (Session.IsHealthy rules pool) moment refuses fun found =>
      ∀ game ∈ found, game.IsPlayed rules pool moment.now := by
  apply ensures_of_ok
  intro session healthy
  obtain ⟨found, isFound, played⟩ := healthy.gameAt playable fair.finite seat
  refine ⟨found, session.purged moment, ?_, healthy.purged moment, fun game member => (played game member).2⟩
  rw [activeGame_eq fair.reachable session seat, isFound]
  rfl

include playable fair in
theorem requireGame_ensures (seat : Seat) (allowed : refuses .notPlaying) :
    (requireGame seat).Ensures (Session.IsHealthy rules pool) moment refuses fun game =>
      game.IsPlayed rules pool moment.now := by
  apply (activeGame_ensures playable fair seat).bind
  intro found played
  cases found with
  | none => exact ensures_fail allowed
  | some game => exact ensures_pure (played game rfl)

include fair in
theorem ensureProblems_ensures :
    (ensureProblems rules).Ensures (Session.IsHealthy rules pool) moment refuses (pool = ·) := by
  apply ensures_of_ok
  intro session healthy
  obtain ⟨later, ensures, ages⟩ := ensureProblems_ages rules fair.reachable healthy.stocked
  exact ⟨_, later, ensures, healthy.ages ages, healthy.pooled.symm⟩

include fair in
theorem drawProblems_ensures {count : Int} (nonneg : 0 ≤ count) (allowed : refuses (.poolTooSmall pool.length)) :
    (drawProblems rules count).Ensures (Session.IsHealthy rules pool) moment refuses fun problems =>
      (problems.length : Int) = count ∧ count ≤ pool.length ∧ moment.Draws pool problems := by
  apply (ensureProblems_ensures fair).bind
  rintro _ rfl
  split
  · exact ensures_fail_bind allowed
  · next few =>
      have enough : count ≤ pool.length := by omega
      apply ensures_of_ok
      intro session healthy
      obtain ⟨problems, drawn, length, draws⟩ := draw_samples session fair.samples nonneg enough
      exact ⟨problems, session, drawn, healthy, length, enough, draws⟩

include isPool fair in
theorem saveGame_ensures {game : Game} (played : game.IsPlayed rules pool moment.now) :
    (saveGame rules game).Ensures (Session.IsHealthy rules pool) moment refuses fun _ => True := by
  apply ensures_of_ok
  intro session healthy
  have saves := saveGame_eq fair.reachable session rules (played.isStorable isPool.short)
  exact ⟨(), _, saves, (healthy.live moment.now).saved isPool played, trivial⟩

include playable isPool fair in
theorem createGame_ensures (seat : Seat) (mode : Option Int) :
    (createGame rules seat mode).Ensures (Session.IsHealthy rules pool) moment GameFault.RefusesStart
      fun game => game.IsPlayed rules pool moment.now := by
  unfold createGame
  dsimp only
  split
  · exact ensures_fail_bind trivial
  · next isOffered =>
      have offered : mode.getD rules.settings.defaultMode ∈ rules.settings.modes := by simpa using isOffered
      have positive := playable.settings.modes _ offered
      apply (activeGame_ensures playable fair seat).bind
      intro found _
      split
      · exact ensures_fail_bind trivial
      · apply (drawProblems_ensures fair (by omega) trivial).bind
        rintro problems ⟨length, enough, draws⟩
        apply ensures_moment.bind
        rintro _ rfl
        have played := fresh_isPlayed seat playable isPool fair.finite offered length enough draws
        exact (saveGame_ensures isPool fair played).bind fun _ _ => ensures_pure played

include isPool fair in
/-- A move keeps or ends a game. -/
theorem storeOrFinish_ensures [DepthLimit] {game : Game} {attempt : Attempt}
    (played : game.IsPlayed rules pool moment.now) (takes : game.Takes attempt) :
    (storeOrFinish rules (game.record attempt)).Ensures (Session.IsHealthy rules pool) moment refuses fun later =>
      later.IsLeft rules pool moment.now := by
  have settles : (game.record attempt).CanSettle :=
    fun unfinished => (played.unfinished takes unfinished).isStorable isPool.short
  apply ensures_of_ok
  intro session healthy
  refine ⟨_, _, storeOrFinish_eq fair.reachable session rules settles, ?_, played.record takes⟩
  have lives := healthy.live moment.now
  unfold Store.settled
  split
  · have most : (game.record attempt).correctCount ≤ listLimit := by
      have sound := (played.toIsRunning.record takes).correctCount_le
      have bound : (game.record attempt).current ≤ game.mode := played.toIsRunning.current_record
      have enough := played.enough
      have short := isPool.short
      omega
    exact (lives.erased _).credited most
  · next unfinished => exact lives.saved isPool (played.unfinished takes (by simpa using unfinished))

theorem judgeFor_ensures [DepthLimit] {game : Game} (played : game.IsPlayed rules pool moment.now)
    (expression : List Char) :
    (judgeFor game expression).Ensures (Session.IsHealthy rules pool) moment refuses fun judged =>
      ∃ digits, judged = (digits, judge expression digits) ∧ game.spot = .problem digits := by
  obtain ⟨digits, _, plays⟩ := played.spot
  unfold judgeFor
  rw [plays]
  exact ensures_pure ⟨digits, rfl, rfl⟩

include playable isPool fair in
theorem submitAnswer_ensures [DepthLimit] (seat : Seat) (expression : List Char) :
    (submitAnswer rules seat expression).Ensures (Session.IsHealthy rules pool) moment GameFault.RefusesAnswer
      fun told => told.2.IsLeft rules pool moment.now := by
  apply (requireGame_ensures playable fair seat trivial).bind
  intro game played
  apply (judgeFor_ensures played expression).bind
  rintro _ ⟨digits, rfl, plays⟩
  have accepts : (Action.ofExcept .rejected (judge expression digits).verdict).Ensures (Session.IsHealthy rules pool)
      moment GameFault.RefusesAnswer ((judge expression digits).verdict = .ok ·) := ensures_ofExcept fun _ _ => trivial
  apply accepts.bind
  intro result isResult
  have takes : game.Takes ((judge expression digits).attempt digits result) := ⟨plays, .answer isResult⟩
  exact (storeOrFinish_ensures isPool fair played takes).bind fun later left => ensures_pure left

theorem solution_isOk [DepthLimit] {problem : String} (isProblem : IsProblem problem) :
    ∃ solution, solution? problem = .ok solution := by
  obtain ⟨characters, _, _, digits⟩ := digitsOf_problem isProblem
  exact ⟨_, solution_of_digits digits⟩

theorem revealFor_ensures [DepthLimit] {game : Game} (played : game.IsPlayed rules pool moment.now) :
    (revealFor game).Ensures (Session.IsHealthy rules pool) moment refuses fun revealed =>
      game.spot = .problem revealed.1 ∧ solution? revealed.1 = .ok revealed.2 := by
  obtain ⟨digits, member, plays⟩ := played.spot
  obtain ⟨solution, solves⟩ := solution_isOk (played.fair digits member)
  unfold revealFor
  rw [plays]
  dsimp only
  rw [solves]
  exact ensures_pure ⟨rfl, solves⟩

include playable isPool fair in
theorem passProblem_ensures [DepthLimit] (seat : Seat) :
    (passProblem rules seat).Ensures (Session.IsHealthy rules pool) moment GameFault.RefusesPass
      fun told => told.2.IsLeft rules pool moment.now := by
  apply (requireGame_ensures playable fair seat trivial).bind
  intro game played
  apply (revealFor_ensures played).bind
  rintro ⟨digits, solution⟩ ⟨plays, solves⟩
  have takes : game.Takes (.revealing digits solution) := ⟨plays, .reveal solves⟩
  exact (storeOrFinish_ensures isPool fair played takes).bind fun later left => ensures_pure left

include playable fair in
theorem cancelGame_ensures (seat : Seat) :
    (cancelGame seat).Ensures (Session.IsHealthy rules pool) moment refuses fun _ => True := by
  apply (activeGame_ensures playable fair seat).bind
  intro found _
  cases found with
  | none => exact ensures_pure trivial
  | some game =>
      have deletes : (deleteGame game).Ensures (Session.IsHealthy rules pool) moment refuses fun _ => True := by
        apply ensures_of_ok
        intro session healthy
        exact ⟨(), _, write_eq fair.reachable session _, (healthy.live moment.now).erased game.seat, trivial⟩
      exact deletes.bind fun _ _ => ensures_pure trivial

include fair in
theorem leaderboard_ensures (server : String) (limit : Option Int) :
    (leaderboard rules server limit).Ensures (Session.IsHealthy rules pool) moment refuses fun _ => True := by
  apply ensures_of_ok
  intro session healthy
  have areScores := areScores_boardOf (healthy.live moment.now).admits (boardKey server)
  exact ⟨_, _, leaderboard_eq fair.reachable fun line member => areScores line (mem_leaders member),
    healthy.purged moment, trivial⟩

/-! Requests. -/

include playable isPool fair in
theorem Play.perform_ensures [DepthLimit] (seat : Seat) (play : Play) :
    (play.perform rules seat).Ensures (Session.IsHealthy rules pool) moment play.Refuses fun _ => True := by
  cases play with
  | create mode => exact (createGame_ensures playable isPool fair seat mode).bind fun _ _ => ensures_pure trivial
  | answer expression =>
      exact (submitAnswer_ensures playable isPool fair seat expression).bind fun _ _ => ensures_pure trivial
  | pass => exact (passProblem_ensures playable isPool fair seat).bind fun _ _ => ensures_pure trivial
  | look => exact (activeGame_ensures playable fair seat).bind fun _ _ => ensures_pure trivial
  | cancel => exact (cancelGame_ensures playable fair seat).bind fun _ _ => ensures_pure trivial

include playable isPool fair in
theorem Request.perform_ensures [DepthLimit] (request : Request) :
    (request.perform rules).Ensures (Session.IsHealthy rules pool) moment request.Refuses fun _ => True := by
  cases request with
  | move seat play => exact (Play.perform_ensures playable isPool fair seat play).bind fun _ _ => ensures_pure trivial
  | rank server limit => exact (leaderboard_ensures fair server limit).bind fun _ _ => ensures_pure trivial
  | stock => exact (ensureProblems_ensures fair).bind fun _ _ => ensures_pure trivial

end

/-- Fair calls keep a session healthy. -/
theorem callAll_isHealthy [DepthLimit] {rules : Rules} {pool : List String} {start : Session} {calls : List Call}
    (playable : rules.ArePlayable) (isPool : IsPool pool) (healthy : start.IsHealthy rules pool)
    (fair : ∀ call ∈ calls, call.moment.IsFair pool.length) : (callAll rules start calls).IsHealthy rules pool :=
  callAll_keeps healthy fun session call member before =>
    (Request.perform_ensures playable isPool (fair call member) call.request session before).1

end TenPuzzle
