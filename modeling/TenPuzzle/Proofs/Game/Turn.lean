import TenPuzzle.Proofs.Game.Pool
import TenPuzzle.Proofs.Game.StoredText
import TenPuzzle.Proofs.Game.Submission

/-!
Turns: what a player asks for at a moment, and what may come of it. Whatever is asked for, a session ages,
and beyond that a turn saves one game, drops one, or ends one.
-/

namespace TenPuzzle

inductive Play where
  | create (mode : Option Int)
  | answer (expression : List Char)
  | pass
  | look
  | cancel

structure Step where
  moment : Moment
  seat : Seat
  play : Play

inductive Outcome where
  | started (game : Game)
  | recorded (attempt : Attempt) (game : Game)
  | found (game : Option Game)
  | cancelled (existed : Bool)

/-- The game that an outcome tells of. -/
def Outcome.game? : Outcome → Option Game
  | .started game => some game
  | .recorded _ game => some game
  | .found game => game
  | .cancelled _ => none

def Play.perform [DepthLimit] (rules : Rules) (seat : Seat) : Play → Action Outcome
  | .create mode => do return .started (← createGame rules seat mode)
  | .answer expression => do
    let (attempt, game) ← submitAnswer rules seat expression
    return .recorded attempt game
  | .pass => do
    let (attempt, game) ← passProblem rules seat
    return .recorded attempt game
  | .look => do return .found (← activeGame seat)
  | .cancel => do return .cancelled (← cancelGame seat)

def Step.run [DepthLimit] (rules : Rules) (step : Step) (session : Session) : Except GameFault Outcome × Session :=
  step.play.perform rules step.seat step.moment session

/-- What the store keeps for the seat at the step's moment. -/
def Step.found (step : Step) (session : Session) : Except StoredFault (Option Game) :=
  (session.store.live step.moment.now).gameAt step.seat.key

/-- The attempt that gives a problem up. -/
def Attempt.revealing (digits : String) (solution : Option String) : Attempt :=
  ⟨digits, solution.getD "", solution.map fun _ => .real target, false, none, true⟩

/-- An attempt is an answer that was accepted, or what the search shows to a player who gives up. -/
inductive Attempt.Arises [DepthLimit] : Attempt → Prop
  | answer {expression : List Char} {digits : String} {result : Option Float} :
      (judge expression digits).verdict = .ok result → Arises ((judge expression digits).attempt digits result)
  | reveal {digits : String} {solution : Option String} :
      solution? digits = .ok solution → Arises (.revealing digits solution)

/-- An attempt at the problem in play. -/
structure Game.Takes [DepthLimit] (game : Game) (attempt : Attempt) : Prop where
  plays : game.spot = .problem attempt.problem
  arises : attempt.Arises

section

variable [DepthLimit] {game : Game} {attempt : Attempt}

/-- No attempt is both right and given up. -/
theorem Attempt.Arises.single (arises : attempt.Arises) : (attempt.correct && attempt.passed) = false := by
  cases arises with
  | answer accepts => exact Bool.and_false _
  | reveal solves => rfl

theorem Attempt.Arises.storable (arises : attempt.Arises) : attempt.IsStorable := by
  cases arises with
  | answer accepts => exact real_isStorable id _
  | @reveal digits solution solves => exact real_isStorable (fun _ => target) solution

theorem Game.Takes.single (takes : game.Takes attempt) : (attempt.correct && attempt.passed) = false :=
  takes.arises.single

theorem Game.Takes.storable (takes : game.Takes attempt) : attempt.IsStorable :=
  takes.arises.storable

end

theorem Session.IsStocked.change {session : Session} {write : Store → Store} (stocked : session.IsStocked)
    (keyed : (write session.store).IsKeyed)
    (same : (write session.store).get? poolKey = session.store.get? poolKey) (rules : Rules) :
    (session.change write).IsStocked ∧ (session.change write).problems rules = session.problems rules := by
  refine ⟨⟨keyed, ?_⟩, ?_⟩
  · intro entry found
    exact stocked.lasting entry (same.symm.trans found)
  · unfold Session.problems Session.change
    rw [Store.problems_congr same]

/-- What a step may do to a session, with the result that tells of it. -/
inductive Turn [DepthLimit] (rules : Rules) (step : Step) (before : Session) : Except GameFault Outcome → Session → Prop
  | fails {fault after} : before.Ages rules step.moment.now after → Turn rules step before (.error fault) after
  | finds {game after} : before.Ages rules step.moment.now after → step.found before = .ok game →
      Turn rules step before (.ok (.found game)) after
  | leaves {after} : before.Ages rules step.moment.now after → step.found before = .ok none →
      Turn rules step before (.ok (.cancelled false)) after
  | drops {game after} : before.Ages rules step.moment.now after → step.found before = .ok (some game) →
      Turn rules step before (.ok (.cancelled true)) (after.change (Store.erase game.seat.key))
  | starts {mode : Int} {problems after} : before.Ages rules step.moment.now after →
      step.found before = .ok none → mode ∈ rules.settings.modes → (problems.length : Int) = mode →
      mode ≤ (before.problems rules).length → step.moment.Draws (before.problems rules) problems →
      (Game.fresh step.seat mode problems step.moment.now).IsStorable →
      Turn rules step before (.ok (.started (.fresh step.seat mode problems step.moment.now)))
        (after.change (Store.saved rules step.moment.now (.fresh step.seat mode problems step.moment.now)))
  | records {game attempt after} : before.Ages rules step.moment.now after →
      step.found before = .ok (some game) → game.Takes attempt → (game.record attempt).CanSettle →
      Turn rules step before (.ok (.recorded attempt ((game.record attempt).settled step.moment.now)))
        (after.change (Store.settled rules step.moment.now (game.record attempt)))

/-- No turn writes to the pool. -/
theorem Turn.stocked [DepthLimit] {rules : Rules} {step : Step} {before after : Session}
    {outcome : Except GameFault Outcome} (turn : Turn rules step before outcome after) :
    after.IsStocked ∧ after.problems rules = before.problems rules := by
  have changes {between : Session} (ages : before.Ages rules step.moment.now between) {write : Store → Store}
      (keyed : (write between.store).IsKeyed)
      (same : (write between.store).get? poolKey = between.store.get? poolKey) :
      (between.change write).IsStocked ∧ (between.change write).problems rules = before.problems rules := by
    obtain ⟨stocked, problems⟩ := ages.stocked.change keyed same rules
    exact ⟨stocked, problems.trans ages.problems⟩
  cases turn with
  | fails ages => exact ⟨ages.stocked, ages.problems⟩
  | finds ages _ => exact ⟨ages.stocked, ages.problems⟩
  | leaves ages _ => exact ⟨ages.stocked, ages.problems⟩
  | @drops game between ages _ =>
      refine changes ages (ages.stocked.keyed.erase _) ?_
      rw [Store.get?_erase, if_neg game.seat.key_ne_poolKey.symm]
  | @starts mode problems between ages =>
      refine changes ages (ages.stocked.keyed.saved _ _ _) ?_
      rw [Store.get?_saved, if_neg (Seat.key_ne_poolKey _).symm]
  | @records game attempt between ages =>
      exact changes ages (ages.stocked.keyed.settled _ _ _)
        (Store.get?_settled _ _ _ _ (Seat.key_ne_poolKey _).symm (boardKey_ne_poolKey _).symm)

/-- A game that is found stands in the store, and its time is not over. -/
theorem entry_of_found {step : Step} {before : Session} {game : Game} (stocked : before.IsStocked)
    (found : step.found before = .ok (some game)) :
    ∃ text expires, before.store.get? step.seat.key = some ⟨.text text, expires⟩ ∧ Game.ofText text = .ok game ∧
      ∀ deadline ∈ expires, ¬deadline ≤ step.moment.now := by
  obtain ⟨text, expires, stored, reads⟩ := stored_of_gameAt found
  rw [Store.get?_live stocked.keyed, Option.filter_eq_some_iff] at stored
  refine ⟨text, expires, stored.1, reads, ?_⟩
  rintro deadline ⟨⟩
  simpa [Entry.isLive] using stored.2

/-- What fits in a store still fits after a turn, if it fits the pool, the games that start and go on, and the
boards that they are credited on. -/
theorem Turn.every [DepthLimit] {rules : Rules} {step : Step} {before after : Session}
    {outcome : Except GameFault Outcome} {fits : String → Entry → Prop}
    (turn : Turn rules step before outcome after) (every : before.store.Every fits)
    (pool : ∀ texts, fits poolKey ⟨.members texts, none⟩)
    (starts : ∀ mode problems, mode ∈ rules.settings.modes → (problems.length : Int) = mode →
      mode ≤ (before.problems rules).length → step.moment.Draws (before.problems rules) problems →
      (Game.fresh step.seat mode problems step.moment.now).IsStorable → 0 < rules.settings.lifetime →
      fits step.seat.key (rules.entryOf (.fresh step.seat mode problems step.moment.now) step.moment.now))
    (moves : ∀ game attempt, step.found before = .ok (some game) → game.Takes attempt →
      (game.record attempt).CanSettle → (game.record attempt).isFinished = false → 0 < rules.settings.lifetime →
      fits game.seat.key (rules.entryOf (game.record attempt) step.moment.now))
    (credits : ∀ game attempt, step.found before = .ok (some game) → game.Takes attempt →
      ∀ store : Store, store.Every fits → (store.credited (game.record attempt)).Every fits) :
    after.store.Every fits := by
  have aged {between : Session} (ages : before.Ages rules step.moment.now between) : between.store.Every fits :=
    ages.every every pool
  cases turn with
  | fails ages => exact aged ages
  | finds ages _ => exact aged ages
  | leaves ages _ => exact aged ages
  | drops ages _ => exact (aged ages).erase _
  | @starts mode problems between ages found offered length enough drawn short =>
      exact (aged ages).saved (starts mode problems offered length enough drawn short)
  | @records game attempt between ages found takes settles =>
      unfold Session.change Store.settled
      dsimp only
      split
      · exact credits game attempt found takes _ ((aged ages).erase _)
      · next unfinished =>
          exact (aged ages).saved (moves game attempt found takes settles (by simpa using unfinished))

section

variable {rules : Rules} {moment : Moment} {seat : Seat} {session : Session}

theorem activeGame_cases (rules : Rules) (seat : Seat) (moment : Moment) (stocked : session.IsStocked) :
    session.Ages rules moment.now (session.purged moment) ∧
      ((∃ fault, activeGame seat moment session = (.error fault, session.purged moment)) ∨
        ∃ game, activeGame seat moment session = (.ok game, session.purged moment) ∧
          moment.outage = none ∧ (session.store.live moment.now).gameAt seat.key = .ok game) := by
  refine ⟨stocked.purged rules moment, ?_⟩
  cases outage : moment.outage with
  | some reason =>
      have same : session.purged moment = session := by simp [Session.purged, outage]
      rw [same]
      exact .inl ⟨_, activeGame_unreachable seat session outage⟩
  | none =>
      have looks := activeGame_eq outage session seat
      cases found : (session.store.live moment.now).gameAt seat.key with
      | error fault =>
          rw [found] at looks
          exact .inl ⟨_, looks⟩
      | ok game =>
          rw [found] at looks
          exact .inr ⟨game, looks, rfl, rfl⟩

theorem look_turn [DepthLimit] (rules : Rules) (seat : Seat) (moment : Moment) (stocked : session.IsStocked) :
    Turn rules ⟨moment, seat, .look⟩ session (Step.run rules ⟨moment, seat, .look⟩ session).1
      (Step.run rules ⟨moment, seat, .look⟩ session).2 := by
  unfold Step.run Play.perform
  dsimp only
  obtain ⟨ages, ⟨fault, fails⟩ | ⟨game, finds, _, found⟩⟩ := activeGame_cases rules seat moment stocked
  · rw [bind_of_error fails]
    exact .fails ages
  · rw [bind_of_ok finds]
    exact .finds ages found

theorem cancel_turn [DepthLimit] (rules : Rules) (seat : Seat) (moment : Moment) (stocked : session.IsStocked) :
    Turn rules ⟨moment, seat, .cancel⟩ session (Step.run rules ⟨moment, seat, .cancel⟩ session).1
      (Step.run rules ⟨moment, seat, .cancel⟩ session).2 := by
  unfold Step.run Play.perform
  dsimp only
  obtain ⟨ages, ⟨fault, fails⟩ | ⟨game, finds, reachable, found⟩⟩ := activeGame_cases rules seat moment stocked
  · have cancels : cancelGame seat moment session = (.error fault, session.purged moment) := bind_of_error fails
    rw [bind_of_error cancels]
    exact .fails ages
  · cases game with
    | none =>
        have cancels : cancelGame seat moment session = (.ok false, session.purged moment) := bind_of_ok finds
        rw [bind_of_ok cancels]
        exact .leaves ages found
    | some game =>
        have cancels : cancelGame seat moment session =
            (.ok true, (session.purged moment).change (Store.erase game.seat.key)) := by
          unfold cancelGame
          rw [bind_of_ok finds]
          dsimp only
          rw [deleteGame, bind_of_ok (write_eq reachable _ _), purged_eq reachable, Store.live_live]
          rfl
        rw [bind_of_ok cancels]
        exact .drops ages found

theorem fresh_isStorable {seat : Seat} {mode : Int} (problems : List String) (now : Float) (short : IsShort mode) :
    (Game.fresh seat mode problems now).IsStorable where
  mode := short
  current := isShort_zero
  correctCount := isShort_zero
  startTime := trivial
  endTime := by simp [Game.fresh]
  history := by simp [Game.fresh]

theorem createGame_drawn {later : Session} {mode : Option Int} {problems : List String}
    (finds : activeGame seat moment session = (.ok none, session.purged moment)) (reachable : moment.outage = none)
    (offered : mode.getD rules.settings.defaultMode ∈ rules.settings.modes)
    (drawn : drawProblems rules (mode.getD rules.settings.defaultMode) moment (session.purged moment) =
      (.ok problems, later))
    (storable : (Game.fresh seat (mode.getD rules.settings.defaultMode) problems moment.now).IsStorable) :
    createGame rules seat mode moment session =
      (.ok (.fresh seat (mode.getD rules.settings.defaultMode) problems moment.now),
        (later.change (Store.live moment.now)).change (Store.saved rules moment.now
          (.fresh seat (mode.getD rules.settings.defaultMode) problems moment.now))) := by
  unfold createGame
  dsimp only
  rw [if_neg (by simpa using offered), bind_of_ok finds]
  simp only [Option.isSome_none, Bool.false_eq_true, if_false]
  rw [bind_of_ok drawn, bind_of_ok (show Action.moment moment later = (.ok moment, later) from rfl),
    bind_of_ok (saveGame_eq reachable later rules storable)]
  rfl

theorem createGame_unsaved {later : Session} {mode : Option Int} {problems : List String}
    (finds : activeGame seat moment session = (.ok none, session.purged moment))
    (offered : mode.getD rules.settings.defaultMode ∈ rules.settings.modes)
    (drawn : drawProblems rules (mode.getD rules.settings.defaultMode) moment (session.purged moment) =
      (.ok problems, later))
    (unstorable : ¬(Game.fresh seat (mode.getD rules.settings.defaultMode) problems moment.now).IsStorable) :
    createGame rules seat mode moment session = (.error (.stored .tooLong), later) := by
  unfold createGame
  dsimp only
  rw [if_neg (by simpa using offered), bind_of_ok finds]
  simp only [Option.isSome_none, Bool.false_eq_true, if_false]
  rw [bind_of_ok drawn, bind_of_ok (show Action.moment moment later = (.ok moment, later) from rfl),
    bind_of_error (saveGame_unstorable rules moment later unstorable)]

theorem createGame_undrawn {later : Session} {mode : Option Int} {fault : GameFault}
    (finds : activeGame seat moment session = (.ok none, session.purged moment))
    (offered : mode.getD rules.settings.defaultMode ∈ rules.settings.modes)
    (refused : drawProblems rules (mode.getD rules.settings.defaultMode) moment (session.purged moment) =
      (.error fault, later)) :
    createGame rules seat mode moment session = (.error fault, later) := by
  unfold createGame
  dsimp only
  rw [if_neg (by simpa using offered), bind_of_ok finds]
  simp only [Option.isSome_none, Bool.false_eq_true, if_false]
  exact bind_of_error refused

theorem createGame_unoffered {mode : Option Int}
    (unoffered : mode.getD rules.settings.defaultMode ∉ rules.settings.modes) :
    createGame rules seat mode moment session = (.error (.modeNotOffered rules.settings.modes), session) := by
  unfold createGame
  dsimp only
  rw [if_pos (by simpa using unoffered)]
  rfl

/-- A game that cannot be read, or is still played, keeps another from starting. -/
theorem createGame_occupied {mode : Option Int} {found : Except GameFault (Option Game)}
    (offered : mode.getD rules.settings.defaultMode ∈ rules.settings.modes)
    (finds : activeGame seat moment session = (found, session.purged moment)) (occupied : found ≠ .ok none) :
    ∃ fault, createGame rules seat mode moment session = (.error fault, session.purged moment) := by
  unfold createGame
  dsimp only
  rw [if_neg (by simpa using offered)]
  cases found with
  | error fault => exact ⟨fault, bind_of_error finds⟩
  | ok game =>
      rw [bind_of_ok finds]
      cases game with
      | none => exact (occupied rfl).elim
      | some game => exact ⟨_, rfl⟩

/-- A wish to start a game fails before a look at the store, after it, or after a draw; else the game is saved. -/
theorem createGame_cases (rules : Rules) (seat : Seat) (mode : Option Int) (moment : Moment)
    (stocked : session.IsStocked) :
    let count := mode.getD rules.settings.defaultMode
    let supplied := (session.purged moment).supplied rules moment.now
    (∃ fault later, createGame rules seat mode moment session = (.error fault, later) ∧
      (later = session ∨ later = session.purged moment ∨ moment.outage = none ∧ later = supplied)) ∨
    ∃ problems, activeGame seat moment session = (.ok none, session.purged moment) ∧ moment.outage = none ∧
      count ∈ rules.settings.modes ∧ (problems.length : Int) = count ∧ count ≤ (session.problems rules).length ∧
      moment.Draws (session.problems rules) problems ∧ (Game.fresh seat count problems moment.now).IsStorable ∧
      createGame rules seat mode moment session = (.ok (.fresh seat count problems moment.now),
        (supplied.change (Store.live moment.now)).change
          (Store.saved rules moment.now (.fresh seat count problems moment.now))) := by
  intro count supplied
  by_cases offered : count ∈ rules.settings.modes
  case neg => exact .inl ⟨_, _, createGame_unoffered offered, .inl rfl⟩
  have looks := activeGame_session seat moment session
  cases finds : activeGame seat moment session with
  | mk found between =>
      rw [finds] at looks
      dsimp only at looks
      subst looks
      by_cases free : found = .ok none
      case neg =>
        obtain ⟨fault, occupied⟩ := createGame_occupied offered finds free
        exact .inl ⟨_, _, occupied, .inr (.inl rfl)⟩
      subst free
      have reachable := reachable_of_activeGame finds
      have ages := stocked.purged rules moment
      rcases @drawProblems_cases rules moment _ count reachable ages.stocked with
        ⟨fault, refused⟩ | ⟨problems, drawn, length, enough, draws⟩
      · exact .inl ⟨_, _, createGame_undrawn finds offered refused, .inr (.inr ⟨reachable, rfl⟩)⟩
      · rw [ages.problems] at enough draws
        by_cases storable : (Game.fresh seat count problems moment.now).IsStorable
        · exact .inr ⟨problems, rfl, reachable, offered, length, enough, draws, storable,
            createGame_drawn finds reachable offered drawn storable⟩
        · exact .inl ⟨_, _, createGame_unsaved finds offered drawn storable, .inr (.inr ⟨reachable, rfl⟩)⟩

theorem create_turn [DepthLimit] (rules : Rules) (seat : Seat) (moment : Moment) (stocked : session.IsStocked)
    (mode : Option Int) :
    Turn rules ⟨moment, seat, .create mode⟩ session (Step.run rules ⟨moment, seat, .create mode⟩ session).1
      (Step.run rules ⟨moment, seat, .create mode⟩ session).2 := by
  unfold Step.run Play.perform
  dsimp only
  have ages := stocked.purged rules moment
  have supplies := ages.trans (ages.stocked.supplied rules moment.now).2
  rcases createGame_cases rules seat mode moment stocked with
    ⟨fault, later, fails, kept⟩ |
      ⟨problems, finds, reachable, offered, length, enough, draws, storable, starts⟩
  · rw [bind_of_error fails]
    rcases kept with rfl | rfl | ⟨_, rfl⟩
    · exact .fails stocked.ages
    · exact .fails ages
    · exact .fails supplies
  · rw [bind_of_ok starts]
    exact .starts (supplies.trans supplies.stocked.live) (gameAt_of_activeGame finds) offered length enough draws
      storable

theorem answer_turn [DepthLimit] (rules : Rules) (seat : Seat) (moment : Moment) (stocked : session.IsStocked)
    (expression : List Char) :
    Turn rules ⟨moment, seat, .answer expression⟩ session
      (Step.run rules ⟨moment, seat, .answer expression⟩ session).1
      (Step.run rules ⟨moment, seat, .answer expression⟩ session).2 := by
  unfold Step.run Play.perform
  dsimp only
  have ages := (activeGame_cases rules seat moment stocked).1
  rcases submitAnswer_cases rules seat expression moment session with
    ⟨fault, fails⟩ | ⟨game, digits, result, finds, plays, accepts, settles⟩
  · rw [bind_of_error fails]
    exact .fails ages
  · rw [bind_of_ok (submitAnswer_recorded finds plays accepts settles)]
    exact .records ages (gameAt_of_requireGame finds) ⟨plays, .answer accepts⟩ settles

theorem revealFor_cases [DepthLimit] (game : Game) (moment : Moment) (session : Session) :
    (∃ fault, revealFor game moment session = (.error fault, session)) ∨
      ∃ digits solution, revealFor game moment session = (.ok (digits, solution), session) ∧
        game.spot = .problem digits ∧ solution? digits = .ok solution := by
  unfold revealFor
  cases plays : game.spot with
  | outOfRange => exact .inl ⟨_, rfl⟩
  | finished => exact .inl ⟨_, rfl⟩
  | problem digits =>
      dsimp only
      cases solves : solution? digits with
      | error fault => exact .inl ⟨.unsolvable fault, bind_of_error rfl⟩
      | ok solution => exact .inr ⟨digits, solution, bind_of_ok rfl, rfl, solves⟩

theorem passProblem_settles [DepthLimit] {game : Game} {digits : String} {solution : Option String}
    (finds : requireGame seat moment session = (.ok game, session.purged moment))
    (reveals : revealFor game moment (session.purged moment) = (.ok (digits, solution), session.purged moment)) :
    let attempt := Attempt.revealing digits solution
    passProblem rules seat moment session =
      (do return (attempt, ← storeOrFinish rules (game.record attempt))) moment (session.purged moment) :=
  (bind_of_ok finds).trans ((bind_of_ok reveals).trans rfl)

theorem passProblem_recorded [DepthLimit] {game : Game} {digits : String} {solution : Option String}
    (finds : requireGame seat moment session = (.ok game, session.purged moment))
    (reveals : revealFor game moment (session.purged moment) = (.ok (digits, solution), session.purged moment))
    (settles : (game.record (.revealing digits solution)).CanSettle) :
    let attempt := Attempt.revealing digits solution
    passProblem rules seat moment session =
      (.ok (attempt, (game.record attempt).settled moment.now),
        (session.purged moment).change (Store.settled rules moment.now (game.record attempt))) := by
  intro attempt
  apply (passProblem_settles finds reveals).trans
  exact bind_of_ok (storeOrFinish_purged (reachable_of_requireGame finds) session rules settles)

/-- A pass either gives the problem in play up or leaves the game as it was. -/
theorem passProblem_cases [DepthLimit] (rules : Rules) (seat : Seat) (moment : Moment) (session : Session) :
    (∃ fault, passProblem rules seat moment session = (.error fault, session.purged moment)) ∨
      ∃ game digits solution, requireGame seat moment session = (.ok game, session.purged moment) ∧
        game.spot = .problem digits ∧ solution? digits = .ok solution ∧
        revealFor game moment (session.purged moment) = (.ok (digits, solution), session.purged moment) ∧
        (game.record (.revealing digits solution)).CanSettle := by
  have leaves := requireGame_session seat moment session
  cases finds : requireGame seat moment session with
  | mk found later =>
      rw [finds] at leaves
      simp only at leaves
      subst leaves
      cases found with
      | error fault => exact .inl ⟨fault, bind_of_error finds⟩
      | ok game =>
          rcases revealFor_cases game moment (session.purged moment) with
            ⟨fault, fails⟩ | ⟨digits, solution, reveals, plays, solves⟩
          · exact .inl ⟨fault, (bind_of_ok finds).trans (bind_of_error fails)⟩
          · by_cases settles : (game.record (.revealing digits solution)).CanSettle
            · exact .inr ⟨game, digits, solution, rfl, plays, solves, reveals, settles⟩
            · refine .inl ⟨.stored .tooLong, (passProblem_settles finds reveals).trans ?_⟩
              exact bind_of_error (storeOrFinish_unsettled rules moment _ settles)

theorem pass_turn [DepthLimit] (rules : Rules) (seat : Seat) (moment : Moment) (stocked : session.IsStocked) :
    Turn rules ⟨moment, seat, .pass⟩ session (Step.run rules ⟨moment, seat, .pass⟩ session).1
      (Step.run rules ⟨moment, seat, .pass⟩ session).2 := by
  unfold Step.run Play.perform
  dsimp only
  have ages := (activeGame_cases rules seat moment stocked).1
  rcases passProblem_cases rules seat moment session with
    ⟨fault, fails⟩ | ⟨game, digits, solution, finds, plays, solves, reveals, settles⟩
  · rw [bind_of_error fails]
    exact .fails ages
  · rw [bind_of_ok (passProblem_recorded finds reveals settles)]
    exact .records ages (gameAt_of_requireGame finds) ⟨plays, .reveal solves⟩ settles

end

theorem Step.turn [DepthLimit] (rules : Rules) (step : Step) {session : Session} (stocked : session.IsStocked) :
    Turn rules step session (step.run rules session).1 (step.run rules session).2 := by
  obtain ⟨moment, seat, play⟩ := step
  cases play with
  | create mode => exact create_turn rules seat moment stocked mode
  | answer expression => exact answer_turn rules seat moment stocked expression
  | pass => exact pass_turn rules seat moment stocked
  | look => exact look_turn rules seat moment stocked
  | cancel => exact cancel_turn rules seat moment stocked

/-- With a mode on offer and a pool that is large enough, a game starts unless one is played already. -/
theorem create_starts_iff [DepthLimit] {rules : Rules} {seat : Seat} {moment : Moment} {session : Session}
    {mode : Option Int} {found : Option Game} (stocked : session.IsStocked) (reachable : moment.outage = none)
    (offered : mode.getD rules.settings.defaultMode ∈ rules.settings.modes)
    (nonneg : 0 ≤ mode.getD rules.settings.defaultMode)
    (enough : mode.getD rules.settings.defaultMode ≤ (session.problems rules).length)
    (short : IsShort (mode.getD rules.settings.defaultMode))
    (samples : moment.Samples (session.problems rules).length)
    (finds : (session.store.live moment.now).gameAt seat.key = .ok found) :
    (∃ game later, Step.run rules ⟨moment, seat, .create mode⟩ session = (.ok (.started game), later)) ↔
      found = none := by
  have looks := activeGame_eq reachable session seat
  rw [finds] at looks
  unfold Step.run Play.perform
  dsimp only
  cases found with
  | some game =>
      obtain ⟨fault, occupied⟩ := createGame_occupied offered looks (by simp [Except.mapError])
      rw [bind_of_error occupied]
      simp
  | none =>
      have ages : session.Ages rules moment.now (session.purged moment) := by
        rw [purged_eq reachable]
        exact stocked.live
      rw [← ages.problems] at enough samples
      obtain ⟨problems, later, drawn⟩ := drawProblems_samples reachable ages.stocked samples nonneg enough
      rw [bind_of_ok (createGame_drawn looks reachable offered drawn (fresh_isStorable problems moment.now short))]
      exact ⟨fun _ => rfl, fun _ => ⟨_, _, rfl⟩⟩

end TenPuzzle
