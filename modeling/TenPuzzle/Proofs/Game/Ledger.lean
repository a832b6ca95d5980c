import TenPuzzle.Proofs.Game.Standing
import TenPuzzle.Proofs.Number.Whole
import TenPuzzle.Proofs.Store.Ranking

/-!
The ledger of a server. A game that comes to its end is one that its seat started, played on and has not
ended before; and the board has the credits of these games, added up in their order, and nothing else.
-/

namespace TenPuzzle

/-- The game that an event brings to its end. -/
def Occurrence.ended? (event : Occurrence) : Option Game :=
  match event.outcome with
  | .ok (.recorded _ game) => if game.isFinished then some game else none
  | _ => none

def Game.credit? (server player : String) (game : Game) : Option Int :=
  if game.seat.server = server ∧ game.seat.player = player ∧ 0 < game.correctCount then some game.correctCount
  else none

/-- The correct answers of the games of a player that ended on a server, game by game. -/
def credits (server player : String) (events : List Occurrence) : List Int :=
  (events.filterMap Occurrence.ended?).filterMap (Game.credit? server player)

def tally (credits : List Int) : Float :=
  credits.foldl (fun total credit => total + Float.ofInt credit) 0.0

/-- A player without credits has no score, not even nothing. -/
def scoreOf (credits : List Int) : Option Float :=
  if credits.isEmpty then none else some (tally credits)

def score? (server player : String) (events : List Occurrence) : Option Float :=
  scoreOf (credits server player events)

theorem tally_concat (credits : List Int) (credit : Int) :
    tally (credits ++ [credit]) = tally credits + Float.ofInt credit :=
  List.foldl_concat _ _ _ _

theorem scoreOf_concat (credits : List Int) (credit : Int) :
    scoreOf (credits ++ [credit]) = some ((scoreOf credits).getD 0.0 + Float.ofInt credit) := by
  unfold scoreOf
  rw [if_neg (by simp), tally_concat]
  cases credits with
  | nil => rfl
  | cons first rest => rfl

theorem scoreOf_eq_some {credits : List Int} {score : Float} :
    scoreOf credits = some score ↔ credits ≠ [] ∧ score = tally credits := by
  unfold scoreOf
  cases credits with
  | nil => simp
  | cons first rest => simp [eq_comm]

section

variable {server player : String} {events : List Occurrence} {event : Occurrence} {game : Game}

theorem credits_concat (server player : String) (events : List Occurrence) (event : Occurrence) :
    credits server player (events ++ [event]) =
      credits server player events ++ (event.ended?.bind (Game.credit? server player)).toList := by
  unfold credits
  rw [List.filterMap_append, List.filterMap_append]
  cases ended : event.ended? with
  | none => simp [ended]
  | some game => cases credited : game.credit? server player <;> simp [ended, credited]

theorem score?_concat_other (unended : event.ended? = none) :
    score? server player (events ++ [event]) = score? server player events := by
  simp [score?, credits_concat, unended]

theorem score?_concat_ended (ended : event.ended? = some game) :
    score? server player (events ++ [event]) =
      match game.credit? server player with
      | none => score? server player events
      | some credit => some ((score? server player events).getD 0.0 + Float.ofInt credit) := by
  unfold score?
  rw [credits_concat, ended, Option.bind_some]
  cases game.credit? server player with
  | none => exact congrArg scoreOf (List.append_nil _)
  | some credit => exact scoreOf_concat _ credit

end

/-! Boards. -/

/-- The board of a server lasts and has one line for each player that has a score. -/
structure Store.HasBoard (server : String) (scores : String → Option Float) (store : Store) : Prop where
  lasting : ∀ entry, store.get? (boardKey server) = some entry → entry.expires = none
  distinct : ((store.boardOf (boardKey server)).map Prod.fst).Nodup
  lines : ∀ player, (store.boardOf (boardKey server)).lookup player = scores player

section

variable {server : String} {scores : String → Option Float} {store later : Store}

theorem boardOf_congr {key : String} (same : later.get? key = store.get? key) :
    later.boardOf key = store.boardOf key := by
  unfold Store.boardOf
  rw [same]

theorem Store.HasBoard.same (has : store.HasBoard server scores)
    (same : later.get? (boardKey server) = store.get? (boardKey server)) : later.HasBoard server scores := by
  have board := boardOf_congr same
  refine ⟨?_, ?_, ?_⟩
  · rw [same]
    exact has.lasting
  · rw [board]
    exact has.distinct
  · rw [board]
    exact has.lines

theorem Store.HasBoard.get?_live (has : store.HasBoard server scores) (keyed : store.IsKeyed) (now : Float) :
    (store.live now).get? (boardKey server) = store.get? (boardKey server) := by
  rw [Store.get?_live keyed]
  cases found : store.get? (boardKey server) with
  | none => rfl
  | some entry => simp [Entry.isLive, has.lasting entry found]

theorem Store.HasBoard.ages {rules : Rules} {now : Float} {before after : Session}
    (has : before.store.HasBoard server scores) (ages : before.Ages rules now after) :
    after.store.HasBoard server scores := by
  rcases ages.kept (boardKey server) (boardKey_ne_poolKey server) with same | ⟨⟨entry, found, isPast⟩, _⟩
  · exact has.same same
  · rw [Entry.isLive, has.lasting entry found] at isPast
    cases isPast

theorem Store.HasBoard.addScore (has : store.HasBoard server scores) (member : String) (amount : Float) :
    (store.addScore (boardKey server) member amount).HasBoard server fun player =>
      if player = member then some ((scores member).getD 0.0 + amount) else scores player := by
  have found : (store.addScore (boardKey server) member amount).get? (boardKey server) =
      some ⟨.scores (setScore member (creditOf member (store.boardOf (boardKey server)) + amount)
        (store.boardOf (boardKey server))), (store.get? (boardKey server)).bind Entry.expires⟩ := by
    rw [Store.addScore, get?_put, if_pos rfl]
  have board : (store.addScore (boardKey server) member amount).boardOf (boardKey server) =
      setScore member ((scores member).getD 0.0 + amount) (store.boardOf (boardKey server)) := by
    rw [Store.boardOf, found, creditOf, has.lines]
  refine ⟨?_, ?_, ?_⟩
  · intro entry isEntry
    rw [found, Option.some.injEq] at isEntry
    subst isEntry
    cases stored : store.get? (boardKey server) with
    | none => rfl
    | some old => exact has.lasting old stored
  · rw [board]
    exact nodup_replaced _ _ has.distinct
  · intro player
    rw [board, setScore, lookup_replaced, has.lines]

theorem Store.HasBoard.credited (has : store.HasBoard server scores) (game : Game) :
    (store.credited game).HasBoard server fun player =>
      match game.credit? server player with
      | none => scores player
      | some credit => some ((scores player).getD 0.0 + Float.ofInt credit) := by
  by_cases here : game.seat.server = server
  · unfold Store.credited
    split
    · next scored =>
        subst here
        have adds := has.addScore game.seat.player (Float.ofInt game.correctCount)
        refine ⟨adds.lasting, adds.distinct, ?_⟩
        intro player
        rw [adds.lines]
        by_cases isPlayer : player = game.seat.player
        · subst isPlayer
          simp [Game.credit?, scored]
        · simp [Game.credit?, isPlayer, Ne.symm isPlayer]
    · next scoreless =>
        refine ⟨has.lasting, has.distinct, ?_⟩
        intro player
        simp [has.lines, Game.credit?, scoreless]
  · have elsewhere : boardKey server ≠ boardKey game.seat.server := fun same => here (boardKey_inj.mp same).symm
    have kept := has.same (Store.get?_credited game store elsewhere)
    refine ⟨kept.lasting, kept.distinct, ?_⟩
    intro player
    simp [kept.lines, Game.credit?, here]

end

/-- The boards of a session have what the events of a run add up to. -/
def Session.Balances (events : List Occurrence) (session : Session) : Prop :=
  ∀ server, session.store.HasBoard server fun player => score? server player events

section

variable {rules : Rules} {events : List Occurrence} {step : Step} {before after : Session}
  {outcome : Except GameFault Outcome}

theorem Session.Balances.unended {event : Occurrence} (balances : after.Balances events)
    (unended : event.ended? = none) : after.Balances (events ++ [event]) := by
  intro server
  simp only [score?_concat_other unended]
  exact balances server

theorem Turn.balances [DepthLimit] (turn : Turn rules step before outcome after) (balances : before.Balances events) :
    after.Balances (events ++ [⟨step, outcome⟩]) := by
  have aged {between : Session} (ages : before.Ages rules step.moment.now between) : between.Balances events :=
    fun server => (balances server).ages ages
  cases turn with
  | fails ages => exact (aged ages).unended rfl
  | finds ages => exact (aged ages).unended rfl
  | leaves ages => exact (aged ages).unended rfl
  | @drops game between ages found =>
      apply Session.Balances.unended _ rfl
      intro server
      apply (aged ages server).same
      exact (Store.get?_erase _ _ _).trans (if_neg (game.seat.key_ne_boardKey server).symm)
  | @starts mode problems between ages found offered length enough drawn _ =>
      apply Session.Balances.unended _ rfl
      intro server
      apply (aged ages server).same
      exact (Store.get?_saved _ _ _ _ _).trans (if_neg (Seat.key_ne_boardKey _ server).symm)
  | @records game attempt between ages found takes _ =>
      unfold Session.change Store.settled Game.settled
      by_cases finished : (game.record attempt).isFinished
      · rw [if_pos finished, if_pos finished]
        intro server
        have ended : Occurrence.ended? ⟨step, .ok (.recorded attempt ((game.record attempt).ended step.moment.now))⟩ =
            some ((game.record attempt).ended step.moment.now) := if_pos finished
        simp only [score?_concat_ended ended]
        have cleared := (aged ages server).same
          ((Store.get?_erase (game.record attempt).seat.key _ _).trans
            (if_neg (Seat.key_ne_boardKey _ server).symm))
        exact cleared.credited (game.record attempt)
      · rw [if_neg finished, if_neg finished]
        have unended : Occurrence.ended? ⟨step, .ok (.recorded attempt (game.record attempt))⟩ = none :=
          if_neg finished
        apply Session.Balances.unended _ unended
        intro server
        apply (aged ages server).same
        exact (Store.get?_saved _ _ _ _ _).trans (if_neg (Seat.key_ne_boardKey _ server).symm)

end

/-! Games that end. -/

/-- The same game, and maybe further on. -/
structure Game.Continues (first game : Game) : Prop where
  seat : game.seat = first.seat
  mode : game.mode = first.mode
  problems : game.problems = first.problems
  startTime : game.startTime = first.startTime
  history : first.history <+: game.history

/-- An event that leaves a seat with another game than before, or with none. -/
def Occurrence.Replaces (seat : Seat) (event : Occurrence) : Prop :=
  event.step.seat = seat ∧ ((∃ game, event.outcome = .ok (.started game)) ∨ event.ended?.isSome = true ∨
    event.outcome = .ok (.cancelled true))

/-- A game that was started at a seat, then maybe played on, and that nothing has replaced there since. -/
def IsUnderway (seat : Seat) (events : List Occurrence) (game : Game) : Prop :=
  ∃ earlier start between first, events = earlier ++ start :: between ∧ start.step.seat = seat ∧
    start.outcome = .ok (.started first) ∧ first.Continues game ∧ ∀ event ∈ between, ¬event.Replaces seat

section

variable {first game later : Game} {seat : Seat} {events : List Occurrence} {event : Occurrence}

theorem Game.Continues.refl (game : Game) : game.Continues game :=
  ⟨rfl, rfl, rfl, rfl, List.prefix_refl _⟩

theorem Game.Continues.trans (begins : first.Continues game) (goes : game.Continues later) :
    first.Continues later where
  seat := goes.seat.trans begins.seat
  mode := goes.mode.trans begins.mode
  problems := goes.problems.trans begins.problems
  startTime := goes.startTime.trans begins.startTime
  history := begins.history.trans goes.history

theorem Game.continues_settled (game : Game) (attempt : Attempt) (now : Float) :
    game.Continues ((game.record attempt).settled now) := by
  unfold Game.settled
  split
  · exact ⟨rfl, rfl, rfl, rfl, List.prefix_append _ _⟩
  · exact ⟨rfl, rfl, rfl, rfl, List.prefix_append _ _⟩

theorem IsUnderway.continues (underway : IsUnderway seat events game) (goes : game.Continues later) :
    IsUnderway seat events later := by
  obtain ⟨earlier, start, between, first, split, isSeat, starts, begins, kept⟩ := underway
  exact ⟨earlier, start, between, first, split, isSeat, starts, begins.trans goes, kept⟩

theorem IsUnderway.concat (underway : IsUnderway seat events game) (keeps : ¬event.Replaces seat) :
    IsUnderway seat (events ++ [event]) game := by
  obtain ⟨earlier, start, between, first, rfl, isSeat, starts, begins, kept⟩ := underway
  refine ⟨earlier, start, between ++ [event], first, by simp, isSeat, starts, begins, ?_⟩
  intro other member
  rcases List.mem_append.mp member with isBetween | isLast
  · exact kept other isBetween
  · rw [List.mem_singleton.mp isLast]
    exact keeps

end

section

variable [DepthLimit]
variable {rules : Rules} {pool : List String} {fair : List String → Prop} {events : List Occurrence} {step : Step}
  {before after : Session} {outcome : Except GameFault Outcome}

theorem Turn.ends (turn : Turn rules step before outcome after) (stocked : before.IsStocked)
    (told : before.Shows rules pool fair events) (plain : step.seat.IsPlain) (short : pool.length ≤ listLimit)
    (underway : ∀ seat game saved, standing seat events = some (game, saved) → IsUnderway seat events game)
    {game : Game} (ended : Occurrence.ended? ⟨step, outcome⟩ = some game) :
    game.seat = step.seat ∧ IsUnderway step.seat events game := by
  cases turn with
  | fails => cases ended
  | finds => cases ended
  | leaves => cases ended
  | drops => cases ended
  | starts => cases ended
  | @records played attempt between ages found takes _ =>
      obtain ⟨⟨saved, stands⟩, isSeat, _⟩ := told.found stocked short plain found
      have goes := played.continues_settled attempt step.moment.now
      unfold Occurrence.ended? at ended
      dsimp only at ended
      split at ended
      · cases ended
        exact ⟨goes.seat.trans isSeat, (underway step.seat played saved stands).continues goes⟩
      · cases ended

theorem Turn.underway (turn : Turn rules step before outcome after) (stocked : before.IsStocked)
    (told : before.Shows rules pool fair events) (plain : step.seat.IsPlain) (short : pool.length ≤ listLimit)
    (underway : ∀ seat game saved, standing seat events = some (game, saved) → IsUnderway seat events game)
    {seat : Seat} {game : Game} {saved : Float}
    (stands : standing seat (events ++ [⟨step, outcome⟩]) = some (game, saved)) :
    IsUnderway seat (events ++ [⟨step, outcome⟩]) game := by
  rw [standing_concat] at stands
  by_cases here : step.seat = seat
  · cases turn with
    | fails =>
        rw [leaves_error] at stands
        exact (underway seat game saved stands).concat (by simp [Occurrence.Replaces, Occurrence.ended?])
    | finds =>
        rw [leaves_found] at stands
        exact (underway seat game saved stands).concat (by simp [Occurrence.Replaces, Occurrence.ended?])
    | leaves =>
        rw [leaves_uncancelled] at stands
        exact (underway seat game saved stands).concat (by simp [Occurrence.Replaces, Occurrence.ended?])
    | drops =>
        rw [leaves_cancelled here] at stands
        cases stands
    | starts =>
        rw [leaves_started here] at stands
        cases stands
        exact ⟨events, _, [], _, rfl, here, rfl, Game.Continues.refl _, by simp⟩
    | @records played attempt between ages found takes _ =>
        obtain ⟨⟨_, stood⟩, _⟩ := told.found stocked short plain found
        rw [leaves_recorded here] at stands
        split at stands
        · cases stands
        · next unfinished =>
            cases stands
            rw [here] at stood
            have goes := played.continues_settled attempt step.moment.now
            apply ((underway seat played _ stood).continues goes).concat
            simp [Occurrence.Replaces, Occurrence.ended?, unfinished]
  · rw [leaves_elsewhere here] at stands
    exact (underway seat game saved stands).concat fun replaces => here replaces.1

end

/-- A run in order: boards balance, standing games are underway, and so was every game that an event ended. -/
structure Run.IsBalanced (run : Run) : Prop where
  balances : run.session.Balances run.events
  underway : ∀ seat game saved, standing seat run.events = some (game, saved) → IsUnderway seat run.events game
  ends : ∀ earlier event later game, run.events = earlier ++ event :: later → event.ended? = some game →
    game.seat = event.step.seat ∧ IsUnderway event.step.seat earlier game

section

variable {rules : Rules} {pool : List String} {fair : List String → Prop} {run : Run} {step : Step}

theorem Run.IsBalanced.extend [DepthLimit] (balanced : run.IsBalanced) (stocked : run.session.IsStocked)
    (told : run.session.Shows rules pool fair run.events) (plain : step.seat.IsPlain)
    (short : pool.length ≤ listLimit) : (run.extend rules step).IsBalanced := by
  have turn := step.turn rules stocked
  refine ⟨turn.balances balanced.balances, ?_, ?_⟩
  · intro seat game saved stands
    exact turn.underway stocked told plain short balanced.underway stands
  · intro earlier event later game split ended
    rcases split_concat split with ⟨rfl, rfl⟩ | ⟨between, before⟩
    · exact turn.ends stocked told plain short balanced.underway ended
    · exact balanced.ends earlier event between game before ended

end

theorem opening_isBalanced (stored kept : List String) (asked : Nat) :
    Run.IsBalanced ⟨[], Session.opening stored kept asked⟩ := by
  refine ⟨?_, ?_, ?_⟩
  · intro server
    have missing := @get?_opening stored kept asked _ (boardKey_ne_poolKey server)
    have board : (Session.opening stored kept asked).store.boardOf (boardKey server) = [] := by
      rw [Store.boardOf, missing]
    refine ⟨?_, ?_, ?_⟩
    · intro entry found
      rw [missing] at found
      cases found
    · rw [board]
      exact List.nodup_nil
    · intro player
      rw [board]
      rfl
  · intro seat game saved stands
    cases stands
  · intro earlier event later game split
    simp at split

end TenPuzzle
