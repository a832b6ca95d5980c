import TenPuzzle.Proofs.Game.Clock
import TenPuzzle.Proofs.Game.Leaderboard
import TenPuzzle.Proofs.Settings.Loading
import TenPuzzle.Proofs.Sweep.Size

/-!
Healthy sessions. Every text in the store is a game in play whose time is in order, and every score is a number;
so nothing that a session keeps can bring a command to a halt.
-/

namespace TenPuzzle

/-! Pools. -/

/-- Four-digit problems, and no more than a list can have. -/
structure IsPool (pool : List String) : Prop where
  problems : ∀ problem ∈ pool, IsProblem problem
  short : pool.length ≤ listLimit

/-- A bot that starts finds its pool in the store, or sweeps for one. -/
theorem opening_isPool (rules : Rules) {stored : List String} (problems : ∀ problem ∈ stored, IsProblem problem) :
    IsPool ((Session.opening stored [] 0).problems rules) := by
  have most : problemCount ≤ listLimit := by decide
  rw [problems_of_isEmpty rfl]
  split
  · obtain ⟨areProblems, fewer⟩ := solvableProblems_arePool rules.solvable
    exact ⟨areProblems, fewer.trans most⟩
  · rw [opening_problems]
    have areProblems : ∀ problem ∈ Text.sortedDistinct stored, IsProblem problem :=
      fun problem member => problems problem (Text.mem_sortedDistinct.mp member)
    exact ⟨areProblems, (problems_length_le (Text.sortedDistinct_nodup stored) areProblems).trans most⟩

/-! Games. -/

/-- Rules under which a game always has a problem, and with lifetimes that doubles can count. -/
structure Rules.ArePlayable (rules : Rules) : Prop where
  settings : rules.settings.IsPlayable
  lifetime : rules.settings.lifetime < 2 ^ 53

/-- Problems that can be shown to a player, and solved for one who gives up. -/
def AreProblems (problems : List String) : Prop :=
  ∀ problem ∈ problems, IsProblem problem

/-- A running game whose time is in order at this moment. -/
structure Game.IsPlayed (rules : Rules) (pool : List String) (now : Float) (game : Game) : Prop
    extends game.IsRunning rules pool AreProblems where
  timely : game.IsTimely now

section

variable {rules : Rules} {pool : List String} {now saved : Float} {game : Game}

theorem fresh_isPlayed (seat : Seat) (playable : rules.ArePlayable) (isPool : IsPool pool) {moment : Moment}
    {mode : Int} {problems : List String} (finite : moment.now.isFinite = true)
    (offered : mode ∈ rules.settings.modes) (length : (problems.length : Int) = mode)
    (enough : mode ≤ pool.length) (draws : moment.Draws pool problems) :
    (Game.fresh seat mode problems moment.now).IsPlayed rules pool moment.now where
  toIsRunning :=
    fresh_isRunning moment.now (fun problem member => isPool.problems problem (draws.subset problem member)) length
      offered (playable.settings.modes mode offered) enough
  timely := isTimely_refl finite

theorem Game.IsPlayed.next (played : game.IsPlayed rules pool saved) (playable : rules.ArePlayable)
    (positive : 1 ≤ rules.settings.lifetime) (finite : now.isFinite = true) (lives : ¬rules.deadline saved ≤ now) :
    game.IsPlayed rules pool now :=
  ⟨played.toIsRunning, IsTimely.next played.timely finite positive playable.lifetime lives⟩

end

/-! Sessions. -/

/-- What may stand at a key. -/
inductive Rules.Admits (rules : Rules) (pool : List String) (key : String) : Entry → Prop
  | game {game : Game} {text : String} {saved : Float} : Game.ofText text = .ok game → key = game.seat.key →
      1 ≤ rules.settings.lifetime → game.IsPlayed rules pool saved →
      Admits rules pool key ⟨.text text, some (rules.deadline saved)⟩
  | scores {board : List (String × Float)} {expires : Option Float} : (∀ line ∈ board, IsScore line.2) →
      Admits rules pool key ⟨.scores board, expires⟩
  | members {set : TextSet} {expires : Option Float} : Admits rules pool key ⟨.members set, expires⟩

structure Session.IsHealthy (rules : Rules) (pool : List String) (session : Session) : Prop where
  stocked : session.IsStocked
  pooled : session.problems rules = pool
  admits : session.store.Every (rules.Admits pool)

section

variable {rules : Rules} {pool : List String} {now : Float} {session later : Session} {store : Store} {game : Game}

theorem opening_isHealthy (rules : Rules) (stored kept : List String) (asked : Nat) :
    (Session.opening stored kept asked).IsHealthy rules ((Session.opening stored kept asked).problems rules) :=
  ⟨opening_isStocked stored kept asked, rfl, opening_every (fun _ => .members) stored kept asked⟩

theorem Session.IsHealthy.ages (healthy : session.IsHealthy rules pool) (ages : session.Ages rules now later) :
    later.IsHealthy rules pool :=
  ⟨ages.stocked, ages.problems.trans healthy.pooled, ages.every healthy.admits fun _ => .members⟩

theorem Session.IsHealthy.purged (healthy : session.IsHealthy rules pool) (moment : Moment) :
    (session.purged moment).IsHealthy rules pool :=
  healthy.ages (healthy.stocked.purged rules moment)

theorem Session.IsHealthy.live (healthy : session.IsHealthy rules pool) (now : Float) :
    (session.change (Store.live now)).IsHealthy rules pool :=
  healthy.ages (@Session.IsStocked.live rules now _ healthy.stocked)

theorem Session.IsHealthy.change (healthy : session.IsHealthy rules pool) {write : Store → Store}
    (keyed : (write session.store).IsKeyed)
    (same : (write session.store).get? poolKey = session.store.get? poolKey)
    (admits : (write session.store).Every (rules.Admits pool)) : (session.change write).IsHealthy rules pool := by
  obtain ⟨stocked, problems⟩ := healthy.stocked.change keyed same rules
  exact ⟨stocked, problems.trans healthy.pooled, admits⟩

theorem Session.IsHealthy.erased (healthy : session.IsHealthy rules pool) (seat : Seat) :
    (session.change (Store.erase seat.key)).IsHealthy rules pool := by
  refine healthy.change (healthy.stocked.keyed.erase _) ?_ (healthy.admits.erase _)
  rw [Store.get?_erase, if_neg seat.key_ne_poolKey.symm]

theorem Session.IsHealthy.saved (healthy : session.IsHealthy rules pool) (isPool : IsPool pool)
    (played : game.IsPlayed rules pool now) : (session.change (Store.saved rules now game)).IsHealthy rules pool := by
  refine healthy.change (healthy.stocked.keyed.saved rules now game) ?_ (healthy.admits.saved ?_)
  · rw [Store.get?_saved, if_neg game.seat.key_ne_poolKey.symm]
  · intro positive
    exact .game (Game.ofText_text (played.isStorable isPool.short)) rfl (by omega) played

theorem areScores_boardOf (admits : store.Every (rules.Admits pool)) (key : String) :
    ∀ line ∈ store.boardOf key, IsScore line.2 := by
  refine admits.boardOf ?_
  rintro board expires (_ | areScores)
  exact areScores

theorem creditOf_of_all {wanted : Float → Prop} {board : List (String × Float)} (zero : wanted 0.0)
    (all : ∀ line ∈ board, wanted line.2) (member : String) : wanted (creditOf member board) := by
  unfold creditOf
  cases found : board.lookup member with
  | none => exact zero
  | some score => exact all (member, score) (mem_of_lookup found)

theorem Store.Every.credited (admits : store.Every (rules.Admits pool)) (most : game.correctCount ≤ listLimit) :
    (store.credited game).Every (rules.Admits pool) := by
  unfold Store.credited
  split
  · next positive =>
      have areScores := areScores_boardOf admits (boardKey game.seat.server)
      have credited := (creditOf_of_all isScore_zero areScores game.seat.player).add positive most
      exact admits.addScore areScores credited fun board expires areScores => .scores areScores
  · exact admits

theorem Session.IsHealthy.credited (healthy : session.IsHealthy rules pool) (most : game.correctCount ≤ listLimit) :
    (session.change (Store.credited game)).IsHealthy rules pool := by
  refine healthy.change (healthy.stocked.keyed.credited game) ?_ (healthy.admits.credited most)
  exact Store.get?_credited game _ (boardKey_ne_poolKey _).symm

/-- Whatever a seat has can be read, and is a game in play. -/
theorem Session.IsHealthy.gameAt (healthy : session.IsHealthy rules pool) (playable : rules.ArePlayable)
    (finite : now.isFinite = true) (seat : Seat) :
    ∃ found, (session.store.live now).gameAt seat.key = .ok found ∧
      ∀ game ∈ found, game.seat.key = seat.key ∧ game.IsPlayed rules pool now := by
  have lives := Store.get?_live healthy.stocked.keyed now seat.key
  unfold Store.gameAt
  cases isText : (session.store.live now).text? seat.key with
  | none => exact ⟨none, rfl, by simp⟩
  | some text =>
      obtain ⟨expires, stored⟩ := Store.text?_eq_some.mp isText
      rw [lives, Option.filter_eq_some_iff] at stored
      cases healthy.admits _ _ stored.1 with
      | @game game _ saved reads isKey positive played =>
          have inTime : ¬rules.deadline saved ≤ now := by simpa [Entry.isLive] using stored.2
          dsimp only
          rw [reads]
          split
          · exact ⟨none, rfl, by simp⟩
          · refine ⟨some game, by simp [Except.map, played.status], ?_⟩
            rintro _ ⟨⟩
            exact ⟨isKey.symm, played.next playable positive finite inTime⟩

end

end TenPuzzle
