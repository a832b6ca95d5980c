import TenPuzzle.Proofs.Game.Bookkeeping
import TenPuzzle.Proofs.Number.Order
import TenPuzzle.Proofs.Number.Scientific

/-!
Standing games. What the events of a run tell of a seat is what the store keeps for it: the game of its last
move, until that game is finished, is cancelled, or has its time over.
-/

namespace TenPuzzle

/-- What an event leaves a seat with: a game, and the moment at which it was saved. -/
def Occurrence.leaves (seat : Seat) (before : Option (Game × Float)) (event : Occurrence) : Option (Game × Float) :=
  if event.step.seat = seat then
    match event.outcome with
    | .ok (.started game) => some (game, event.step.moment.now)
    | .ok (.recorded _ game) => if game.isFinished then none else some (game, event.step.moment.now)
    | .ok (.cancelled true) => none
    | _ => before
  else before

def standing (seat : Seat) (events : List Occurrence) : Option (Game × Float) :=
  events.foldl (Occurrence.leaves seat) none

theorem standing_concat (seat : Seat) (events : List Occurrence) (event : Occurrence) :
    standing seat (events ++ [event]) = event.leaves seat (standing seat events) :=
  List.foldl_concat _ _ _ _

section

variable {seat : Seat} {step : Step} {before : Option (Game × Float)} {game : Game} {attempt : Attempt}

theorem leaves_elsewhere {event : Occurrence} (other : event.step.seat ≠ seat) : event.leaves seat before = before :=
  if_neg other

theorem leaves_error (fault : GameFault) : Occurrence.leaves seat before ⟨step, .error fault⟩ = before :=
  ite_self _

theorem leaves_found (game : Option Game) : Occurrence.leaves seat before ⟨step, .ok (.found game)⟩ = before :=
  ite_self _

theorem leaves_uncancelled : Occurrence.leaves seat before ⟨step, .ok (.cancelled false)⟩ = before :=
  ite_self _

theorem leaves_cancelled (here : step.seat = seat) :
    Occurrence.leaves seat before ⟨step, .ok (.cancelled true)⟩ = none :=
  if_pos here

theorem leaves_started (here : step.seat = seat) :
    Occurrence.leaves seat before ⟨step, .ok (.started game)⟩ = some (game, step.moment.now) :=
  if_pos here

theorem leaves_recorded (here : step.seat = seat) :
    Occurrence.leaves seat before ⟨step, .ok (.recorded attempt game)⟩ =
      if game.isFinished then none else some (game, step.moment.now) :=
  if_pos here

end

/-! Games at keys. -/

section

variable {store : Store} {key : String} {game : Game}

theorem text_isEmpty (game : Game) : game.text.isEmpty = false := by
  have begins : ∃ rest, game.toJson.write = '\x7b' :: rest := ⟨_, by rw [Game.toJson, Json.write]; rfl⟩
  obtain ⟨rest, isText⟩ := begins
  rw [Game.text, Json.text, isText]
  simp

theorem gameAt_of_text {expires : Option Float} (stored : store.get? key = some ⟨.text game.text, expires⟩)
    (storable : game.IsStorable) (active : game.status = activeStatus) :
    store.gameAt key = .ok (some game) := by
  have text : store.text? key = some game.text := Store.text?_eq_some.mpr ⟨expires, stored⟩
  rw [Store.gameAt, text]
  simp [text_isEmpty, Game.ofText_text storable, Except.map, active]

theorem gameAt_of_none (missing : store.get? key = none) : store.gameAt key = .ok none := by
  rw [Store.gameAt, Store.text?, missing]

end

/-! What the store keeps is what was told. -/

/-- Whatever a store keeps for a seat is the standing game of that seat. -/
def Session.Shows (rules : Rules) (pool : List String) (fair : List String → Prop) (events : List Occurrence)
    (session : Session) : Prop :=
  ∀ seat : Seat, seat.IsPlain → ∀ entry, session.store.get? seat.key = some entry →
    ∃ game saved, standing seat events = some (game, saved) ∧ game.seat = seat ∧
      game.IsRunning rules pool fair ∧ entry = rules.entryOf game saved

section

variable {rules : Rules} {pool : List String} {fair : List String → Prop} {events : List Occurrence} {step : Step}
  {before after : Session} {outcome : Except GameFault Outcome}

theorem Session.Shows.ages {now : Float} (told : before.Shows rules pool fair events)
    (ages : before.Ages rules now after) : after.Shows rules pool fair events := by
  intro seat plain entry stored
  rcases ages.kept seat.key seat.key_ne_poolKey with same | ⟨_, gone⟩
  · exact told seat plain entry (same.symm.trans stored)
  · rw [gone] at stored
    cases stored

theorem Session.Shows.found {game : Game} (told : before.Shows rules pool fair events)
    (stocked : before.IsStocked) (short : pool.length ≤ listLimit) (plain : step.seat.IsPlain)
    (found : step.found before = .ok (some game)) :
    (∃ saved, standing step.seat events = some (game, saved)) ∧ game.seat = step.seat ∧
      game.IsRunning rules pool fair := by
  obtain ⟨text, expires, stored, _⟩ := stored_of_gameAt found
  have aged : before.Ages rules step.moment.now (before.change (Store.live step.moment.now)) := stocked.live
  obtain ⟨other, saved, stands, isSeat, running, isEntry⟩ := told.ages aged step.seat plain _ stored
  rw [isEntry] at stored
  have same := gameAt_of_text stored (running.isStorable short) running.status
  change step.found before = _ at same
  rw [found] at same
  cases same
  exact ⟨⟨saved, stands⟩, isSeat, running⟩

theorem get?_saved_here {store : Store} {game : Game} {seat : Seat} (here : game.seat = seat) (now : Float) :
    (store.saved rules now game).get? seat.key =
      if rules.settings.lifetime ≤ 0 then none else some (rules.entryOf game now) := by
  rw [Store.get?_saved, here, if_pos rfl]

/-- What a turn does at the key of a seat, beside what is told of the seat: nothing, or the key is cleared, or
a running game is saved there. -/
theorem Turn.at_seat [DepthLimit] (turn : Turn rules step before outcome after) (sound : before.IsSound rules pool fair)
    (told : before.Shows rules pool fair events) (plain : step.seat.IsPlain) (short : pool.length ≤ listLimit)
    (tells : ∀ value, outcome = .ok value → value.IsSound rules pool fair step.moment.now) {seat : Seat}
    (seatPlain : seat.IsPlain) (prior : Option (Game × Float)) :
    (∃ between, before.Ages rules step.moment.now between ∧
        Occurrence.leaves seat prior ⟨step, outcome⟩ = prior ∧
        after.store.get? seat.key = between.store.get? seat.key) ∨
      (Occurrence.leaves seat prior ⟨step, outcome⟩ = none ∧ after.store.get? seat.key = none) ∨
      ∃ game, Occurrence.leaves seat prior ⟨step, outcome⟩ = some (game, step.moment.now) ∧ game.seat = seat ∧
        game.IsRunning rules pool fair ∧ after.store.get? seat.key =
          if rules.settings.lifetime ≤ 0 then none else some (rules.entryOf game step.moment.now) := by
  by_cases here : step.seat = seat
  · cases turn with
    | fails ages => exact .inl ⟨after, ages, leaves_error _, rfl⟩
    | finds ages _ => exact .inl ⟨after, ages, leaves_found _, rfl⟩
    | leaves ages _ => exact .inl ⟨after, ages, leaves_uncancelled, rfl⟩
    | @drops game between ages found =>
        obtain ⟨_, isSeat, _⟩ := told.found sound.stocked short plain found
        refine .inr (.inl ⟨leaves_cancelled here, ?_⟩)
        rw [← here, ← isSeat]
        exact (Store.get?_erase _ _ _).trans (if_pos rfl)
    | @starts mode problems between ages found offered length enough drawn _ =>
        exact .inr (.inr ⟨_, leaves_started here, here, tells _ rfl, get?_saved_here here _⟩)
    | @records game attempt between ages found takes _ =>
        obtain ⟨_, isSeat, _⟩ := told.found sound.stocked short plain found
        have isHere : (game.record attempt).seat = seat := isSeat.trans here
        have moved := tells _ rfl
        simp only [Outcome.IsSound, Game.isFinished_settled] at moved
        rw [leaves_recorded here, Game.isFinished_settled]
        unfold Session.change Store.settled Game.settled at *
        dsimp only at moved ⊢
        right
        split
        · left
          rw [Store.get?_credited _ _ (seat.key_ne_boardKey _), Store.get?_erase, isHere, if_pos rfl]
          exact ⟨rfl, rfl⟩
        · next unfinished =>
            right
            rw [if_neg unfinished, if_neg unfinished] at moved
            exact ⟨_, rfl, isHere, moved, get?_saved_here isHere _⟩
  · obtain ⟨between, ages, same⟩ := turn.elsewhere sound.stocked sound.games plain seatPlain here
    exact .inl ⟨between, ages, leaves_elsewhere here, same⟩

theorem Turn.shows [DepthLimit] (turn : Turn rules step before outcome after) (sound : before.IsSound rules pool fair)
    (told : before.Shows rules pool fair events) (plain : step.seat.IsPlain) (short : pool.length ≤ listLimit)
    (tells : ∀ value, outcome = .ok value → value.IsSound rules pool fair step.moment.now) :
    after.Shows rules pool fair (events ++ [⟨step, outcome⟩]) := by
  intro seat seatPlain entry stored
  rw [standing_concat]
  rcases turn.at_seat sound told plain short tells seatPlain (standing seat events) with
    ⟨between, ages, stands, same⟩ | ⟨_, gone⟩ | ⟨game, stands, isSeat, running, saves⟩
  · rw [stands]
    exact told.ages ages seat seatPlain entry (same.symm.trans stored)
  · rw [gone] at stored
    cases stored
  · rw [saves] at stored
    split at stored
    · cases stored
    · cases stored
      exact ⟨game, _, stands, isSeat, running, rfl⟩

/-- A standing game is in the store, or its time was over at some event. -/
def Session.Lasts (rules : Rules) (events : List Occurrence) (session : Session) : Prop :=
  ∀ seat : Seat, seat.IsPlain → ∀ game saved, standing seat events = some (game, saved) →
    (∃ event ∈ events, event.step.moment.now = saved) ∧
      (session.store.get? seat.key = some (rules.entryOf game saved) ∨
        session.store.get? seat.key = none ∧ ∃ event ∈ events, rules.deadline saved ≤ event.step.moment.now)

theorem entryOf_isLive (rules : Rules) (game : Game) (saved now : Float) :
    (rules.entryOf game saved).isLive now = true ↔ ¬rules.deadline saved ≤ now := by
  simp [Rules.entryOf, Entry.isLive]

theorem Session.Lasts.ages {event : Occurrence} (lasts : before.Lasts rules events)
    (ages : before.Ages rules event.step.moment.now after) {seat : Seat} (plain : seat.IsPlain) {game : Game}
    {saved : Float} (stands : standing seat events = some (game, saved)) :
    (∃ earlier ∈ events ++ [event], earlier.step.moment.now = saved) ∧
      (after.store.get? seat.key = some (rules.entryOf game saved) ∨
        after.store.get? seat.key = none ∧
          ∃ earlier ∈ events ++ [event], rules.deadline saved ≤ earlier.step.moment.now) := by
  obtain ⟨⟨start, isStart, isSaved⟩, kept⟩ := lasts seat plain game saved stands
  refine ⟨⟨start, List.mem_append_left _ isStart, isSaved⟩, ?_⟩
  rcases ages.kept seat.key seat.key_ne_poolKey with same | ⟨⟨entry, stored, isPast⟩, gone⟩
  · rw [same]
    rcases kept with present | ⟨absent, ended, isEnded, outlived⟩
    · exact .inl present
    · exact .inr ⟨absent, ended, List.mem_append_left _ isEnded, outlived⟩
  · right
    refine ⟨gone, ?_⟩
    rcases kept with present | ⟨absent, _⟩
    · rw [stored, Option.some.injEq] at present
      rw [present] at isPast
      have outlived : rules.deadline saved ≤ event.step.moment.now := by
        by_contra lives
        rw [(entryOf_isLive rules game saved _).mpr lives] at isPast
        cases isPast
      exact ⟨event, by simp, outlived⟩
    · rw [absent] at stored
      cases stored

theorem Turn.lasts [DepthLimit] (turn : Turn rules step before outcome after) (sound : before.IsSound rules pool fair)
    (told : before.Shows rules pool fair events) (plain : step.seat.IsPlain) (short : pool.length ≤ listLimit)
    (tells : ∀ value, outcome = .ok value → value.IsSound rules pool fair step.moment.now)
    (lasts : before.Lasts rules events) (lifetime : 1 ≤ rules.settings.lifetime) :
    after.Lasts rules (events ++ [⟨step, outcome⟩]) := by
  intro seat seatPlain game saved stands
  rw [standing_concat] at stands
  rcases turn.at_seat sound told plain short tells seatPlain (standing seat events) with
    ⟨between, ages, unchanged, same⟩ | ⟨ends, _⟩ | ⟨started, starts, isSeat, _, saves⟩
  · rw [same]
    exact @Session.Lasts.ages _ _ _ _ ⟨step, outcome⟩ lasts ages _ seatPlain _ _ (unchanged.symm.trans stands)
  · rw [ends] at stands
    cases stands
  · rw [starts] at stands
    cases stands
    rw [if_neg (by omega)] at saves
    exact ⟨⟨_, List.mem_append_right _ (List.mem_singleton.mpr rfl), rfl⟩, .inl saves⟩

theorem gameAt_standing {session : Session} (sound : session.IsSound rules pool fair)
    (told : session.Shows rules pool fair events) (lasts : session.Lasts rules events)
    (short : pool.length ≤ listLimit) {seat : Seat} (plain : seat.IsPlain) {now : Float}
    (later : ∀ event ∈ events, event.step.moment.now ≤ now) :
    (session.store.live now).gameAt seat.key = .ok ((standing seat events).bind fun (game, saved) =>
      if rules.deadline saved ≤ now then none else some game) := by
  have lives := Store.get?_live sound.stocked.keyed now seat.key
  cases stands : standing seat events with
  | none =>
      apply gameAt_of_none
      cases stored : session.store.get? seat.key with
      | none => rw [lives, stored, Option.filter_none]
      | some entry =>
          obtain ⟨game, saved, standsHere, _⟩ := told seat plain entry stored
          rw [stands] at standsHere
          cases standsHere
  | some standing =>
      obtain ⟨game, saved⟩ := standing
      obtain ⟨_, stored | ⟨absent, ended, isEnded, outlived⟩⟩ := lasts seat plain game saved stands
      · obtain ⟨other, _, standsHere, _, running, isEntry⟩ := told seat plain _ stored
        rw [stands] at standsHere
        cases standsHere
        rw [stored, Option.filter_some] at lives
        rw [Option.bind_some]
        dsimp only
        split
        · next outlived =>
            apply gameAt_of_none
            rw [lives, if_neg]
            simpa [entryOf_isLive] using outlived
        · next runs =>
            rw [if_pos ((entryOf_isLive rules game saved now).mpr runs)] at lives
            exact gameAt_of_text lives (running.isStorable short) running.status
      · have past : rules.deadline saved ≤ now := Number.le_trans_float outlived (later ended isEnded)
        rw [Option.bind_some]
        dsimp only
        rw [if_pos past]
        apply gameAt_of_none
        rw [lives, absent, Option.filter_none]

end

/-! Runs. -/

/-- Clock readings that are finite and never go back. -/
structure Rising (clocks : List Float) : Prop where
  finite : ∀ now ∈ clocks, now.isFinite = true
  ordered : clocks.Pairwise (· ≤ ·)

/-- The standing game of a seat at a moment before its time is over. -/
def gameInTime (rules : Rules) (seat : Seat) (events : List Occurrence) (now : Float) : Option Game :=
  (standing seat events).bind fun (game, saved) => if now < rules.deadline saved then some game else none

theorem deadline_isNumber {rules : Rules} {saved : Float} (finite : saved.isFinite = true)
    (lifetime : 0 ≤ rules.settings.lifetime) : (Number.place (rules.deadline saved)).isSome = true := by
  obtain ⟨exact, isSaved⟩ := Number.exactValue_of_isFinite finite
  obtain ⟨seconds, isLifetime⟩ := Int.eq_ofNat_of_zero_le lifetime
  rw [Rules.deadline, isLifetime]
  exact Number.place_add isSaved (Number.isNearest_ofNat seconds).place_isSome

theorem lt_deadline_iff {rules : Rules} {saved now : Float} (isSaved : saved.isFinite = true)
    (isNow : now.isFinite = true) (lifetime : 0 ≤ rules.settings.lifetime) :
    now < rules.deadline saved ↔ ¬rules.deadline saved ≤ now := by
  obtain ⟨exact, isExact⟩ := Number.exactValue_of_isFinite isNow
  have isNumber : (Number.place now).isSome = true := by
    rw [Number.place_of_exactValue isExact]
    rfl
  exact Number.lt_iff_not_le isNumber (deadline_isNumber isSaved lifetime)

theorem gameInTime_eq {rules : Rules} {seat : Seat} {events : List Occurrence} {now : Float}
    (isNow : now.isFinite = true)
    (isSaved : ∀ game saved, standing seat events = some (game, saved) → saved.isFinite = true)
    (lifetime : 0 ≤ rules.settings.lifetime) :
    ((standing seat events).bind fun (game, saved) => if rules.deadline saved ≤ now then none else some game) =
      gameInTime rules seat events now := by
  unfold gameInTime
  cases stands : standing seat events with
  | none => rfl
  | some standing =>
      obtain ⟨game, saved⟩ := standing
      have lasts := lt_deadline_iff (isSaved game saved stands) isNow lifetime
      simp only [Option.bind_some]
      by_cases outlived : rules.deadline saved ≤ now
      · rw [if_pos outlived, if_neg (by simpa [lasts] using outlived)]
      · rw [if_neg outlived, if_pos (lasts.mpr outlived)]

section

variable {rules : Rules} {pool : List String} {fair : List String → Prop} {steps : List Step} {start : Session}

/-- In every run the store shows what was told, and so a turn may count on it. -/
theorem playAll_shows [DepthLimit] {invariant : Run → Prop} (sound : start.IsSound rules pool fair)
    (empty : ∀ seat : Seat, start.store.get? seat.key = none)
    (modes : ∀ mode ∈ rules.settings.modes, 1 ≤ mode) (short : pool.length ≤ listLimit)
    (draws : ∀ step ∈ steps, ∀ problems, step.moment.Draws pool problems → fair problems)
    (plain : ∀ step ∈ steps, step.seat.IsPlain) (begins : invariant ⟨[], start⟩)
    (continues : ∀ run : Run, ∀ step ∈ steps, run.session.IsSound rules pool fair →
      run.session.Shows rules pool fair run.events →
      (∀ value, (step.run rules run.session).1 = .ok value → value.IsSound rules pool fair step.moment.now) →
      invariant run → invariant (run.extend rules step)) :
    (playAll rules start steps).session.IsSound rules pool fair ∧
      (playAll rules start steps).session.Shows rules pool fair (playAll rules start steps).events ∧
      invariant (playAll rules start steps) := by
  apply @playAll_keeps _ rules start steps fun run => run.session.IsSound rules pool fair ∧
    run.session.Shows rules pool fair run.events ∧ invariant run
  · refine ⟨sound, ?_, begins⟩
    intro seat _ entry stored
    rw [empty seat] at stored
    cases stored
  · rintro run step member ⟨kept, told, holds⟩
    have turn := step.turn rules kept.stocked
    obtain ⟨later, tells⟩ := turn.isSound kept modes short (draws step member)
    exact ⟨later, turn.shows kept told (plain step member) short tells,
      continues run step member kept told tells holds⟩

end

/-- A look shows the game of the seat's last move, with all that is in it, until that game is finished, cancelled
or out of time, and nothing otherwise; and a game can be started exactly if a look shows none. -/
theorem look_shows_standing [DepthLimit] (rules : Rules) (stored kept : List String) (asked : Nat) (steps : List Step)
    (lifetime : 1 ≤ rules.settings.lifetime) (modes : ∀ mode ∈ rules.settings.modes, 1 ≤ mode)
    (short : ((Session.opening stored kept asked).problems rules).length ≤ listLimit)
    (plain : ∀ step ∈ steps, step.seat.IsPlain) (seat : Seat) (seatPlain : seat.IsPlain) (moment : Moment)
    (reachable : moment.outage = none) (rising : Rising (steps.map (fun step => step.moment.now) ++ [moment.now])) :
    let pool := (Session.opening stored kept asked).problems rules
    let run := playAll rules (Session.opening stored kept asked) steps
    (Step.run rules ⟨moment, seat, .look⟩ run.session).1 =
        .ok (.found (gameInTime rules seat run.events moment.now)) ∧
      ∀ mode : Option Int, mode.getD rules.settings.defaultMode ∈ rules.settings.modes →
        mode.getD rules.settings.defaultMode ≤ pool.length → moment.Samples pool.length →
        ((∃ game later, Step.run rules ⟨moment, seat, .create mode⟩ run.session = (.ok (.started game), later)) ↔
          gameInTime rules seat run.events moment.now = none) := by
  intro pool run
  obtain ⟨sound, told, lasts⟩ := playAll_shows (opening_isSound rules stored kept asked fun _ => True)
    (fun seat => get?_opening seat.key_ne_poolKey) modes short (fun _ _ _ _ => trivial) plain
    (show Session.Lasts rules [] _ from fun _ _ _ _ stands => nomatch stands)
    fun between step member sound told tells lasts =>
      (step.turn rules sound.stocked).lasts sound told (plain step member) short tells lasts lifetime
  have later : ∀ event ∈ run.events, event.step.moment.now ∈ steps.map fun step => step.moment.now := by
    intro event member
    have isStep : event.step ∈ run.events.map Occurrence.step := List.mem_map_of_mem member
    rw [playAll_steps] at isStep
    exact List.mem_map_of_mem isStep
  have finds := gameAt_standing sound told lasts short seatPlain fun event member =>
    (List.pairwise_append.mp rising.ordered).2.2 _ (later event member) _ (List.mem_singleton.mpr rfl)
  have isNow : moment.now.isFinite = true := rising.finite _ (List.mem_append_right _ (List.mem_singleton.mpr rfl))
  have isSaved : ∀ game saved, standing seat run.events = some (game, saved) → saved.isFinite = true := by
    intro game saved stands
    obtain ⟨⟨event, member, rfl⟩, _⟩ := lasts seat seatPlain game saved stands
    exact rising.finite _ (List.mem_append_left _ (later event member))
  rw [gameInTime_eq isNow isSaved (by omega)] at finds
  constructor
  · have looks := activeGame_eq reachable run.session seat
    rw [finds] at looks
    unfold Step.run Play.perform
    dsimp only
    rw [bind_of_ok looks]
    rfl
  · intro mode offered enough samples
    have positive := modes _ offered
    have isPool : run.session.problems rules = pool := sound.pooled
    have isShort : IsShort (mode.getD rules.settings.defaultMode) :=
      isShort_of_le (by omega) (enough.trans (Int.ofNat_le.mpr short))
    rw [← isPool] at enough samples
    exact create_starts_iff sound.stocked reachable offered (by omega) enough isShort samples finds

section

attribute [local instance] DepthLimit.standard

theorem look_shows_standing_of_one_game :
    let rules : Rules := ⟨⟨[1], 1, 60, 10⟩, fun _ => false⟩
    let seat : Seat := ⟨"1", "2", "3"⟩
    let run := playAll rules (Session.opening [] ["1234", "5678"] 0) [⟨⟨0.0, some [1], none⟩, seat, .create none⟩]
    (gameInTime rules seat run.events 59.0).isSome = true ∧
      (Step.run rules ⟨⟨59.0, none, none⟩, seat, .look⟩ run.session).1 =
        .ok (.found (gameInTime rules seat run.events 59.0)) := by
  intro rules seat run
  refine ⟨by decide +kernel, ?_⟩
  have looks := look_shows_standing rules [] ["1234", "5678"] 0
    [⟨⟨0.0, some [1], none⟩, seat, .create none⟩] (by decide) (by decide) (by decide)
    (by
      intro step member
      rw [List.mem_singleton.mp member]
      exact ⟨by decide, by decide, by decide⟩)
    seat ⟨by decide, by decide, by decide⟩ ⟨59.0, none, none⟩ rfl
    ⟨by decide +kernel, by decide +kernel⟩
  exact looks.1

end

end TenPuzzle
