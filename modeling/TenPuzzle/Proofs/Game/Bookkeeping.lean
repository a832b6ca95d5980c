import TenPuzzle.Proofs.Game.Run

/-!
The books of a game. Its counters are read off its history, and every attempt is at the problem that the
attempts before it led to. Turns keep the books of every game in the store, whoever plays.
-/

namespace TenPuzzle

def Attempt.advances (attempt : Attempt) : Bool :=
  attempt.correct || attempt.passed

/-- The most items that a list can have. -/
def listLimit : Nat := 2 ^ 63 - 1

/-- A draw without repetitions, from the pool alone. -/
def IsSample (pool problems : List String) : Prop :=
  problems.Nodup ∧ ∀ problem ∈ problems, problem ∈ pool

/-- A game whose books are in order; of the draws nothing is known but that they are fair. -/
structure Game.IsSound (rules : Rules) (pool : List String) (fair : List String → Prop) (game : Game) : Prop where
  fair : fair game.problems
  mode : game.mode = game.problems.length
  offered : game.mode ∈ rules.settings.modes
  enough : game.mode ≤ pool.length
  startTime : ∃ now, game.startTime = .real now
  correctCount : game.correctCount = game.history.countP Attempt.correct
  current : game.current = game.history.countP Attempt.advances
  single : ∀ attempt ∈ game.history, (attempt.correct && attempt.passed) = false
  storable : ∀ attempt ∈ game.history, attempt.IsStorable
  problem : ∀ earlier attempt later, game.history = earlier ++ attempt :: later →
    game.problems[earlier.countP Attempt.advances]? = some attempt.problem

structure Game.IsRunning (rules : Rules) (pool : List String) (fair : List String → Prop) (game : Game) : Prop
    extends game.IsSound rules pool fair where
  status : game.status = activeStatus
  endTime : game.endTime = none
  inPlay : 0 ≤ game.current ∧ game.current < game.mode

structure Game.IsComplete (rules : Rules) (pool : List String) (fair : List String → Prop) (now : Float)
    (game : Game) : Prop extends game.IsSound rules pool fair where
  status : game.status = endedStatus
  endTime : game.endTime = some (.real now)
  complete : game.current = game.mode

section

variable {rules : Rules} {pool : List String} {fair : List String → Prop} {game : Game} {attempt : Attempt}

theorem Game.IsSound.correctCount_le (sound : game.IsSound rules pool fair) :
    0 ≤ game.correctCount ∧ game.correctCount ≤ game.current := by
  rw [sound.correctCount, sound.current]
  have fewer : game.history.countP Attempt.correct ≤ game.history.countP Attempt.advances := by
    apply List.countP_mono_left
    intro attempt _ correct
    simp [Attempt.advances, correct]
  omega

theorem isShort_of_le {value : Int} (above : 0 ≤ value) (below : value ≤ listLimit) : IsShort value := by
  apply isShort_of_lt above
  have limit : listLimit < 10 ^ Text.digitLimit := by
    calc
      listLimit < 10 ^ 19 := by decide
      _ ≤ 10 ^ Text.digitLimit := Nat.pow_le_pow_right (by decide) (by decide)
  exact lt_of_le_of_lt below (by exact_mod_cast limit)

theorem Game.IsRunning.isStorable (running : game.IsRunning rules pool fair) (short : pool.length ≤ listLimit) :
    game.IsStorable := by
  have mode := running.mode
  have enough := running.enough
  have correct := running.correctCount_le
  have inPlay := running.inPlay
  refine ⟨isShort_of_le (by omega) (by omega), isShort_of_le (by omega) (by omega),
    isShort_of_le (by omega) (by omega), ?_, ?_, running.storable⟩
  · obtain ⟨now, started⟩ := running.startTime
    rw [started]
    trivial
  · rw [running.endTime]
    simp

theorem fresh_isRunning {seat : Seat} {mode : Int} {problems : List String} (now : Float)
    (isFair : fair problems) (length : (problems.length : Int) = mode) (offered : mode ∈ rules.settings.modes)
    (positive : 1 ≤ mode) (enough : mode ≤ pool.length) :
    (Game.fresh seat mode problems now).IsRunning rules pool fair where
  fair := isFair
  mode := length.symm
  offered := offered
  enough := enough
  startTime := ⟨now, rfl⟩
  correctCount := rfl
  current := rfl
  single := by simp [Game.fresh]
  storable := by simp [Game.fresh]
  problem := by simp [Game.fresh]
  status := rfl
  endTime := rfl
  inPlay := ⟨Int.le_refl 0, by simp only [Game.fresh]; omega⟩

/-- What stands in a list with one more item at its end is that item, or stood in the list before. -/
theorem split_concat {α : Type} {items earlier later : List α} {last item : α}
    (split : items ++ [last] = earlier ++ item :: later) :
    (earlier = items ∧ item = last) ∨ ∃ between, items = earlier ++ item :: between := by
  rcases List.eq_nil_or_concat later with rfl | ⟨between, final, rfl⟩
  · obtain ⟨same, ends⟩ := List.append_inj' split rfl
    exact .inl ⟨same.symm, (List.cons.inj ends).1.symm⟩
  · rw [List.concat_eq_append, ← List.cons_append, ← List.append_assoc] at split
    exact .inr ⟨between, (List.append_inj' split rfl).1⟩

theorem Game.IsRunning.problem_in_play [DepthLimit] (running : game.IsRunning rules pool fair)
    (takes : game.Takes attempt) :
    game.problems[game.history.countP Attempt.advances]? = some attempt.problem := by
  have plays := takes.plays
  have current := running.current
  unfold spot at plays
  split at plays
  · cases plays
  · split at plays
    · next digits found =>
        simp only [Spot.problem.injEq] at plays
        rw [itemAt_natural running.inPlay.1, current, Int.toNat_natCast] at found
        rw [found, plays]
    · cases plays

theorem Game.IsRunning.record [DepthLimit] (running : game.IsRunning rules pool fair) (takes : game.Takes attempt) :
    (game.record attempt).IsSound rules pool fair where
  fair := running.fair
  mode := running.mode
  offered := running.offered
  enough := running.enough
  startTime := running.startTime
  correctCount := by
    simp only [Game.record, List.countP_append, List.countP_singleton, running.correctCount]
    split <;> simp_all
  current := by
    simp only [Game.record, List.countP_append, List.countP_singleton, running.current, Attempt.advances]
    split <;> simp_all
  single := by
    intro other member
    rcases List.mem_append.mp member with before | isLast
    · exact running.single other before
    · rw [List.mem_singleton.mp isLast]
      exact takes.single
  storable := by
    intro other member
    rcases List.mem_append.mp member with before | isLast
    · exact running.storable other before
    · rw [List.mem_singleton.mp isLast]
      exact takes.storable
  problem := by
    intro earlier other later split
    rcases split_concat split with ⟨rfl, rfl⟩ | ⟨between, before⟩
    · exact running.problem_in_play takes
    · exact running.problem earlier other between before

theorem Game.IsRunning.current_record (running : game.IsRunning rules pool fair) :
    (game.record attempt).current ≤ game.mode := by
  have inPlay := running.inPlay
  simp only [Game.record]
  split <;> omega

theorem Game.IsRunning.settled [DepthLimit] (running : game.IsRunning rules pool fair) (takes : game.Takes attempt)
    (now : Float) :
    if (game.record attempt).isFinished then
      ((game.record attempt).settled now).IsComplete rules pool fair now
    else ((game.record attempt).settled now).IsRunning rules pool fair := by
  have sound := running.record takes
  have bound : (game.record attempt).current ≤ game.mode := running.current_record
  have mode : game.mode = game.problems.length := running.mode
  have nonneg : 0 ≤ (game.record attempt).current := by
    rw [sound.current]
    exact Int.natCast_nonneg _
  unfold Game.settled
  split
  · next finished =>
      have reached : (game.problems.length : Int) ≤ (game.record attempt).current := of_decide_eq_true finished
      have complete : (game.record attempt).current = game.mode := by omega
      exact { sound with status := rfl, endTime := rfl, complete := complete }
  · next unfinished =>
      have before : ¬(game.problems.length : Int) ≤ (game.record attempt).current :=
        fun reached => unfinished (decide_eq_true reached)
      have below : (game.record attempt).current < game.mode := by omega
      exact { sound with status := running.status, endTime := running.endTime, inPlay := ⟨nonneg, below⟩ }

/-- A game that goes on after a move is in play as before. -/
theorem Game.IsRunning.next [DepthLimit] (running : game.IsRunning rules pool fair) (takes : game.Takes attempt)
    (unfinished : (game.record attempt).isFinished = false) : (game.record attempt).IsRunning rules pool fair := by
  have settles := running.settled takes 0.0
  rwa [if_neg (by simp [unfinished]), Game.settled, if_neg (by simp [unfinished])] at settles

theorem Game.IsRunning.unfinished (running : game.IsRunning rules pool fair) : game.isFinished = false := by
  have mode := running.mode
  have inPlay := running.inPlay
  exact decide_eq_false (by omega)

theorem Game.IsRunning.spot (running : game.IsRunning rules pool fair) :
    ∃ digits ∈ game.problems, game.spot = .problem digits := by
  obtain ⟨nonneg, below⟩ := running.inPlay
  have mode := running.mode
  have found : itemAt? game.problems game.current = game.problems[game.current.toNat]? := itemAt_natural nonneg
  have inside : game.current.toNat < game.problems.length := by omega
  rw [List.getElem?_eq_getElem inside] at found
  refine ⟨_, List.getElem_mem inside, ?_⟩
  rw [Game.spot, running.unfinished, found]
  rfl

end

/-! Stored games. -/

/-- Every text in a store keeps a good game, at the key of its own seat. -/
def Store.Holds (good : Game → Prop) (store : Store) : Prop :=
  ∀ key text, store.text? key = some text →
    ∃ game, Game.ofText text = .ok game ∧ key = game.seat.key ∧ good game

theorem Store.holds_iff {good : Game → Prop} {store : Store} :
    store.Holds good ↔ store.Every fun key entry => ∀ text, entry.content = .text text →
      ∃ game, Game.ofText text = .ok game ∧ key = game.seat.key ∧ good game := by
  constructor
  · rintro holds key ⟨_, expires⟩ found text rfl
    exact holds key text (text?_eq_some.mpr ⟨expires, found⟩)
  · intro every key text isText
    obtain ⟨expires, found⟩ := text?_eq_some.mp isText
    exact every key _ found text rfl

section

variable {rules : Rules} {step : Step} {before after : Session} {outcome : Except GameFault Outcome}
  {good : Game → Prop}

theorem found_of_holds {game : Game} (stocked : before.IsStocked) (holds : before.store.Holds good)
    (found : step.found before = .ok (some game)) : game.seat.key = step.seat.key ∧ good game := by
  obtain ⟨text, expires, stored, reads, _⟩ := entry_of_found stocked found
  obtain ⟨kept, isKept, isKey, isGood⟩ := Store.holds_iff.mp holds _ _ stored text rfl
  rw [reads] at isKept
  cases isKept
  exact ⟨isKey.symm, isGood⟩

/-- At the key of another seat, a turn only lets time pass. -/
theorem Turn.elsewhere [DepthLimit] (turn : Turn rules step before outcome after) (stocked : before.IsStocked)
    (holds : before.store.Holds good) (plain : step.seat.IsPlain) {seat : Seat} (seatPlain : seat.IsPlain)
    (other : step.seat ≠ seat) :
    ∃ between, before.Ages rules step.moment.now between ∧
      after.store.get? seat.key = between.store.get? seat.key := by
  have apart : seat.key ≠ step.seat.key := fun same => other ((Seat.key_inj seatPlain plain).mp same).symm
  cases turn with
  | fails ages => exact ⟨after, ages, rfl⟩
  | finds ages => exact ⟨after, ages, rfl⟩
  | leaves ages => exact ⟨after, ages, rfl⟩
  | @drops game between ages found =>
      rw [← (found_of_holds stocked holds found).1] at apart
      exact ⟨between, ages, (Store.get?_erase _ _ _).trans (if_neg apart)⟩
  | @starts mode problems between ages =>
      exact ⟨between, ages, (Store.get?_saved _ _ _ _ _).trans (if_neg apart)⟩
  | @records game attempt between ages found =>
      rw [← (found_of_holds stocked holds found).1] at apart
      exact ⟨between, ages, Store.get?_settled _ _ _ _ apart (seat.key_ne_boardKey _)⟩

/-- Good games stay good if those that start are good and moves keep them so. -/
theorem Turn.holds [DepthLimit] (turn : Turn rules step before outcome after) (stocked : before.IsStocked)
    (holds : before.store.Holds good) (storable : ∀ game, good game → game.IsStorable)
    (starts : ∀ mode problems, mode ∈ rules.settings.modes → (problems.length : Int) = mode →
      mode ≤ (before.problems rules).length → step.moment.Draws (before.problems rules) problems →
      (Game.fresh step.seat mode problems step.moment.now).IsStorable →
      good (Game.fresh step.seat mode problems step.moment.now))
    (moves : ∀ game attempt, good game → game.Takes attempt → (game.record attempt).CanSettle →
      (game.record attempt).isFinished = false → good (game.record attempt)) :
    after.store.Holds good := by
  have keeps {game : Game} {key : String} (isKey : key = game.seat.key) (isGood : good game) :
      ∀ text, (rules.entryOf game step.moment.now).content = .text text →
        ∃ kept, Game.ofText text = .ok kept ∧ key = kept.seat.key ∧ good kept := by
    rintro text ⟨⟩
    exact ⟨game, Game.ofText_text (storable game isGood), isKey, isGood⟩
  rw [Store.holds_iff] at holds ⊢
  apply turn.every holds
  · rintro texts text ⟨⟩
  · intro mode problems offered length enough drawn short _
    exact keeps rfl (starts mode problems offered length enough drawn short)
  · intro game attempt found takes settles unfinished _
    have isGood := (found_of_holds stocked (Store.holds_iff.mpr holds) found).2
    exact keeps rfl (moves game attempt isGood takes settles unfinished)
  · intro game attempt _ _ store every
    unfold Store.credited
    split
    · exact every.put fun text isText => nomatch isText
    · exact every

end

/-! Sessions and runs. -/

structure Session.IsSound (rules : Rules) (pool : List String) (fair : List String → Prop) (session : Session) :
    Prop where
  stocked : session.IsStocked
  pooled : session.problems rules = pool
  games : session.store.Holds (Game.IsRunning rules pool fair)

def Outcome.IsSound (rules : Rules) (pool : List String) (fair : List String → Prop) (now : Float) :
    Outcome → Prop
  | .started game => game.IsRunning rules pool fair
  | .recorded _ game =>
    if game.isFinished then game.IsComplete rules pool fair now else game.IsRunning rules pool fair
  | .found game => ∀ running ∈ game, running.IsRunning rules pool fair
  | .cancelled _ => True

theorem Game.isFinished_settled (game : Game) (now : Float) : (game.settled now).isFinished = game.isFinished := by
  unfold settled
  split <;> rfl

section

variable {rules : Rules} {pool : List String} {fair : List String → Prop} {step : Step} {before after : Session}

theorem Turn.isSound [DepthLimit] {outcome : Except GameFault Outcome} (turn : Turn rules step before outcome after)
    (sound : before.IsSound rules pool fair) (modes : ∀ mode ∈ rules.settings.modes, 1 ≤ mode)
    (short : pool.length ≤ listLimit)
    (draws : ∀ problems, step.moment.Draws pool problems → fair problems) :
    after.IsSound rules pool fair ∧
      ∀ value, outcome = .ok value → value.IsSound rules pool fair step.moment.now := by
  have running {game : Game} (found : step.found before = .ok (some game)) : game.IsRunning rules pool fair :=
    (found_of_holds sound.stocked sound.games found).2
  have starts {mode : Int} {problems : List String} (offered : mode ∈ rules.settings.modes)
      (length : (problems.length : Int) = mode) (enough : mode ≤ (before.problems rules).length)
      (drawn : step.moment.Draws (before.problems rules) problems) :
      (Game.fresh step.seat mode problems step.moment.now).IsRunning rules pool fair := by
    rw [sound.pooled] at enough drawn
    exact fresh_isRunning step.moment.now (draws problems drawn) length offered (modes mode offered) enough
  constructor
  · obtain ⟨stocked, problems⟩ := turn.stocked
    refine ⟨stocked, problems.trans sound.pooled, ?_⟩
    apply turn.holds sound.stocked sound.games fun game running => running.isStorable short
    · intro mode problems offered length enough drawn _
      exact starts offered length enough drawn
    · intro game attempt running takes _ unfinished
      exact running.next takes unfinished
  · rintro value ⟨⟩
    cases turn with
    | finds ages found =>
        rintro game ⟨⟩
        exact running found
    | leaves => trivial
    | drops => trivial
    | starts ages found offered length enough drawn _ => exact starts offered length enough drawn
    | records ages found takes _ =>
        have settles := (running found).settled takes step.moment.now
        simp only [Outcome.IsSound, Game.isFinished_settled]
        exact settles

end

section

variable {rules : Rules} {pool : List String} {fair : List String → Prop} {steps : List Step}

theorem opening_holds (stored kept : List String) (asked : Nat) (good : Game → Prop) :
    (Session.opening stored kept asked).store.Holds good := by
  rw [Store.holds_iff]
  exact opening_every (fun texts text isText => nomatch isText) stored kept asked

theorem opening_isSound (rules : Rules) (stored kept : List String) (asked : Nat) (fair : List String → Prop) :
    (Session.opening stored kept asked).IsSound rules
      ((Session.opening stored kept asked).problems rules) fair :=
  ⟨opening_isStocked stored kept asked, rfl, opening_holds stored kept asked _⟩

theorem playAll_isSound [DepthLimit] {start : Session} (sound : start.IsSound rules pool fair)
    (modes : ∀ mode ∈ rules.settings.modes, 1 ≤ mode) (short : pool.length ≤ listLimit)
    (draws : ∀ step ∈ steps, ∀ problems, step.moment.Draws pool problems → fair problems) :
    (playAll rules start steps).session.IsSound rules pool fair ∧
      ∀ event ∈ (playAll rules start steps).events, ∀ value, event.outcome = .ok value →
        value.IsSound rules pool fair event.step.moment.now := by
  apply @playAll_keeps _ rules start steps fun run => run.session.IsSound rules pool fair ∧
    ∀ event ∈ run.events, ∀ value, event.outcome = .ok value →
      value.IsSound rules pool fair event.step.moment.now
  · exact ⟨sound, by simp⟩
  · rintro run step member ⟨kept, told⟩
    obtain ⟨later, tells⟩ := (step.turn rules kept.stocked).isSound kept modes short (draws step member)
    refine ⟨later, ?_⟩
    intro event isIn
    rcases List.mem_append.mp isIn with before | isLast
    · exact told event before
    · rw [List.mem_singleton.mp isLast]
      exact tells

end

/-- In every run, whoever plays and whichever steps fail, each text in the store is a running game whose books are in
order, and so is each game that a step tells of; the step that finishes a game tells of a complete one. -/
theorem playAll_keeps_books [DepthLimit] (rules : Rules) (stored kept : List String) (asked : Nat) (steps : List Step)
    (modes : ∀ mode ∈ rules.settings.modes, 1 ≤ mode)
    (distinct : ((Session.opening stored kept asked).problems rules).Nodup)
    (short : ((Session.opening stored kept asked).problems rules).length ≤ listLimit)
    (samples : ∀ step ∈ steps,
      step.moment.Samples ((Session.opening stored kept asked).problems rules).length) :
    let pool := (Session.opening stored kept asked).problems rules
    let run := playAll rules (Session.opening stored kept asked) steps
    run.session.store.Holds (Game.IsRunning rules pool (IsSample pool)) ∧
      ∀ event ∈ run.events, ∀ value, event.outcome = .ok value →
        value.IsSound rules pool (IsSample pool) event.step.moment.now := by
  intro pool run
  obtain ⟨sound, told⟩ := playAll_isSound (opening_isSound rules stored kept asked (IsSample pool)) modes short
    fun step member problems draws => ⟨draws.distinct (samples step member) distinct, draws.subset⟩
  exact ⟨sound.games, told⟩

section

attribute [local instance] DepthLimit.standard

theorem playAll_keeps_books_of_one_game :
    let rules : Rules := ⟨⟨[1], 1, 60, 10⟩, fun _ => false⟩
    let moment : Moment := ⟨0.0, some [1], none⟩
    let seat : Seat := ⟨"1", "2", "3"⟩
    let run := playAll rules (Session.opening [] ["1234", "5678"] 0) [⟨moment, seat, .create none⟩]
    (run.session.store.text? seat.key).isSome = true ∧
      run.session.store.Holds
        (Game.IsRunning rules ["1234", "5678"] (IsSample ["1234", "5678"])) := by
  intro rules moment seat run
  refine ⟨by decide +kernel, ?_⟩
  have books := playAll_keeps_books rules [] ["1234", "5678"] 0 [⟨moment, seat, .create none⟩]
    (by decide) (by decide) (by decide) (by
      intro step member positions drawn
      rw [List.mem_singleton.mp member] at drawn
      cases drawn
      decide)
  exact books.1

end

end TenPuzzle
