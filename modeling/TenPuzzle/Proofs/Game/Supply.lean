import TenPuzzle.Proofs.Game.Safety
import TenPuzzle.Proofs.Sweep.Order

/-!
The supply of problems. Of all games over one store the first one sweeps, and from then on every game has the list that
the sweep gave, in its order, from the store or from memory. If the sweep gave nothing, nothing is kept, and the next
game sweeps again.
-/

namespace TenPuzzle

/-! Stored sets. -/

/-- The store keeps these problems, which are in order: in a set that lists them in whatever order, or, if there are
none, not at all. -/
structure Store.Caches (problems : List String) (store : Store) : Prop where
  sorted : problems.Pairwise (· < ·)
  missing : problems = [] → store.get? poolKey = none
  stored : problems ≠ [] → ∃ set, store.get? poolKey = some ⟨.members set, none⟩ ∧
    ∀ text, text ∈ set.texts ↔ text ∈ problems

section

variable {problems : List String} {store later : Store}

theorem Store.Caches.congr (caches : store.Caches problems) (same : later.get? poolKey = store.get? poolKey) :
    later.Caches problems := by
  refine ⟨caches.sorted, ?_, ?_⟩
  · rw [same]
    exact caches.missing
  · rw [same]
    exact caches.stored

/-- The problems are read back in their order, however the store lists them. -/
theorem Store.Caches.reads (caches : store.Caches problems) : store.problems = problems := by
  by_cases nothing : problems = []
  · rw [problems_of_none (caches.missing nothing), nothing]
  · obtain ⟨set, found, same⟩ := caches.stored nothing
    rw [Store.problems, membersOf, setAt_of_get? found, Text.sortedDistinct_congr same,
      Text.sortedDistinct_of_sorted caches.sorted]

theorem Store.Caches.arranged (caches : store.Caches problems) (arrangement : Arrangement) :
    (store.arranged arrangement).Caches problems := by
  refine ⟨caches.sorted, ?_, ?_⟩
  · intro nothing
    rw [get?_arranged, caches.missing nothing]
    rfl
  · intro nonempty
    obtain ⟨set, found, same⟩ := caches.stored nonempty
    refine ⟨arrangement.order set, by rw [get?_arranged, found]; rfl, ?_⟩
    exact fun text => (arrangement.keeps set text).trans (same text)

theorem caches_addMembers (sorted : problems.Pairwise (· < ·)) (missing : store.get? poolKey = none) :
    (store.addMembers poolKey problems).Caches problems := by
  refine ⟨sorted, ?_, ?_⟩
  · rintro rfl
    exact missing
  · intro nonempty
    refine ⟨_, by rw [Store.get?_addMembers nonempty, if_pos rfl, missing]; rfl, ?_⟩
    intro text
    simp [Store.mem_addAll, Store.setAt_of_none missing, TextSet.empty]

end

/-- What is stored is read back in order, each text once, however the store lists it. -/
theorem storedProblems_after {stores reads : Moment} {session : Session} (keyed : session.store.IsKeyed)
    (texts : List String) (storable : stores.outage = none) (readable : reads.outage = none)
    (arrangement : Store.Arrangement) :
    let later := (storeProblems texts stores session).2
    (storedProblems reads { later with store := later.store.arranged arrangement }).1 =
      .ok (Text.sortedDistinct texts) := by
  intro later
  have isLater : later = ⟨((session.store.live stores.now).erase poolKey).addMembers poolKey texts, session.pool,
      session.asked⟩ := congrArg Prod.snd (storeProblems_eq storable session texts)
  have cleared := Store.get?_erase_self poolKey (session.store.live stores.now)
  have keyedLater : later.store.IsKeyed := by
    rw [isLater]
    exact ((keyed.live _).erase poolKey).addMembers poolKey texts
  have lives : ((later.store.arranged arrangement).live reads.now).problems = later.store.problems := by
    rw [← Store.problems_arranged arrangement later.store]
    apply Store.problems_congr
    rw [Store.get?_live keyedLater.arranged, Store.get?_arranged]
    cases found : later.store.get? poolKey with
    | none => rfl
    | some entry =>
        rw [isLater] at found
        obtain ⟨set, rfl⟩ := Store.members_of_addMembers cleared found
        rfl
  rw [storedProblems, query_reachable _ _ readable]
  dsimp only
  rw [lives, isLater, Store.problems_addMembers cleared]

/-! Sessions with a supply. -/

/-- A session that has the problems wherever it looks for them, and since it has them has not asked for others. -/
structure Session.Supplies (problems kept : List String) (asked : Nat) (session : Session) : Prop where
  keyed : session.store.IsKeyed
  caches : session.store.Caches problems
  remembered : session.pool = kept ∨ session.pool = problems
  unasked : problems ≠ [] → session.asked = asked

section

variable {rules : Rules} {problems kept : List String} {asked : Nat} {session : Session}

theorem Session.Supplies.isStocked (supplies : session.Supplies problems kept asked) : session.IsStocked := by
  refine ⟨supplies.keyed, ?_⟩
  intro entry found
  by_cases nothing : problems = []
  · rw [supplies.caches.missing nothing] at found
    cases found
  · obtain ⟨set, stored, _⟩ := supplies.caches.stored nothing
    rw [stored] at found
    exact ⟨set, (Option.some.inj found).symm⟩

theorem Session.Supplies.change {write : Store → Store} (supplies : session.Supplies problems kept asked)
    (keyed : (write session.store).IsKeyed)
    (pool : (write session.store).get? poolKey = session.store.get? poolKey) :
    (session.change write).Supplies problems kept asked :=
  ⟨keyed, supplies.caches.congr pool, supplies.remembered, supplies.unasked⟩

theorem Session.Supplies.live (supplies : session.Supplies problems kept asked) (now : Float) :
    (session.change (Store.live now)).Supplies problems kept asked :=
  supplies.change (supplies.keyed.live now) (get?_live_pool supplies.isStocked now)

theorem Session.Supplies.arranged (supplies : session.Supplies problems kept asked) (arrangement : Store.Arrangement) :
    (session.change (Store.arranged arrangement)).Supplies problems kept asked :=
  ⟨supplies.keyed.arranged, supplies.caches.arranged arrangement, supplies.remembered, supplies.unasked⟩

/-- Without problems in memory or in the store, a game sweeps. -/
theorem supplied_cold (keyed : session.store.IsKeyed) (uncached : session.store.get? poolKey = none)
    (noPool : session.pool = []) (rules : Rules) (now : Float) :
    (session.supplied rules now).pool = solvableProblems rules.solvable ∧
      (session.supplied rules now).asked = session.asked + problemCount ∧
      (session.supplied rules now).Supplies (solvableProblems rules.solvable) (solvableProblems rules.solvable)
        (session.asked + problemCount) := by
  have nothing : (session.store.live now).problems = [] := by
    apply Store.problems_of_none
    rw [Store.get?_live keyed, uncached]
    rfl
  have sorted := solvableProblems_sorted rules.solvable
  rw [Session.supplied, noPool, nothing]
  generalize solvableProblems rules.solvable = swept at sorted ⊢
  exact ⟨rfl, rfl, ((keyed.live now).erase poolKey).addMembers poolKey swept,
    caches_addMembers sorted (Store.get?_erase_self poolKey (session.store.live now)), .inl rfl, fun _ => rfl⟩

/-- With problems in memory or in the store, a game takes these and asks for nothing. -/
theorem Session.Supplies.supplied_warm (supplies : session.Supplies problems kept asked)
    (known : kept = [] ∨ kept = problems) (nonempty : problems ≠ []) (rules : Rules) (now : Float) :
    (session.supplied rules now).pool = problems ∧ (session.supplied rules now).Supplies problems kept asked := by
  have stored : (session.store.live now).problems = problems :=
    (problems_live supplies.isStocked now).trans supplies.caches.reads
  unfold Session.supplied
  dsimp only
  split
  · next isKept =>
      refine ⟨?_, supplies⟩
      rcases supplies.remembered with same | same
      · rcases known with rfl | rfl
        · rw [same] at isKept
          cases isKept
        · exact same
      · exact same
  · rw [stored, if_neg (by simpa using nonempty)]
    have lives := supplies.live now
    exact ⟨rfl, lives.keyed, lives.caches, .inr rfl, lives.unasked⟩

end

/-! Commands. -/

/-- A command that keeps an invariant, whether it succeeds or fails. -/
def Action.Keeps {α : Type} (invariant : Session → Prop) (moment : Moment) (action : Action α) : Prop :=
  action.Ensures invariant moment (fun _ => True) fun _ => True

section

variable {α : Type} {rules : Rules} {moment : Moment} {problems kept : List String} {asked : Nat}

theorem keeps_of_session {action : Action α} {invariant : Session → Prop}
    (keeps : ∀ session, invariant session → invariant (action moment session).2) : action.Keeps invariant moment := by
  intro session holds
  refine ⟨keeps session holds, ?_⟩
  split <;> trivial

theorem keeps_pure {value : α} {invariant : Session → Prop} : (pure value : Action α).Keeps invariant moment :=
  ensures_pure trivial

theorem keeps_fail {fault : GameFault} {invariant : Session → Prop} :
    (Action.fail fault : Action α).Keeps invariant moment :=
  ensures_fail trivial

theorem Action.Keeps.bind {β : Type} {action : Action α} {next : α → Action β} {invariant : Session → Prop}
    (first : action.Keeps invariant moment) (rest : ∀ value, (next value).Keeps invariant moment) :
    (action >>= next).Keeps invariant moment :=
  Action.Ensures.bind first fun value _ => rest value

theorem keeps_ofExcept {ε : Type} {wrap : ε → GameFault} {result : Except ε α} {invariant : Session → Prop} :
    (Action.ofExcept wrap result).Keeps invariant moment := by
  cases result with
  | error fault => exact keeps_fail
  | ok value => exact keeps_pure

theorem query_keeps (look : Store → α) : (Action.query look).Keeps (Session.Supplies problems kept asked) moment := by
  apply keeps_of_session
  intro session supplies
  cases outage : moment.outage with
  | some reason =>
      rw [query_unreachable look session outage, Session.purged, outage]
      exact supplies
  | none =>
      rw [query_reachable look session outage, purged_eq outage]
      exact supplies.live moment.now

theorem write_keeps {change : Float → Store → Store}
    (keyed : ∀ store : Store, store.IsKeyed → (change moment.now store).IsKeyed)
    (pool : ∀ store : Store, (change moment.now store).get? poolKey = store.get? poolKey) :
    (Action.write change).Keeps (Session.Supplies problems kept asked) moment := by
  apply keeps_of_session
  intro session supplies
  cases outage : moment.outage with
  | some reason =>
      simp only [Action.write, Action.command, outage]
      exact supplies
  | none =>
      rw [write_eq outage]
      have lives := supplies.live moment.now
      exact lives.change (keyed _ lives.keyed) (pool _)

theorem activeGame_keeps (seat : Seat) :
    (activeGame seat).Keeps (Session.Supplies problems kept asked) moment := by
  refine (query_keeps _).bind fun text => ?_
  cases text with
  | none => exact keeps_pure
  | some text =>
      dsimp only
      split
      · exact keeps_pure
      · exact keeps_ofExcept.bind fun game => keeps_pure

theorem requireGame_keeps (seat : Seat) :
    (requireGame seat).Keeps (Session.Supplies problems kept asked) moment := by
  refine (activeGame_keeps seat).bind fun game => ?_
  cases game with
  | none => exact keeps_fail
  | some game => exact keeps_pure

theorem saveGame_keeps (game : Game) :
    (saveGame rules game).Keeps (Session.Supplies problems kept asked) moment := by
  have apart := game.seat.key_ne_poolKey.symm
  refine keeps_ofExcept.bind fun text => ?_
  refine (write_keeps (fun _ keyed => keyed.put _ _) fun _ => ?_).bind fun _ => ?_
  · exact (Store.get?_put _ _ _ _).trans (if_neg apart)
  · exact write_keeps (fun _ keyed => keyed.expire _ _ _) fun _ => Store.get?_expire_of_ne apart _ _

theorem deleteGame_keeps (game : Game) :
    (deleteGame game).Keeps (Session.Supplies problems kept asked) moment :=
  write_keeps (fun _ keyed => keyed.erase _) fun _ =>
    (Store.get?_erase _ _ _).trans (if_neg game.seat.key_ne_poolKey.symm)

theorem storeOrFinish_keeps (game : Game) :
    (storeOrFinish rules game).Keeps (Session.Supplies problems kept asked) moment := by
  unfold storeOrFinish
  split
  · refine Action.Keeps.bind (keeps_of_session fun _ => id) fun moment => (deleteGame_keeps _).bind fun _ => ?_
    split
    · refine (write_keeps (fun _ keyed => keyed.put _ _) fun _ => ?_).bind fun _ => keeps_pure
      exact (Store.get?_put _ _ _ _).trans (if_neg (boardKey_ne_poolKey _).symm)
    · exact keeps_pure
  · exact (saveGame_keeps game).bind fun _ => keeps_pure

theorem submitAnswer_keeps [DepthLimit] (seat : Seat) (expression : List Char) :
    (submitAnswer rules seat expression).Keeps (Session.Supplies problems kept asked) moment := by
  refine (requireGame_keeps seat).bind fun game => ?_
  have judges : (judgeFor game expression).Keeps (Session.Supplies problems kept asked) moment := by
    unfold judgeFor
    split
    · exact keeps_pure
    · exact keeps_fail
    · split <;> exact keeps_fail
  exact judges.bind fun judged => keeps_ofExcept.bind fun result => (storeOrFinish_keeps _).bind fun _ => keeps_pure

theorem passProblem_keeps [DepthLimit] (seat : Seat) :
    (passProblem rules seat).Keeps (Session.Supplies problems kept asked) moment := by
  refine (requireGame_keeps seat).bind fun game => ?_
  have reveals : (revealFor game).Keeps (Session.Supplies problems kept asked) moment := by
    unfold revealFor
    split
    · exact keeps_ofExcept.bind fun solution => keeps_pure
    · exact keeps_fail
    · exact keeps_fail
  exact reveals.bind fun revealed => (storeOrFinish_keeps _).bind fun _ => keeps_pure

theorem cancelGame_keeps (seat : Seat) :
    (cancelGame seat).Keeps (Session.Supplies problems kept asked) moment := by
  refine (activeGame_keeps seat).bind fun game => ?_
  cases game with
  | none => exact keeps_pure
  | some game => exact (deleteGame_keeps game).bind fun _ => keeps_pure

theorem leaderboard_keeps (server : String) (limit : Option Int) :
    (leaderboard rules server limit).Keeps (Session.Supplies problems kept asked) moment := by
  apply keeps_of_session
  intro session supplies
  rw [leaderboard_session, Session.purged]
  split
  · exact supplies
  · exact supplies.live moment.now

theorem draw_session (count : Int) (pool : List String) (moment : Moment) (session : Session) :
    (draw count pool moment session).2 = session := by
  have looks : Action.moment moment session = (.ok moment, session) := rfl
  unfold draw
  rw [bind_of_ok looks]
  cases moment.draw with
  | none =>
      dsimp only
      split <;> rfl
  | some positions =>
      dsimp only
      split
      · cases positions.mapM (itemAt? pool) <;> rfl
      · split <;> rfl

variable (known : kept = [] ∨ kept = problems) (sweeps : problems = [] → solvableProblems rules.solvable = [])

include known sweeps

theorem ensureProblems_keeps : (ensureProblems rules).Keeps (Session.Supplies problems kept asked) moment := by
  apply keeps_of_session
  intro session supplies
  cases outage : moment.outage with
  | some reason =>
      rw [ensureProblems_unreachable outage]
      exact supplies
  | none =>
      rw [ensureProblems_eq rules outage]
      by_cases nothing : problems = []
      · have isKept : kept = [] := known.elim id fun same => same.trans nothing
        have noPool : session.pool = [] := supplies.remembered.elim (·.trans isKept) (·.trans nothing)
        obtain ⟨_, _, swept⟩ := supplied_cold supplies.keyed (supplies.caches.missing nothing) noPool rules moment.now
        rw [sweeps nothing] at swept
        rw [nothing, isKept]
        exact ⟨swept.keyed, swept.caches, swept.remembered, fun isSome => (isSome rfl).elim⟩
      · exact (supplies.supplied_warm known nothing rules moment.now).2

theorem drawProblems_keeps (count : Int) :
    (drawProblems rules count).Keeps (Session.Supplies problems kept asked) moment := by
  have draws (pool : List String) : (draw count pool).Keeps (Session.Supplies problems kept asked) moment := by
    apply keeps_of_session
    intro session supplies
    rwa [draw_session]
  refine (ensureProblems_keeps known sweeps).bind fun pool => ?_
  split
  · exact keeps_fail.bind fun _ => draws pool
  · exact draws pool

theorem createGame_keeps (seat : Seat) (mode : Option Int) :
    (createGame rules seat mode).Keeps (Session.Supplies problems kept asked) moment := by
  unfold createGame
  dsimp only
  split
  · exact ensures_fail_bind trivial
  · refine (activeGame_keeps seat).bind fun found => ?_
    split
    · exact ensures_fail_bind trivial
    · refine (drawProblems_keeps known sweeps _).bind fun drawn => ?_
      refine Action.Keeps.bind (keeps_of_session fun _ => id) fun moment => ?_
      exact (saveGame_keeps _).bind fun _ => keeps_pure

theorem Play.perform_keeps [DepthLimit] (seat : Seat) (play : Play) :
    (play.perform rules seat).Keeps (Session.Supplies problems kept asked) moment := by
  cases play with
  | create mode => exact (createGame_keeps known sweeps seat mode).bind fun _ => keeps_pure
  | answer expression => exact (submitAnswer_keeps seat expression).bind fun _ => keeps_pure
  | pass => exact (passProblem_keeps seat).bind fun _ => keeps_pure
  | look => exact (activeGame_keeps seat).bind fun _ => keeps_pure
  | cancel => exact (cancelGame_keeps seat).bind fun _ => keeps_pure

theorem Request.perform_keeps [DepthLimit] (request : Request) :
    (request.perform rules).Keeps (Session.Supplies problems kept asked) moment := by
  cases request with
  | move seat play => exact (Play.perform_keeps known sweeps seat play).bind fun _ => keeps_pure
  | rank server limit => exact (leaderboard_keeps server limit).bind fun _ => keeps_pure
  | stock => exact (ensureProblems_keeps known sweeps).bind fun _ => keeps_pure

end

/-! Games over one store. -/

/-- Games that share a store, each with a memory of its own, and how often they have asked the solver. -/
structure Hall where
  store : Store
  pools : Nat → List String
  asked : Nat

/-- Games are numbered. The first of them is number zero, and the others remember nothing yet. -/
def Hall.opened (first : Session) : Hall :=
  ⟨first.store, fun game => if game = 0 then first.pool else [], first.asked⟩

def Hall.session (game : Nat) (hall : Hall) : Session :=
  ⟨hall.store, hall.pools game, hall.asked⟩

def Hall.arranged (arrangement : Store.Arrangement) (hall : Hall) : Hall :=
  { hall with store := hall.store.arranged arrangement }

inductive Errand where
  | ask (request : Request)
  | draw (count : Int)

def Errand.perform [DepthLimit] (rules : Rules) : Errand → Action Unit
  | .ask request => request.perform rules
  | .draw count => do
    let _ ← drawProblems rules count
    return ()

/-- What some game does at some moment, under rules of its own, and in which order the store lists its sets then. -/
structure Use where
  game : Nat
  rules : Rules
  moment : Moment
  arrangement : Store.Arrangement
  errand : Errand

def Use.run [DepthLimit] (hall : Hall) (use : Use) : Hall :=
  let later := (use.errand.perform use.rules use.moment ((hall.arranged use.arrangement).session use.game)).2
  ⟨later.store, fun game => if game = use.game then later.pool else hall.pools game, later.asked⟩

def useAll [DepthLimit] (hall : Hall) (uses : List Use) : Hall :=
  uses.foldl Use.run hall

/-- Every game has the problems, and the first one in memory. -/
structure Hall.Supplies (problems : List String) (asked : Nat) (hall : Hall) : Prop where
  first : (hall.session 0).Supplies problems problems asked
  others : ∀ game, (hall.session game).Supplies problems [] asked

section

variable {rules : Rules} {moment : Moment} {problems kept : List String} {asked : Nat} {session : Session} {hall : Hall}
  {use : Use}

theorem opened_supplies (supplies : session.Supplies problems problems asked) :
    (Hall.opened session).Supplies problems asked := by
  refine ⟨⟨supplies.keyed, supplies.caches, supplies.remembered, supplies.unasked⟩, ?_⟩
  intro game
  refine ⟨supplies.keyed, supplies.caches, ?_, supplies.unasked⟩
  unfold Hall.opened Hall.session
  dsimp only
  split
  · exact .inr (supplies.remembered.elim id id)
  · exact .inl rfl

theorem Errand.perform_keeps [DepthLimit] (errand : Errand) (known : kept = [] ∨ kept = problems)
    (sweeps : problems = [] → solvableProblems rules.solvable = []) :
    (errand.perform rules).Keeps (Session.Supplies problems kept asked) moment := by
  cases errand with
  | ask request => exact Request.perform_keeps known sweeps request
  | draw count => exact (drawProblems_keeps known sweeps count).bind fun _ => keeps_pure

theorem Hall.Supplies.arranged (supplies : hall.Supplies problems asked) (arrangement : Store.Arrangement) :
    (hall.arranged arrangement).Supplies problems asked :=
  ⟨supplies.first.arranged arrangement, fun game => (supplies.others game).arranged arrangement⟩

/-- A game that does something keeps what it has, and what it did to the store is good for every other game. -/
theorem Use.run_supplies [DepthLimit] (supplies : hall.Supplies problems asked)
    (sweeps : problems = [] → solvableProblems use.rules.solvable = []) :
    (use.run hall).Supplies problems asked := by
  have keeps (kept : List String) (known : kept = [] ∨ kept = problems)
      (before : ((hall.arranged use.arrangement).session use.game).Supplies problems kept asked) :
      (use.errand.perform use.rules use.moment ((hall.arranged use.arrangement).session use.game)).2.Supplies problems
        kept asked :=
    (use.errand.perform_keeps known sweeps _ before).1
  have arranged := supplies.arranged use.arrangement
  have here := keeps [] (.inl rfl) (arranged.others use.game)
  have pools (game : Nat) (kept : List String) (known : kept = [] ∨ kept = problems)
      (before : ((hall.arranged use.arrangement).session game).Supplies problems kept asked) :
      ((use.run hall).session game).Supplies problems kept asked := by
    refine ⟨here.keyed, here.caches, ?_, here.unasked⟩
    unfold Use.run Hall.session
    dsimp only
    split
    · next same =>
        rw [same] at before
        exact (keeps kept known before).remembered
    · exact before.remembered
  exact ⟨pools 0 problems (.inr rfl) arranged.first, fun game => pools game [] (.inl rfl) (arranged.others game)⟩

theorem useAll_supplies [DepthLimit] (supplies : hall.Supplies problems asked) (uses : List Use)
    (sweep : problems = [] → ∀ use ∈ uses, solvableProblems use.rules.solvable = []) :
    (useAll hall uses).Supplies problems asked := by
  induction uses generalizing hall with
  | nil => exact supplies
  | cons use uses ih =>
      apply ih (Use.run_supplies supplies fun nothing => sweep nothing use List.mem_cons_self)
      exact fun nothing other member => sweep nothing other (.tail use member)

/-- A game that finds its problems in memory does not need the store. -/
theorem ensureProblems_remembered (rules : Rules) (moment : Moment) (isKept : session.pool = problems)
    (nonempty : problems ≠ []) : ensureProblems rules moment session = (.ok problems, session) := by
  have looks : Action.session moment session = (.ok session, session) := rfl
  unfold ensureProblems
  rw [bind_of_ok looks]
  dsimp only
  rw [isKept, if_pos (by simpa using nonempty)]
  rfl

theorem Hall.Supplies.ensures (supplies : hall.Supplies problems asked) (nonempty : problems ≠ []) {game : Nat}
    (found : game = 0 ∨ moment.outage = none) (rules : Rules) :
    ∃ later, ensureProblems rules moment (hall.session game) = (.ok problems, later) ∧ later.asked = asked := by
  rcases found with rfl | reachable
  · have isKept := supplies.first.remembered.elim id id
    exact ⟨_, ensureProblems_remembered rules moment isKept nonempty, supplies.first.unasked nonempty⟩
  · obtain ⟨isPool, still⟩ := (supplies.others game).supplied_warm (.inl rfl) nonempty rules moment.now
    refine ⟨_, ?_, still.unasked nonempty⟩
    rw [ensureProblems_eq rules reachable, isPool]

theorem drawProblems_of_ensured {later : Session}
    (ensures : ensureProblems rules moment session = (.ok problems, later)) (count : Int) :
    drawProblems rules count moment session =
      (if (problems.length : Int) < count then .error (.poolTooSmall problems.length)
        else (draw count problems moment later).1, later) := by
  unfold drawProblems
  rw [bind_of_ok ensures]
  split
  · exact bind_of_error rfl
  · exact Prod.ext rfl (draw_session count problems moment later)

end

/-- The pool is swept once. Over a store without a pool a game asks for every problem and has what the sweep gives.

If that is something, then whatever games over this store do afterwards, under whatever rules, each of them has the same
list in the same order and draws from it, and asks for nothing; the first one even when the store is out of reach. If it
is nothing, nothing is kept, and the next game sweeps again. And a list that is stored is read back in order, each text
once, whatever was stored before. All this does not depend on the order in which the store lists its sets, which may be
another one at each use. -/
theorem pool_is_swept_once [DepthLimit] (rules : Rules) (store : Store) (asked : Nat) (moment : Moment)
    (keyed : store.IsKeyed) (uncached : store.get? poolKey = none) (reachable : moment.outage = none) :
    let problems := solvableProblems rules.solvable
    ∃ first : Session,
      ensureProblems rules moment ⟨store, [], asked⟩ = (.ok problems, first) ∧
      first.asked = asked + problemCount ∧
      (problems ≠ [] → ∀ (uses : List Use) (arrangement : Store.Arrangement) (game : Nat) (others : Rules)
        (now : Moment), (game = 0 ∨ now.outage = none) →
        let session := ((useAll (.opened first) uses).arranged arrangement).session game
        ∃ later : Session,
          ensureProblems others now session = (.ok problems, later) ∧
          (∀ count, drawProblems others count now session =
            (if (problems.length : Int) < count then .error (.poolTooSmall problems.length)
              else (draw count problems now later).1, later)) ∧
          later.asked = first.asked) ∧
      (problems = [] → ∀ (uses : List Use), (∀ use ∈ uses, use.rules.solvable = rules.solvable) →
        (useAll (.opened first) uses).store.get? poolKey = none ∧
        ∀ (game : Nat) (now : Moment), now.outage = none →
          ∃ later : Session,
            ensureProblems rules now ((useAll (.opened first) uses).session game) = (.ok [], later) ∧
            later.asked = (useAll (.opened first) uses).asked + problemCount) ∧
      ∀ (texts : List String) (session : Session) (stores reads : Moment) (arrangement : Store.Arrangement),
        session.store.IsKeyed → stores.outage = none → reads.outage = none →
        let later := (storeProblems texts stores session).2
        ∃ listed, (storedProblems reads { later with store := later.store.arranged arrangement }).1 = .ok listed ∧
          listed.Pairwise (· < ·) ∧ ∀ text, text ∈ listed ↔ text ∈ texts := by
  intro problems
  obtain ⟨isPool, hasAsked, supplies⟩ := @supplied_cold ⟨store, [], asked⟩ keyed uncached rfl rules moment.now
  refine ⟨_, (ensureProblems_eq rules reachable _).trans (by rw [isPool]), hasAsked, ?_, ?_, ?_⟩
  · intro nonempty uses arrangement game others now found session
    have supplied := useAll_supplies (opened_supplies supplies) uses fun nothing => (nonempty nothing).elim
    obtain ⟨later, ensures, unasked⟩ := (supplied.arranged arrangement).ensures nonempty found others
    exact ⟨later, ensures, drawProblems_of_ensured ensures, unasked.trans hasAsked.symm⟩
  · intro nothing uses same
    have isEmpty : solvableProblems rules.solvable = [] := nothing
    have supplied := useAll_supplies (opened_supplies supplies) uses fun _ use member =>
      (same use member).symm ▸ isEmpty
    rw [isEmpty] at supplied
    have missing := supplied.first.caches.missing rfl
    refine ⟨missing, ?_⟩
    intro game now reaches
    have noPool := (supplied.others game).remembered.elim id id
    obtain ⟨isSwept, asksAgain, _⟩ := supplied_cold (supplied.others game).keyed missing noPool rules now.now
    exact ⟨_, (ensureProblems_eq rules reaches _).trans (by rw [isSwept, isEmpty]), asksAgain⟩
  · intro texts session stores reads arrangement isKeyed storable readable later
    exact ⟨_, storedProblems_after isKeyed texts storable readable arrangement, Text.sortedDistinct_pairwise texts,
      fun text => Text.mem_sortedDistinct⟩

section

attribute [local instance] DepthLimit.standard

theorem pool_is_swept_once_of_two_problems :
    let rules : Rules := ⟨.standard, fun problem => problem = "1234" || problem = "1235"⟩
    let others : Rules := ⟨.standard, fun _ => true⟩
    let moment : Moment := ⟨0.0, none, none⟩
    let reversed : Store.Arrangement :=
      ⟨fun set => ⟨set.texts.reverse, List.nodup_reverse.mpr set.distinct⟩, fun _ _ => List.mem_reverse⟩
    let start : Use := ⟨0, rules, moment, reversed, .ask (.move ⟨"1", "2", "3"⟩ (.create (some 1)))⟩
    let fresh : Use := ⟨1, others, moment, reversed, .draw 1⟩
    let problems := solvableProblems rules.solvable
    problems ≠ [] ∧ Store.empty.IsKeyed ∧ Store.empty.get? poolKey = none ∧
      ∃ first : Session, ensureProblems rules moment ⟨.empty, [], 0⟩ = (.ok problems, first) ∧
        first.asked = problemCount ∧
        ∃ later : Session,
          ensureProblems others moment (((useAll (.opened first) [start, fresh]).arranged reversed).session 2) =
            (.ok problems, later) ∧ later.asked = first.asked := by
  intro rules others moment reversed start fresh problems
  have nonempty : problems ≠ [] := by
    have swept : "1234" ∈ solvableProblems rules.solvable := by
      rw [solvableProblems_eq, List.mem_filter, List.mem_map]
      exact ⟨⟨1234, List.mem_range.mpr (by decide), by decide⟩, by decide +kernel⟩
    exact List.ne_nil_of_mem swept
  obtain ⟨first, ensures, hasAsked, warm, _⟩ :=
    pool_is_swept_once rules .empty 0 moment Store.isKeyed_empty rfl rfl
  obtain ⟨later, again, _, unasked⟩ := warm nonempty [start, fresh] reversed 2 others moment (.inr rfl)
  exact ⟨nonempty, Store.isKeyed_empty, rfl, first, ensures, hasAsked.trans (Nat.zero_add _), later, again, unasked⟩

end

end TenPuzzle
