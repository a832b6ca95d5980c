import TenPuzzle.Proofs.Game.Effect

/-!
The pool of problems and the draws from it. A session's pool stays what it is, whether it stands in memory,
in the store or is still to be swept, and a sample of it repeats nothing.
-/

namespace TenPuzzle

/-! Sessions over time. -/

/-- The pool of problems that games are drawn from. -/
def Session.problems (rules : Rules) (session : Session) : List String :=
  if !session.pool.isEmpty then session.pool
  else if session.store.problems.isEmpty then solvableProblems rules.solvable
  else session.store.problems

structure Session.IsStocked (session : Session) : Prop where
  keyed : session.store.IsKeyed
  lasting : ∀ entry, session.store.get? poolKey = some entry → ∃ texts, entry = ⟨.members texts, none⟩

/-! Stored problems. -/

namespace Store

theorem problems_eq_nil {store : Store} : store.problems = [] ↔ store.membersOf poolKey = [] :=
  Text.sortedDistinct_eq_nil

theorem problems_congr {store later : Store} (same : later.get? poolKey = store.get? poolKey) :
    later.problems = store.problems := by
  rw [problems, membersOf_congr same, problems]

theorem membersOf_of_none {store : Store} {key : String} (missing : store.get? key = none) :
    store.membersOf key = [] := by
  rw [membersOf, setAt_of_none missing]
  rfl

theorem problems_of_none {store : Store} (missing : store.get? poolKey = none) : store.problems = [] :=
  problems_eq_nil.mpr (membersOf_of_none missing)

/-- The order in which a store lists its sets does not matter. -/
theorem problems_arranged (arrangement : Arrangement) (store : Store) :
    (store.arranged arrangement).problems = store.problems :=
  Text.sortedDistinct_congr fun _ => mem_membersOf_arranged

/-- Where nothing was stored, what is stored then are these texts. -/
theorem problems_addMembers {store : Store} (missing : store.get? poolKey = none) (texts : List String) :
    (store.addMembers poolKey texts).problems = Text.sortedDistinct texts := by
  apply Text.sortedDistinct_congr
  intro text
  simp [mem_membersOf_addMembers, membersOf_of_none missing]

/-- A set that is made where there was none has no expiry. -/
theorem members_of_addMembers {store : Store} (missing : store.get? poolKey = none) {texts : List String}
    {entry : Entry} (found : (store.addMembers poolKey texts).get? poolKey = some entry) :
    ∃ set, entry = ⟨.members set, none⟩ := by
  by_cases nothing : texts = []
  · rw [nothing, addMembers_nil, missing] at found
    cases found
  · rw [get?_addMembers nothing, if_pos rfl, missing, Option.some.injEq] at found
    exact ⟨_, found.symm⟩

theorem get?_erase_self (key : String) (store : Store) : (store.erase key).get? key = none := by
  rw [get?_erase, if_pos rfl]

end Store

/-! Time. -/

/-- Time passes: the pool stays, and at any other key an entry stays or is gone because its time was over. -/
structure Session.Ages (rules : Rules) (now : Float) (before after : Session) : Prop where
  stocked : after.IsStocked
  problems : after.problems rules = before.problems rules
  kept : ∀ key, key ≠ poolKey → after.store.get? key = before.store.get? key ∨
    (∃ entry, before.store.get? key = some entry ∧ entry.isLive now = false) ∧ after.store.get? key = none

section

variable {rules : Rules} {now : Float} {before between after : Session}

theorem Session.IsStocked.ages (stocked : before.IsStocked) : before.Ages rules now before :=
  ⟨stocked, rfl, fun _ _ => .inl rfl⟩

theorem Session.Ages.trans (first : before.Ages rules now between) (second : between.Ages rules now after) :
    before.Ages rules now after := by
  refine ⟨second.stocked, second.problems.trans first.problems, ?_⟩
  intro key other
  rcases first.kept key other with same | ⟨isPast, gone⟩
  · rw [← same]
    exact second.kept key other
  · right
    rcases second.kept key other with same | ⟨⟨entry, found, _⟩, _⟩
    · exact ⟨isPast, same.trans gone⟩
    · rw [gone] at found
      cases found

theorem get?_live_pool (stocked : before.IsStocked) (now : Float) :
    (before.store.live now).get? poolKey = before.store.get? poolKey := by
  rw [Store.get?_live stocked.keyed]
  cases found : before.store.get? poolKey with
  | none => rfl
  | some entry =>
      obtain ⟨texts, rfl⟩ := stocked.lasting entry found
      rfl

/-- As time passes, nothing is written but the pool. -/
theorem Session.Ages.every {fits : String → Entry → Prop} (ages : before.Ages rules now after)
    (every : before.store.Every fits) (pool : ∀ texts, fits poolKey ⟨.members texts, none⟩) :
    after.store.Every fits := by
  intro key entry found
  by_cases isPool : key = poolKey
  · subst isPool
    obtain ⟨texts, rfl⟩ := ages.stocked.lasting entry found
    exact pool texts
  · rcases ages.kept key isPool with same | ⟨_, gone⟩
    · exact every key entry (same.symm.trans found)
    · rw [gone] at found
      cases found

theorem problems_live (stocked : before.IsStocked) (now : Float) :
    (before.store.live now).problems = before.store.problems :=
  Store.problems_congr (get?_live_pool stocked now)

theorem Session.IsStocked.live (stocked : before.IsStocked) :
    before.Ages rules now { before with store := before.store.live now } := by
  refine ⟨⟨stocked.keyed.live now, ?_⟩, ?_, ?_⟩
  · rw [get?_live_pool stocked]
    exact stocked.lasting
  · simp only [problems, problems_live stocked]
  · intro key _
    dsimp only
    rw [Store.get?_live stocked.keyed]
    cases found : before.store.get? key with
    | none => exact .inl rfl
    | some entry =>
        cases isLive : entry.isLive now with
        | true => exact .inl (by simp [isLive])
        | false => exact .inr ⟨⟨entry, rfl, isLive⟩, by simp [isLive]⟩

theorem Session.IsStocked.purged (stocked : before.IsStocked) (rules : Rules) (moment : Moment) :
    before.Ages rules moment.now (before.purged moment) := by
  unfold Session.purged
  split
  · exact stocked.ages
  · exact stocked.live

theorem problems_of_isEmpty (noPool : before.pool.isEmpty = true) :
    before.problems rules =
      if before.store.problems.isEmpty then solvableProblems rules.solvable else before.store.problems := by
  simp [Session.problems, noPool]

theorem Session.IsStocked.remembered (stocked : before.IsStocked) (noPool : before.pool.isEmpty = true) :
    before.Ages rules now { before with pool := before.problems rules } := by
  refine ⟨⟨stocked.keyed, stocked.lasting⟩, ?_, fun _ _ => .inl rfl⟩
  by_cases noProblems : (before.problems rules).isEmpty
  · rw [problems_of_isEmpty (by exact noProblems), problems_of_isEmpty noPool]
  · rw [problems, if_pos (by simpa using noProblems)]

theorem Session.IsStocked.swept (stocked : before.IsStocked) (asked : Nat) (noPool : before.pool.isEmpty = true)
    (noStored : before.store.problems.isEmpty = true) :
    before.Ages rules now
      ⟨(before.store.erase poolKey).addMembers poolKey (solvableProblems rules.solvable),
        solvableProblems rules.solvable, asked⟩ := by
  have found : before.problems rules = solvableProblems rules.solvable := by
    rw [problems_of_isEmpty noPool, if_pos noStored]
  have cleared : (before.store.erase poolKey).get? poolKey = none := Store.get?_erase_self poolKey before.store
  generalize isSwept : solvableProblems rules.solvable = swept at found ⊢
  refine ⟨⟨(stocked.keyed.erase poolKey).addMembers poolKey swept, ?_⟩, ?_, ?_⟩
  · exact fun entry there => Store.members_of_addMembers cleared there
  · rw [found]
    by_cases nothing : swept.isEmpty
    · have none : swept = [] := by simpa using nothing
      have noProblems : ((before.store.erase poolKey).addMembers poolKey swept).problems = [] := by
        rw [none, Store.addMembers_nil, Store.problems_of_none cleared]
      rw [problems_of_isEmpty (by exact nothing), noProblems, isSwept]
      rfl
    · rw [problems, if_pos (by simpa using nothing)]
  · intro key other
    left
    rw [Store.get?_addMembers_of_ne other, Store.get?_erase, if_neg other]

end

theorem storeProblems_eq {moment : Moment} (reachable : moment.outage = none) (session : Session)
    (problems : List String) :
    storeProblems problems moment session =
      (.ok (), ⟨((session.store.live moment.now).erase poolKey).addMembers poolKey problems, session.pool,
        session.asked⟩) := by
  unfold storeProblems
  apply (bind_of_ok (write_eq reachable session _)).trans
  by_cases nothing : problems.isEmpty
  · simp only [nothing, Bool.not_true, Bool.false_eq_true, if_false, Store.addMembers, if_true]
    rfl
  · simp only [nothing, Bool.not_false, if_true]
    rw [write_eq reachable]
    simp only [Store.live_erase, Store.live_live]

theorem sweepProblems_eq (rules : Rules) {moment : Moment} (reachable : moment.outage = none)
    (session : Session) :
    sweepProblems rules moment session =
      (.ok (solvableProblems rules.solvable),
        ⟨((session.store.live moment.now).erase poolKey).addMembers poolKey (solvableProblems rules.solvable),
          session.pool, session.asked + problemCount⟩) := by
  unfold sweepProblems
  apply (bind_of_ok (show Action.update _ moment session = (.ok (), _) from rfl)).trans
  exact (bind_of_ok (storeProblems_eq reachable _ _)).trans rfl

/-- A session once its pool is in memory. -/
def Session.supplied (rules : Rules) (now : Float) (session : Session) : Session :=
  let store := session.store.live now
  if !session.pool.isEmpty then session
  else if store.problems.isEmpty then
    ⟨(store.erase poolKey).addMembers poolKey (solvableProblems rules.solvable), solvableProblems rules.solvable,
      session.asked + problemCount⟩
  else ⟨store, store.problems, session.asked⟩

theorem ensureProblems_eq (rules : Rules) {moment : Moment} (reachable : moment.outage = none)
    (session : Session) :
    ensureProblems rules moment session =
      (.ok (session.supplied rules moment.now).pool, session.supplied rules moment.now) := by
  have looks : Action.session moment session = (.ok session, session) := rfl
  unfold ensureProblems Session.supplied
  rw [bind_of_ok looks]
  dsimp only
  split
  · rfl
  · have stores := query_reachable Store.problems session reachable
    rw [purged_eq reachable] at stores
    rw [storedProblems, bind_of_ok stores]
    split
    · rw [bind_of_ok (sweepProblems_eq rules reachable _)]
      simp only [Store.live_live]
      generalize solvableProblems rules.solvable = swept
      rfl
    · rfl

theorem Session.IsStocked.supplied {session : Session} (stocked : session.IsStocked) (rules : Rules) (now : Float) :
    (session.supplied rules now).pool = session.problems rules ∧
      session.Ages rules now (session.supplied rules now) := by
  unfold Session.supplied
  dsimp only
  split
  · next remembered => exact ⟨by simp [Session.problems, remembered], stocked.ages⟩
  · next forgotten =>
      have noPool : session.pool.isEmpty = true := by simpa using forgotten
      have aged : session.Ages rules now { session with store := session.store.live now } := stocked.live
      rw [← aged.problems, problems_of_isEmpty (by exact noPool)]
      split
      · next noStored =>
          have swept := @Session.IsStocked.swept rules now _ aged.stocked (session.asked + problemCount) noPool noStored
          generalize solvableProblems rules.solvable = found at swept ⊢
          exact ⟨rfl, aged.trans swept⟩
      · next isStored =>
          have remembered := @Session.IsStocked.remembered rules now _ aged.stocked noPool
          rw [problems_of_isEmpty (by exact noPool), if_neg isStored] at remembered
          exact ⟨rfl, aged.trans remembered⟩

theorem ensureProblems_ages (rules : Rules) {moment : Moment} {session : Session}
    (reachable : moment.outage = none) (stocked : session.IsStocked) :
    ∃ later, ensureProblems rules moment session = (.ok (session.problems rules), later) ∧
      session.Ages rules moment.now later := by
  obtain ⟨isPool, ages⟩ := stocked.supplied rules moment.now
  refine ⟨_, ?_, ages⟩
  rw [ensureProblems_eq rules reachable, isPool]

/-! Draws. -/

/-- The problems of a draw: those at the given positions, or so many from the front of the pool. -/
def Moment.Draws (moment : Moment) (pool problems : List String) : Prop :=
  problems = pool.take problems.length ∨
    ∃ positions, moment.draw = some positions ∧ positions.mapM (itemAt? pool) = some problems

/-- A sample takes each position at most once, and only positions that there are. -/
def Moment.Samples (moment : Moment) (size : Nat) : Prop :=
  ∀ positions, moment.draw = some positions →
    positions.Nodup ∧ ∀ position ∈ positions, 0 ≤ position ∧ position < (size : Int)

theorem mapM_eq_some {α β : Type} {look : α → Option β} {items : List α} {found : List β} :
    items.mapM look = some found ↔ List.Forall₂ (fun item result => look item = some result) items found := by
  induction items generalizing found with
  | nil => simp [eq_comm]
  | cons item items ih =>
      rw [List.forall₂_cons_left_iff, List.mapM_cons]
      simp only [Option.bind_eq_bind, Option.bind_eq_some_iff, Option.pure_def, Option.some.injEq, ih]
      constructor
      · rintro ⟨result, looks, results, all, rfl⟩
        exact ⟨result, results, looks, all, rfl⟩
      · rintro ⟨result, results, looks, all, rfl⟩
        exact ⟨result, looks, results, all, rfl⟩

theorem exists_mapM {α β : Type} {look : α → Option β} {items : List α}
    (all : ∀ item ∈ items, ∃ result, look item = some result) : ∃ found, items.mapM look = some found := by
  simp only [mapM_eq_some]
  induction items with
  | nil => exact ⟨[], .nil⟩
  | cons item items ih =>
      obtain ⟨result, looks⟩ := all item (by simp)
      obtain ⟨found, rest⟩ := ih fun other member => all other (by simp [member])
      exact ⟨result :: found, .cons looks rest⟩

theorem related_of_mem {α β : Type} {relation : α → β → Prop} {items : List α} {found : List β}
    (all : List.Forall₂ relation items found) {result : β} (member : result ∈ found) :
    ∃ item ∈ items, relation item result := by
  induction all with
  | nil => simp at member
  | @cons item first items found here later ih =>
      rcases List.mem_cons.mp member with rfl | member
      · exact ⟨item, by simp, here⟩
      · obtain ⟨other, isIn, relates⟩ := ih member
        exact ⟨other, by simp [isIn], relates⟩

section

variable {moment : Moment} {session : Session} {pool problems : List String} {count : Int}

theorem itemAt_natural {items : List String} {position : Int} (nonneg : 0 ≤ position) :
    itemAt? items position = items[position.toNat]? :=
  if_pos nonneg

theorem itemAt_inj (distinct : pool.Nodup) {left right : Int} {item : String}
    (inLeft : 0 ≤ left ∧ left < (pool.length : Int)) (inRight : 0 ≤ right ∧ right < (pool.length : Int))
    (atLeft : itemAt? pool left = some item) (atRight : itemAt? pool right = some item) : left = right := by
  rw [itemAt_natural inLeft.1] at atLeft
  rw [itemAt_natural inRight.1] at atRight
  have same := (List.getElem?_inj (by omega) distinct).mp (atLeft.trans atRight.symm)
  omega

theorem mem_of_itemAt {items : List String} {position : Int} {item : String}
    (found : itemAt? items position = some item) : item ∈ items := by
  unfold itemAt? at found
  split at found
  · exact List.mem_of_getElem? found
  · split at found
    · cases found
    · exact List.mem_of_getElem? found

/-- A draw has nothing that is not in the pool. -/
theorem Moment.Draws.subset (draws : moment.Draws pool problems) : ∀ problem ∈ problems, problem ∈ pool := by
  intro problem member
  rcases draws with isFront | ⟨positions, _, found⟩
  · rw [isFront] at member
    exact List.mem_of_mem_take member
  · obtain ⟨position, _, isAt⟩ := related_of_mem (mapM_eq_some.mp found) member
    exact mem_of_itemAt isAt

theorem drawn_distinct {positions : List Int} (distinct : pool.Nodup) (apart : positions.Nodup)
    (inside : ∀ position ∈ positions, 0 ≤ position ∧ position < (pool.length : Int))
    (found : List.Forall₂ (fun position item => itemAt? pool position = some item) positions problems) :
    problems.Nodup := by
  induction found with
  | nil => exact .nil
  | @cons position problem positions problems here later ih =>
      rw [List.nodup_cons] at apart
      rw [List.nodup_cons]
      refine ⟨?_, ih apart.2 fun other member => inside other (by simp [member])⟩
      intro again
      obtain ⟨other, member, there⟩ := related_of_mem later again
      have same := itemAt_inj distinct (inside position (by simp)) (inside other (by simp [member])) here there
      rw [same] at apart
      exact apart.1 member

/-- Whatever is sampled of a pool without repetitions has none either. -/
theorem Moment.Draws.distinct (draws : moment.Draws pool problems) (samples : moment.Samples pool.length)
    (distinct : pool.Nodup) : problems.Nodup := by
  rcases draws with isFront | ⟨positions, drawn, found⟩
  · rw [isFront]
    exact distinct.sublist (List.take_sublist _ _)
  · obtain ⟨apart, inside⟩ := samples positions drawn
    exact drawn_distinct distinct apart inside (mapM_eq_some.mp found)

theorem draw_front (nonneg : 0 ≤ count) (enough : count ≤ pool.length) :
    ((pool.take count.toNat).length : Int) = count ∧ moment.Draws pool (pool.take count.toNat) := by
  have length : (pool.take count.toNat).length = count.toNat := by
    rw [List.length_take]
    omega
  exact ⟨by omega, .inl (by rw [length])⟩

theorem draw_cases (count : Int) (pool : List String) (moment : Moment) (session : Session)
    (enough : count ≤ pool.length) :
    (∃ fault, draw count pool moment session = (.error fault, session)) ∨
      ∃ problems, draw count pool moment session = (.ok problems, session) ∧
        (problems.length : Int) = count ∧ moment.Draws pool problems := by
  have looks : Action.moment moment session = (.ok moment, session) := rfl
  unfold draw
  rw [bind_of_ok looks]
  cases drawn : moment.draw with
  | none =>
      dsimp only
      split
      · exact .inl ⟨_, rfl⟩
      · exact .inr ⟨_, rfl, draw_front (by omega) enough⟩
  | some positions =>
      dsimp only
      split
      · next length =>
          cases found : positions.mapM (itemAt? pool) with
          | none => exact .inl ⟨_, rfl⟩
          | some problems =>
              have lengths := (mapM_eq_some.mp found).length_eq
              exact .inr ⟨problems, rfl, by omega, .inr ⟨positions, drawn, found⟩⟩
      · split
        · exact .inl ⟨_, rfl⟩
        · exact .inr ⟨_, rfl, draw_front (by omega) enough⟩

theorem exists_drawn {positions : List Int} (samples : moment.Samples pool.length)
    (drawn : moment.draw = some positions) : ∃ problems, positions.mapM (itemAt? pool) = some problems := by
  apply exists_mapM
  intro position member
  obtain ⟨above, below⟩ := (samples positions drawn).2 position member
  rw [itemAt_natural above]
  exact ⟨_, List.getElem?_eq_getElem (by omega)⟩

/-- A sample of a pool that is large enough can be drawn. -/
theorem draw_samples (session : Session) (samples : moment.Samples pool.length) (nonneg : 0 ≤ count)
    (enough : count ≤ pool.length) :
    ∃ problems, draw count pool moment session = (.ok problems, session) ∧
      (problems.length : Int) = count ∧ moment.Draws pool problems := by
  rcases draw_cases count pool moment session enough with ⟨fault, fails⟩ | succeeds
  · have looks : Action.moment moment session = (.ok moment, session) := rfl
    unfold draw at fails
    rw [bind_of_ok looks] at fails
    cases drawn : moment.draw with
    | none =>
        rw [drawn] at fails
        dsimp only at fails
        rw [if_neg (by omega)] at fails
        cases fails
    | some positions =>
        obtain ⟨problems, found⟩ := exists_drawn samples drawn
        rw [drawn] at fails
        dsimp only at fails
        rw [found, if_neg (by omega : ¬count < 0)] at fails
        split at fails <;> cases fails
  · exact succeeds

end

section

variable {rules : Rules} {count : Int} {moment : Moment} {session : Session}

/-- A draw leaves a session with its pool in memory. -/
theorem drawProblems_cases (count : Int) (reachable : moment.outage = none) (stocked : session.IsStocked) :
    (∃ fault, drawProblems rules count moment session = (.error fault, session.supplied rules moment.now)) ∨
      ∃ problems, drawProblems rules count moment session = (.ok problems, session.supplied rules moment.now) ∧
        (problems.length : Int) = count ∧ count ≤ (session.problems rules).length ∧
        moment.Draws (session.problems rules) problems := by
  have ensures := ensureProblems_eq rules reachable session
  rw [(stocked.supplied rules moment.now).1] at ensures
  unfold drawProblems
  rw [bind_of_ok ensures]
  split
  · exact .inl ⟨_, rfl⟩
  · next few =>
      have enough : count ≤ (session.problems rules).length := by omega
      rcases draw_cases count (session.problems rules) moment (session.supplied rules moment.now) enough with
        ⟨fault, fails⟩ | ⟨problems, drawn, length, draws⟩
      · exact .inl ⟨fault, fails⟩
      · exact .inr ⟨problems, drawn, length, enough, draws⟩

theorem drawProblems_samples (reachable : moment.outage = none) (stocked : session.IsStocked)
    (samples : moment.Samples (session.problems rules).length) (nonneg : 0 ≤ count)
    (enough : count ≤ (session.problems rules).length) :
    ∃ problems later, drawProblems rules count moment session = (.ok problems, later) := by
  obtain ⟨later, ensures, ages⟩ := ensureProblems_ages rules reachable stocked
  obtain ⟨problems, drawn, _⟩ := draw_samples later samples nonneg enough
  refine ⟨problems, later, ?_⟩
  unfold drawProblems
  rw [bind_of_ok ensures, if_neg (by omega)]
  exact drawn

end

end TenPuzzle
