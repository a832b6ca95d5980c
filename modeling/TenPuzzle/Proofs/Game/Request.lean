import TenPuzzle.Proofs.Game.Bookkeeping

/-!
Requests: all that can be asked of the games, moves of players, leaderboards and the pool. Only a move of a
player can do more to a session than let time pass.
-/

namespace TenPuzzle

inductive Request where
  | move (seat : Seat) (play : Play)
  | rank (server : String) (limit : Option Int)
  | stock

/-- Of a request it is only told whether it succeeds. -/
def Request.perform [DepthLimit] (rules : Rules) : Request → Action Unit
  | .move seat play => do
    let _ ← play.perform rules seat
    return ()
  | .rank server limit => do
    let _ ← leaderboard rules server limit
    return ()
  | .stock => do
    let _ ← ensureProblems rules
    return ()

structure Call where
  moment : Moment
  request : Request

def Call.run [DepthLimit] (rules : Rules) (call : Call) (session : Session) : Except GameFault Unit × Session :=
  call.request.perform rules call.moment session

/-- The session after one call and another. -/
def callAll [DepthLimit] (rules : Rules) (start : Session) (calls : List Call) : Session :=
  calls.foldl (fun session call => (call.run rules session).2) start

section

variable {α β : Type} {action : Action α} {moment : Moment} {session : Session}

theorem discard_session : ((do let _ ← action; return ()) : Action Unit) moment session =
    ((action moment session).1.map fun _ => (), (action moment session).2) := by
  cases performed : action moment session with
  | mk result later =>
      cases result with
      | error fault => exact bind_of_error performed
      | ok value => exact (bind_of_ok performed).trans rfl

theorem mapM_session {run : α → Action β} {items : List α}
    (each : ∀ item ∈ items, (run item moment session).2 = session) :
    (items.mapM run moment session).2 = session := by
  have goes (done : List β) : (List.mapM.loop run items done moment session).2 = session := by
    induction items generalizing done with
    | nil => rfl
    | cons item items ih =>
        have here := each item List.mem_cons_self
        rw [List.mapM.loop]
        cases performed : run item moment session with
        | mk result later =>
            rw [performed] at here
            dsimp only at here
            subst here
            cases result with
            | error fault => rw [bind_of_error performed]
            | ok value =>
                rw [bind_of_ok performed]
                exact ih (fun other member => each other (.tail _ member)) _
  exact goes []

/-- Results of commands on items are results on one of the items each. -/
theorem mapM_related {later : Session} {relation : α → β → Prop} {run : α → Action β} {items : List α}
    {results : List β}
    (each : ∀ item value before after, run item moment before = (.ok value, after) → relation item value)
    (runs : items.mapM run moment session = (.ok results, later)) :
    ∀ result ∈ results, ∃ item ∈ items, relation item result := by
  have goes (done : List β) (loops : List.mapM.loop run items done moment session = (.ok results, later)) :
      ∀ result ∈ results, result ∈ done ∨ ∃ item ∈ items, relation item result := by
    clear runs
    induction items generalizing done session with
    | nil =>
        cases loops
        exact fun result member => .inl (List.mem_reverse.mp member)
    | cons item items ih =>
        rw [List.mapM.loop] at loops
        cases performed : run item moment session with
        | mk found between =>
            cases found with
            | error fault =>
                rw [bind_of_error performed] at loops
                cases loops
            | ok value =>
                rw [bind_of_ok performed] at loops
                intro result member
                rcases ih (value :: done) loops result member with isDone | ⟨other, isItem, relates⟩
                · rcases List.mem_cons.mp isDone with rfl | before
                  · exact .inr ⟨item, List.mem_cons_self, each item result session between performed⟩
                  · exact .inl before
                · exact .inr ⟨other, .tail _ isItem, relates⟩
  intro result member
  exact (goes [] runs result member).resolve_left List.not_mem_nil

end

section

variable {rules : Rules} {moment : Moment} {session : Session}

theorem leaderboard_session (rules : Rules) (server : String) (limit : Option Int) (moment : Moment)
    (session : Session) : (leaderboard rules server limit moment session).2 = session.purged moment := by
  unfold leaderboard
  cases outage : moment.outage with
  | some reason => rw [bind_of_error (query_unreachable _ session outage)]
  | none =>
      rw [bind_of_ok (query_reachable _ session outage)]
      apply mapM_session
      intro line _
      cases whole : Number.wholePart line.2 with
      | error fault => exact congrArg Prod.snd (bind_of_error rfl)
      | ok value => exact congrArg Prod.snd (bind_of_ok rfl)

theorem ensureProblems_unreachable {reason : String} (outage : moment.outage = some reason) (session : Session) :
    (ensureProblems rules moment session).2 = session := by
  have looks : Action.session moment session = (.ok session, session) := rfl
  have same : session.purged moment = session := by simp [Session.purged, outage]
  have stores := query_unreachable Store.problems session outage
  rw [same] at stores
  unfold ensureProblems
  rw [bind_of_ok looks]
  dsimp only
  split
  · rfl
  · rw [storedProblems, bind_of_error stores]

/-- The pool is given as it is, and time passes at most. -/
theorem ensureProblems_gives (stocked : session.IsStocked) :
    session.Ages rules moment.now (ensureProblems rules moment session).2 ∧
      ∀ problems, (ensureProblems rules moment session).1 = .ok problems → problems = session.problems rules := by
  cases outage : moment.outage with
  | none =>
      obtain ⟨later, ensures, ages⟩ := ensureProblems_ages rules outage stocked
      rw [ensures]
      refine ⟨ages, ?_⟩
      rintro problems ⟨⟩
      rfl
  | some reason =>
      rw [ensureProblems_unreachable outage]
      refine ⟨stocked.ages, ?_⟩
      intro problems gives
      have looks : Action.session moment session = (.ok session, session) := rfl
      unfold ensureProblems at gives
      rw [bind_of_ok looks] at gives
      dsimp only at gives
      split at gives
      · next kept =>
          cases gives
          rw [Session.problems, if_pos kept]
      · rw [storedProblems, bind_of_error (query_unreachable _ session outage)] at gives
        cases gives

theorem Call.run_move [DepthLimit] (rules : Rules) (moment : Moment) (seat : Seat) (play : Play) (session : Session) :
    (Call.run rules ⟨moment, .move seat play⟩ session).2 = (Step.run rules ⟨moment, seat, play⟩ session).2 := by
  unfold Call.run Request.perform Step.run
  dsimp only
  rw [discard_session]

/-- A call is a move, or lets time pass. -/
theorem Call.run_cases [DepthLimit] (rules : Rules) (call : Call) (stocked : session.IsStocked) :
    (∃ seat play, call.request = .move seat play ∧
      (call.run rules session).2 = (Step.run rules ⟨call.moment, seat, play⟩ session).2) ∨
      session.Ages rules call.moment.now (call.run rules session).2 := by
  obtain ⟨moment, request⟩ := call
  cases request with
  | move seat play => exact .inl ⟨seat, play, rfl, Call.run_move rules moment seat play session⟩
  | rank server limit =>
      right
      unfold Call.run Request.perform
      dsimp only
      rw [discard_session, leaderboard_session]
      exact stocked.purged rules moment
  | stock =>
      right
      unfold Call.run Request.perform
      dsimp only
      rw [discard_session]
      exact (ensureProblems_gives stocked).1

end

section

variable [DepthLimit] {rules : Rules} {start : Session} {calls : List Call}

theorem callAll_concat (call : Call) :
    callAll rules start (calls ++ [call]) = (call.run rules (callAll rules start calls)).2 :=
  List.foldl_concat _ _ _ _

/-- What every call keeps holds after every run of calls. -/
theorem callAll_keeps {invariant : Session → Prop} (begins : invariant start)
    (continues : ∀ session, ∀ call ∈ calls, invariant session → invariant (call.run rules session).2) :
    invariant (callAll rules start calls) := by
  induction calls using List.reverseRecOn with
  | nil => exact begins
  | append_singleton calls call ih =>
      rw [callAll_concat]
      apply continues _ call (by simp)
      exact ih fun session other member => continues session other (by simp [member])

theorem callAll_isStocked (stocked : start.IsStocked) : (callAll rules start calls).IsStocked := by
  apply callAll_keeps stocked
  intro session call _ kept
  rcases call.run_cases rules kept with ⟨seat, play, _, same⟩ | passes
  · rw [same]
    exact (Step.turn rules ⟨call.moment, seat, play⟩ kept).stocked.1
  · exact passes.stocked

end

end TenPuzzle
