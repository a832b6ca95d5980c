import TenPuzzle.Game.Session

/-!
How commands compose: what a sequence of commands gives, read off its parts.
-/

namespace TenPuzzle

variable {α β : Type}

theorem bind_of_ok {action : Action α} {next : α → Action β} {moment : Moment}
    {session later : Session} {value : α} (succeeds : action moment session = (.ok value, later)) :
    (action >>= next) moment session = next value moment later := by
  change Action.bind action next moment session = _
  simp only [Action.bind, succeeds]

theorem bind_of_error {action : Action α} {next : α → Action β} {moment : Moment}
    {session later : Session} {fault : GameFault} (fails : action moment session = (.error fault, later)) :
    (action >>= next) moment session = (.error fault, later) := by
  change Action.bind action next moment session = _
  simp only [Action.bind, fails]

/-- What follows on a command does not matter for the session if it leaves every session as it is. -/
theorem bind_session {action : Action α} {next : α → Action β} {moment : Moment} {session : Session}
    (quiet : ∀ value later, (next value moment later).2 = later) :
    ((action >>= next) moment session).2 = (action moment session).2 := by
  cases performed : action moment session with
  | mk result later =>
      cases result with
      | error fault => rw [bind_of_error performed]
      | ok value =>
          rw [bind_of_ok performed]
          exact quiet value later

/-- A session after the store was looked at: without the entries whose time has passed, unless the
store is out of reach. -/
def Session.purged (session : Session) (moment : Moment) : Session :=
  match moment.outage with
  | some _ => session
  | none => { session with store := session.store.live moment.now }

theorem query_reachable (look : Store → α) {moment : Moment} (session : Session)
    (reachable : moment.outage = none) :
    Action.query look moment session =
      (.ok (look (session.store.live moment.now)), session.purged moment) := by
  simp [Action.query, Action.command, Session.purged, reachable]

theorem query_unreachable (look : Store → α) {moment : Moment} (session : Session) {reason : String}
    (outage : moment.outage = some reason) :
    Action.query look moment session = (.error (.unreachable reason), session.purged moment) := by
  simp [Action.query, Action.command, Session.purged, outage]

theorem activeGame_unreachable (seat : Seat) {moment : Moment} (session : Session) {reason : String}
    (outage : moment.outage = some reason) :
    activeGame seat moment session = (.error (.unreachable reason), session) := by
  have same : session.purged moment = session := by simp [Session.purged, outage]
  have query := query_unreachable (Store.text? seat.key) session outage
  rw [same] at query
  exact bind_of_error query

/-- Looking for a game only drops what has expired. -/
theorem activeGame_session (seat : Seat) (moment : Moment) (session : Session) :
    (activeGame seat moment session).2 = session.purged moment := by
  unfold activeGame
  cases outage : moment.outage with
  | some reason => rw [bind_of_error (query_unreachable _ session outage)]
  | none =>
      rw [bind_of_ok (query_reachable _ session outage)]
      cases Store.text? seat.key (session.store.live moment.now) with
      | none => rfl
      | some text =>
          simp only
          split
          · rfl
          · cases Game.ofText text <;> rfl

theorem requireGame_session (seat : Seat) (moment : Moment) (session : Session) :
    (requireGame seat moment session).2 = session.purged moment := by
  refine (bind_session ?_).trans (activeGame_session seat moment session)
  intro found later
  cases found <;> rfl

end TenPuzzle
