import TenPuzzle.Proofs.Game.Action
import TenPuzzle.Proofs.Game.StoredText
import TenPuzzle.Proofs.Store.Entries

/-!
What commands do to the store. While it is within reach, a command reads and writes it in one way, which
is given here without the session around it.
-/

namespace TenPuzzle

/-! Keys. -/

/-- A seat whose ids leave the separator of keys alone. -/
structure Seat.IsPlain (seat : Seat) : Prop where
  server : ':' ∉ seat.server.toList
  channel : ':' ∉ seat.channel.toList
  player : ':' ∉ seat.player.toList

theorem Seat.key_toList (seat : Seat) : seat.key.toList =
    "make10:game:".toList ++ (seat.server.toList ++ ':' ::
      (seat.channel.toList ++ ':' :: seat.player.toList)) := by
  change ("make10:game:" ++ seat.server ++ ":" ++ seat.channel ++ ":" ++ seat.player).toList = _
  simp only [String.toList_append, List.append_assoc]
  rfl

theorem boardKey_toList (server : String) :
    (boardKey server).toList = "make10:leaderboard:".toList ++ server.toList := by
  change ("make10:leaderboard:" ++ server).toList = _
  rw [String.toList_append]

theorem Seat.key_ne_boardKey (seat : Seat) (server : String) : seat.key ≠ boardKey server := by
  intro same
  have texts := congrArg String.toList same
  rw [seat.key_toList, boardKey_toList] at texts
  simp at texts

theorem Seat.key_ne_poolKey (seat : Seat) : seat.key ≠ poolKey := by
  intro same
  have texts := congrArg String.toList same
  rw [seat.key_toList] at texts
  simp [poolKey] at texts

theorem boardKey_ne_poolKey (server : String) : boardKey server ≠ poolKey := by
  intro same
  have texts := congrArg String.toList same
  rw [boardKey_toList] at texts
  simp [poolKey] at texts

theorem boardKey_inj {left right : String} : boardKey left = boardKey right ↔ left = right := by
  constructor
  · intro same
    have texts := congrArg String.toList same
    rw [boardKey_toList, boardKey_toList, List.append_cancel_left_eq] at texts
    exact String.toList_inj.mp texts
  · rintro rfl
    rfl

theorem split_separator {separator : Char} {left right leftRest rightRest : List Char}
    (inLeft : separator ∉ left) (inRight : separator ∉ right)
    (same : left ++ separator :: leftRest = right ++ separator :: rightRest) :
    left = right ∧ leftRest = rightRest := by
  induction left generalizing right with
  | nil =>
      cases right with
      | nil => exact ⟨rfl, (List.cons.inj same).2⟩
      | cons first right =>
          rw [List.nil_append, List.cons_append, List.cons.injEq] at same
          simp [same.1] at inRight
  | cons first left ih =>
      cases right with
      | nil =>
          rw [List.nil_append, List.cons_append, List.cons.injEq] at same
          simp [same.1] at inLeft
      | cons second right =>
          rw [List.cons_append, List.cons_append, List.cons.injEq] at same
          rw [List.mem_cons, not_or] at inLeft inRight
          obtain ⟨tails, rests⟩ := ih inLeft.2 inRight.2 same.2
          rw [same.1, tails]
          exact ⟨rfl, rests⟩

theorem Seat.key_inj {left right : Seat} (isLeft : left.IsPlain) (isRight : right.IsPlain) :
    left.key = right.key ↔ left = right := by
  constructor
  · intro same
    have texts := congrArg String.toList same
    rw [left.key_toList, right.key_toList, List.append_cancel_left_eq] at texts
    obtain ⟨servers, texts⟩ := split_separator isLeft.server isRight.server texts
    obtain ⟨channels, players⟩ := split_separator isLeft.channel isRight.channel texts
    cases left
    cases right
    simp_all [String.toList_inj]
  · rintro rfl
    rfl

/-! Reads and writes. -/

/-- The active game that a store keeps at a key. -/
def Store.gameAt (key : String) (store : Store) : Except StoredFault (Option Game) :=
  match store.text? key with
  | none => .ok none
  | some text =>
    if text.isEmpty then .ok none
    else (Game.ofText text).map fun game => if game.status = activeStatus then some game else none

theorem stored_of_gameAt {store : Store} {key : String} {game : Game} (found : store.gameAt key = .ok (some game)) :
    ∃ text expires, store.get? key = some ⟨.text text, expires⟩ ∧ Game.ofText text = .ok game := by
  unfold Store.gameAt at found
  split at found
  · cases found
  · next text isText =>
      obtain ⟨expires, stored⟩ := Store.text?_eq_some.mp isText
      split at found
      · cases found
      · cases reads : Game.ofText text with
        | error fault =>
            rw [reads] at found
            cases found
        | ok kept =>
            rw [reads] at found
            have same : (if kept.status = activeStatus then some kept else none) = some game := Except.ok.inj found
            split at same
            · cases same
              exact ⟨text, expires, stored, reads⟩
            · cases same

theorem gameAt_of_reads {store : Store} {key text : String} {game : Game} (isText : store.text? key = some text)
    (reads : Game.ofText text = .ok game) (active : game.status = activeStatus) :
    store.gameAt key = .ok (some game) := by
  unfold Store.gameAt
  rw [isText]
  dsimp only
  split
  · next isEmpty =>
      rw [String.isEmpty_iff.mp isEmpty] at reads
      cases reads
  · simp [reads, Except.map, active]

theorem gameAt_isStorable {store : Store} {key : String} {game : Game}
    (found : store.gameAt key = .ok (some game)) : game.IsStorable := by
  obtain ⟨text, expires, _, reads⟩ := stored_of_gameAt found
  exact Game.ofText_isStorable reads

def Game.ended (now : Float) (game : Game) : Game :=
  { game with status := endedStatus, endTime := some (.real now) }

/-- A game after a move, which ends it when no problem is left. -/
def Game.settled (now : Float) (game : Game) : Game :=
  if game.isFinished then game.ended now else game

/-- A game that is over, or that can be stored. -/
def Game.CanSettle (game : Game) : Prop :=
  game.isFinished = false → game.IsStorable

theorem Game.history_settled (now : Float) (game : Game) : (game.settled now).history = game.history := by
  unfold settled
  split <;> rfl

/-- The end of the time of a game that was saved at a moment. -/
def Rules.deadline (rules : Rules) (saved : Float) : Float :=
  saved + Float.ofInt rules.settings.lifetime

def Rules.entryOf (rules : Rules) (game : Game) (saved : Float) : Entry :=
  ⟨.text game.text, some (rules.deadline saved)⟩

def Store.credited (game : Game) (store : Store) : Store :=
  if 0 < game.correctCount then
    store.addScore (boardKey game.seat.server) game.seat.player (Float.ofInt game.correctCount)
  else store

def Store.saved (rules : Rules) (now : Float) (game : Game) (store : Store) : Store :=
  (store.putText game.seat.key game.text).expire now game.seat.key rules.settings.lifetime

def Store.settled (rules : Rules) (now : Float) (game : Game) (store : Store) : Store :=
  if game.isFinished then (store.erase game.seat.key).credited game else store.saved rules now game

section

variable {store : Store}

theorem Store.get?_saved (rules : Rules) (now : Float) (game : Game) (store : Store) (key : String) :
    (store.saved rules now game).get? key =
      if key = game.seat.key then
        if rules.settings.lifetime ≤ 0 then none
        else some (rules.entryOf game now)
      else store.get? key := by
  have stored : (store.putText game.seat.key game.text).get? game.seat.key = some ⟨.text game.text, none⟩ := by
    rw [putText, get?_put, if_pos rfl]
  rw [saved, get?_expire stored]
  split
  · rfl
  · next other => rw [putText, get?_put, if_neg other]

theorem Store.get?_credited (game : Game) (store : Store) {key : String} (other : key ≠ boardKey game.seat.server) :
    (store.credited game).get? key = store.get? key := by
  unfold credited
  split
  · rw [addScore, get?_put, if_neg other]
  · rfl

theorem Store.IsKeyed.saved (keyed : store.IsKeyed) (rules : Rules) (now : Float) (game : Game) :
    (store.saved rules now game).IsKeyed :=
  (keyed.put _ _).expire _ _ _

theorem Store.IsKeyed.credited (keyed : store.IsKeyed) (game : Game) : (store.credited game).IsKeyed := by
  unfold Store.credited
  split
  · exact keyed.put _ _
  · exact keyed

theorem Store.IsKeyed.settled (keyed : store.IsKeyed) (rules : Rules) (now : Float) (game : Game) :
    (store.settled rules now game).IsKeyed := by
  unfold Store.settled
  split
  · exact (keyed.erase _).credited game
  · exact keyed.saved rules now game

theorem Store.Every.saved {fits : String → Entry → Prop} (every : store.Every fits) {rules : Rules} {game : Game}
    {now : Float} (isFit : 0 < rules.settings.lifetime → fits game.seat.key (rules.entryOf game now)) :
    (store.saved rules now game).Every fits := by
  intro key entry found
  rw [Store.get?_saved] at found
  split at found
  · next same =>
      split at found
      · cases found
      · next lasting =>
          cases found
          rw [same]
          exact isFit (by omega)
  · exact every key entry found

/-- Beyond the key of its seat and the board of its server, a move of a game changes nothing. -/
theorem Store.get?_settled (rules : Rules) (now : Float) (game : Game) (store : Store) {key : String}
    (other : key ≠ game.seat.key) (unranked : key ≠ boardKey game.seat.server) :
    (store.settled rules now game).get? key = store.get? key := by
  unfold settled
  split
  · rw [get?_credited game _ unranked, get?_erase, if_neg other]
  · rw [get?_saved, if_neg other]

end

def Session.change (write : Store → Store) (session : Session) : Session :=
  { session with store := write session.store }

section

variable {moment : Moment} (reachable : moment.outage = none) (session : Session)

include reachable

theorem purged_eq : session.purged moment = { session with store := session.store.live moment.now } := by
  simp [Session.purged, reachable]

theorem write_eq (change : Float → Store → Store) :
    Action.write change moment session =
      (.ok (), { session with store := change moment.now (session.store.live moment.now) }) := by
  simp [Action.write, Action.command, reachable]

theorem activeGame_eq (seat : Seat) :
    activeGame seat moment session =
      (((session.store.live moment.now).gameAt seat.key).mapError .stored, session.purged moment) := by
  apply (bind_of_ok (query_reachable _ session reachable)).trans
  unfold Store.gameAt
  cases Store.text? seat.key (session.store.live moment.now) with
  | none => rfl
  | some text =>
      dsimp only
      split
      · rfl
      · cases Game.ofText text <;> rfl

theorem saveGame_eq (rules : Rules) {game : Game} (storable : game.IsStorable) :
    saveGame rules game moment session =
      (.ok (), { session with store := (session.store.live moment.now).saved rules moment.now game }) := by
  have encodes : Action.ofExcept .stored game.encode moment session = (.ok game.text, session) := by
    rw [Game.encode_eq storable]
    rfl
  apply (bind_of_ok encodes).trans
  apply (bind_of_ok (write_eq reachable session _)).trans
  rw [write_eq reachable]
  have isLive : Entry.isLive moment.now ⟨.text game.text, none⟩ = true := rfl
  simp only [Store.putText, Store.saved, Store.live_put isLive, Store.live_live]

theorem finishGame_eq (game : Game) :
    finishGame game moment session =
      (.ok (game.ended moment.now),
        { session with store := ((session.store.live moment.now).erase game.seat.key).credited game }) := by
  apply (bind_of_ok (show Action.moment moment session = (.ok moment, session) from rfl)).trans
  apply (bind_of_ok (write_eq reachable session _)).trans
  by_cases scored : 0 < game.correctCount
  · simp only [scored, if_true, Store.credited]
    apply (bind_of_ok (write_eq reachable _ _)).trans
    simp only [Store.live_erase, Store.live_live]
    rfl
  · simp only [scored, if_false, Store.credited]
    rfl

theorem storeOrFinish_eq (rules : Rules) {game : Game} (settles : game.CanSettle) :
    storeOrFinish rules game moment session =
      (.ok (game.settled moment.now),
        { session with store := (session.store.live moment.now).settled rules moment.now game }) := by
  unfold storeOrFinish Game.settled Store.settled
  split
  · exact finishGame_eq reachable session game
  · next unfinished =>
      have storable := settles (Bool.not_eq_true _ ▸ unfinished)
      exact (bind_of_ok (saveGame_eq reachable session rules storable)).trans rfl

theorem storeOrFinish_purged (rules : Rules) {game : Game} (settles : game.CanSettle) :
    storeOrFinish rules game moment (session.purged moment) =
      (.ok (game.settled moment.now),
        (session.purged moment).change (Store.settled rules moment.now game)) := by
  rw [storeOrFinish_eq reachable _ rules settles, purged_eq reachable, Store.live_live]
  rfl

end

/-- A game that cannot be stored is refused before anything is written. -/
theorem saveGame_unstorable (rules : Rules) {game : Game} (moment : Moment) (session : Session)
    (unstorable : ¬game.IsStorable) :
    saveGame rules game moment session = (.error (.stored .tooLong), session) := by
  have fails : Action.ofExcept .stored game.encode moment session = (.error (.stored .tooLong), session) := by
    rw [Game.encode_error unstorable]
    rfl
  exact bind_of_error fails

theorem storeOrFinish_unsettled (rules : Rules) {game : Game} (moment : Moment) (session : Session)
    (unsettled : ¬game.CanSettle) :
    storeOrFinish rules game moment session = (.error (.stored .tooLong), session) := by
  obtain ⟨unfinished, unstorable⟩ := Classical.not_imp.mp unsettled
  unfold storeOrFinish
  rw [if_neg (by simp [unfinished]), bind_of_error (saveGame_unstorable rules moment session unstorable)]

end TenPuzzle
