import TenPuzzle.Proofs.Bot.Reaction

/-!
What players see. The problem that a player was shown last is the one that the stored game is at, and so the one that
the player's next move is judged by. In between others may write, and steps may fail; what was said counts as shown.
-/

namespace TenPuzzle

/-! Places. -/

/-- Where a message comes from: its server, channel and author. -/
def Message.place (message : Message) : Option Int × Int × Int :=
  (message.guild, message.channel, message.author)

section

variable {left right message : Message}

theorem toString_inj {left right : Int} (same : toString left = toString right) : left = right := by
  have digits {first second : Nat} (equal : Number.decimalDigits first = Number.decimalDigits second) :
      first = second := by
    rw [← Number.valueOfDigits_decimalDigits first, equal, Number.valueOfDigits_decimalDigits]
  have unsigned (value : Nat) (rest : List Char) : Number.decimalDigits value ≠ '-' :: rest := by
    intro isSigned
    exact decimalDigits_lack (by decide : '-'.isDigit = false) value (isSigned ▸ List.mem_cons_self)
  have texts := congrArg String.toList same
  rw [Json.integer_toList, Json.integer_toList] at texts
  split at texts
  · split at texts
    · have magnitudes := digits (List.cons.inj texts).2
      omega
    · exact (unsigned _ _ texts.symm).elim
  · split at texts
    · exact (unsigned _ _ texts).elim
    · have magnitudes := digits texts
      omega

/-- No server's number reads like the mark of a direct message. -/
theorem direct_ne (guild : Int) : "dm" ≠ toString guild := by
  intro same
  have lacks := (lacks_int (by decide : 'd'.isDigit = false) (by decide) guild).absent
  rw [← same] at lacks
  exact lacks (by decide)

theorem seat_eq_iff : left.seat = right.seat ↔ left.place = right.place := by
  constructor
  · intro same
    have channels : left.channel = right.channel := toString_inj (congrArg Seat.channel same)
    have authors : left.author = right.author := toString_inj (congrArg Seat.player same)
    have servers : left.seat.server = right.seat.server := congrArg Seat.server same
    have guilds : left.guild = right.guild := by
      unfold Message.seat at servers
      cases isLeft : left.guild with
      | none =>
          cases isRight : right.guild with
          | none => rfl
          | some guild =>
              rw [isLeft, isRight] at servers
              exact (direct_ne guild servers).elim
      | some guild =>
          cases isRight : right.guild with
          | none =>
              rw [isLeft, isRight] at servers
              exact (direct_ne guild servers.symm).elim
          | some other =>
              rw [isLeft, isRight] at servers
              exact congrArg some (toString_inj servers)
    rw [Message.place, Message.place, channels, authors, guilds]
  · intro same
    obtain ⟨guilds, rest⟩ := Prod.mk.inj same
    obtain ⟨channels, authors⟩ := Prod.mk.inj rest
    rw [Message.seat, Message.seat, guilds, channels, authors]

theorem seat_isPlain (message : Message) : message.seat.IsPlain := by
  have plain (value : Int) := (lacks_int (by decide : ':'.isDigit = false) (by decide) value).absent
  refine ⟨?_, plain message.channel, plain message.author⟩
  unfold Message.seat
  cases message.guild with
  | none => exact show ':' ∉ "dm".toList by decide
  | some guild => exact plain guild

end

/-! Games and what was shown of them. -/

/-- Whatever game is stored at a seat, this is what the problem in play looks like. -/
def Session.Heads (session : Session) (seat : Seat) (shown : Option (List (List Char))) : Prop :=
  ∀ text game, session.store.text? seat.key = some text → Game.ofText text = .ok game → game.heading? = shown

section

variable {rules : Rules} {pool : List String} {step : Step} {before after : Session} {seat : Seat}
  {shown : Option (List (List Char))} {game : Game} {attempt : Attempt} {outcome : Except GameFault Outcome}

theorem Game.IsRunning.heading (running : game.IsRunning rules pool AreProblems) :
    ∃ lines, game.heading? = some lines := by
  obtain ⟨digits, _, plays⟩ := running.spot
  exact ⟨_, heading_eq plays⟩

theorem heading_record (stays : attempt.advances = false) : (game.record attempt).heading? = game.heading? := by
  have same : (game.record attempt).current = game.current := by
    have noMove : (attempt.correct || attempt.passed) = false := stays
    simp [Game.record, noMove]
  unfold Game.heading? Game.spot Game.isFinished
  rw [same]
  rfl

theorem heads_of_none (gone : after.store.get? seat.key = none) : after.Heads seat shown := by
  intro text game isText
  obtain ⟨expires, stored⟩ := Store.text?_eq_some.mp isText
  rw [gone] at stored
  cases stored

theorem heads_of_entry {text : String} {expires : Option Float}
    (stored : after.store.get? seat.key = some ⟨.text text, expires⟩) (reads : Game.ofText text = .ok game)
    (heading : game.heading? = shown) : after.Heads seat shown := by
  intro found kept isText isGame
  obtain ⟨_, isStored⟩ := Store.text?_eq_some.mp isText
  rw [stored] at isStored
  cases isStored
  rw [reads] at isGame
  cases isGame
  exact heading

theorem Session.Heads.congr (heads : before.Heads seat shown)
    (same : after.store.get? seat.key = before.store.get? seat.key) : after.Heads seat shown := by
  intro text game isText
  obtain ⟨expires, stored⟩ := Store.text?_eq_some.mp isText
  exact heads text game (Store.text?_eq_some.mpr ⟨expires, same.symm.trans stored⟩)

theorem Session.Heads.ages {now : Float} (heads : before.Heads seat shown) (ages : before.Ages rules now after) :
    after.Heads seat shown := by
  rcases ages.kept _ seat.key_ne_poolKey with same | ⟨_, gone⟩
  · exact heads.congr same
  · exact heads_of_none gone

theorem heads_of_found (stocked : before.IsStocked) (found : step.found before = .ok (some game)) :
    before.Heads step.seat game.heading? := by
  obtain ⟨text, expires, stored, reads, _⟩ := entry_of_found stocked found
  exact heads_of_entry stored reads rfl

/-- At other seats a turn leaves everything as it was shown. -/
theorem Turn.heads_elsewhere [DepthLimit] (turn : Turn rules step before outcome after)
    (tellable : before.IsTellable rules pool) (plain : step.seat.IsPlain) (seatPlain : seat.IsPlain)
    (other : step.seat ≠ seat) (heads : before.Heads seat shown) : after.Heads seat shown := by
  obtain ⟨between, ages, same⟩ := turn.elsewhere tellable.stocked tellable.games plain seatPlain other
  exact (heads.ages ages).congr same

/-- What can be read at the seat of a saved game is this game. -/
theorem read_of_saved {now : Float} {text : String} {kept : Game} (storable : game.IsStorable)
    (isSeat : game.seat.key = seat.key)
    (isText : (before.change (Store.saved rules now game)).store.text? seat.key = some text)
    (reads : Game.ofText text = .ok kept) : kept = game := by
  obtain ⟨expires, isStored⟩ := Store.text?_eq_some.mp isText
  have saves := isStored.symm.trans (Store.get?_saved rules now game before.store seat.key)
  rw [if_pos isSeat.symm] at saves
  split at saves
  · cases saves
  · cases saves
    rw [Game.ofText_text storable] at reads
    cases reads
    rfl

theorem heads_of_saved {now : Float} (storable : game.IsStorable) (isSeat : game.seat.key = seat.key)
    (heading : game.heading? = shown) : (before.change (Store.saved rules now game)).Heads seat shown := by
  intro text kept isText reads
  rw [read_of_saved storable isSeat isText reads]
  exact heading

theorem get?_ended {now : Float} (finished : game.isFinished = true) (isSeat : game.seat.key = seat.key) :
    (before.change (Store.settled rules now game)).store.get? seat.key = none := by
  unfold Session.change Store.settled
  rw [if_pos finished]
  dsimp only
  rw [Store.get?_credited _ _ (seat.key_ne_boardKey _), Store.get?_erase, if_pos isSeat.symm]

theorem heads_of_ended {now : Float} (finished : game.isFinished = true) (isSeat : game.seat.key = seat.key) :
    (before.change (Store.settled rules now game)).Heads seat shown :=
  heads_of_none (get?_ended finished isSeat)

theorem settled_of_unfinished {now : Float} (unfinished : game.isFinished = false) :
    Store.settled rules now game = Store.saved rules now game := by
  funext store
  rw [Store.settled, unfinished, if_neg Bool.false_ne_true]

theorem gameAt_settled {now : Float} (settles : game.CanSettle) (unfinished : game.isFinished = false)
    (active : game.status = activeStatus) (lasting : 0 < rules.settings.lifetime) (isSeat : game.seat.key = seat.key) :
    (before.change (Store.settled rules now game)).store.gameAt seat.key = .ok (some game) := by
  have stored : (before.change (Store.settled rules now game)).store.get? seat.key =
      some (rules.entryOf game now) := by
    rw [settled_of_unfinished unfinished]
    refine (Store.get?_saved _ _ _ _ _).trans ?_
    rw [if_pos isSeat.symm, if_neg (by omega)]
  exact gameAt_of_text stored (settles unfinished) active

/-- A turn that brings a problem up leaves a game at this problem, and any other leaves the problem as it was. -/
theorem Turn.heads [DepthLimit] (turn : Turn rules step before outcome after) (tellable : before.IsTellable rules pool)
    (modes : ∀ mode ∈ rules.settings.modes, 1 ≤ mode) (isPool : IsPool pool) (player : IsCalm step.seat.player)
    (heads : before.Heads step.seat shown) : after.Heads step.seat ((shownBy? outcome).or shown) := by
  have tells := (turn.isTellable tellable modes isPool player).2
  cases turn with
  | fails ages => exact heads.ages ages
  | @finds found after ages isFound =>
      cases found with
      | none => exact heads.ages ages
      | some game =>
          obtain ⟨lines, heading⟩ := (tellable.found isFound).1.heading
          have shows : shownBy? (.ok (.found (some game))) = game.heading? := rfl
          rw [shows, heading, Option.some_or, ← heading]
          exact (heads_of_found tellable.stocked isFound).ages ages
  | leaves ages => exact heads.ages ages
  | @drops game between ages isFound =>
      apply heads_of_none
      have isSeat := (found_of_holds tellable.stocked tellable.games isFound).1
      exact (Store.get?_erase _ _ _).trans (if_pos isSeat.symm)
  | @starts mode problems between ages isFound offered length enough draws storable =>
      have running : (Game.fresh step.seat mode problems step.moment.now).IsRunning rules pool AreProblems :=
        (tells _ rfl).1
      obtain ⟨lines, heading⟩ := running.heading
      refine heads_of_saved storable rfl ?_
      change _ = (Game.fresh step.seat mode problems step.moment.now).heading?.or shown
      rw [heading, Option.some_or]
  | @records game attempt between ages isFound takes settles =>
      obtain ⟨isSeat, running⟩ := found_of_holds tellable.stocked tellable.games isFound
      cases finished : (game.record attempt).isFinished with
      | true => exact heads_of_ended finished isSeat
      | false =>
          have settled : (game.record attempt).settled step.moment.now = game.record attempt := by
            rw [Game.settled, finished, if_neg Bool.false_ne_true]
          rw [settled, settled_of_unfinished finished]
          refine heads_of_saved (settles finished) isSeat ?_
          change _ = (if attempt.advances then (game.record attempt).heading? else none).or shown
          cases advances : attempt.advances with
          | true =>
              obtain ⟨lines, heading⟩ := (running.next takes finished).heading
              rw [if_pos rfl, heading, Option.some_or]
          | false =>
              obtain ⟨text, expires, stored, reads, _⟩ := entry_of_found tellable.stocked isFound
              have before := heads text game (Store.text?_eq_some.mpr ⟨expires, stored⟩) reads
              rw [heading_record advances, before, if_neg Bool.false_ne_true, Option.none_or]

/-! Games that have one attempt more. -/

/-- A game at whose key only time has passed is the same game. -/
theorem told_of_ages {now : Float} {between : Session} {told : Game} (stocked : before.IsStocked)
    (found : (before.store.live now).gameAt seat.key = .ok (some game)) (ages : before.Ages rules now between)
    (same : after.store.get? seat.key = between.store.get? seat.key)
    (later : after.store.gameAt seat.key = .ok (some told)) : told = game := by
  have isFound : Step.found ⟨⟨now, none, none⟩, seat, .look⟩ before = .ok (some game) := found
  obtain ⟨text, expires, stored, reads, _⟩ := entry_of_found stocked isFound
  obtain ⟨left, deadline, isLeft, leftReads⟩ := stored_of_gameAt later
  rw [same] at isLeft
  rcases ages.kept _ seat.key_ne_poolKey with kept | ⟨_, gone⟩
  · rw [kept, stored] at isLeft
    cases isLeft
    rw [reads] at leftReads
    cases leftReads
    rfl
  · rw [gone] at isLeft
    cases isLeft

theorem not_adds_of_ages {now : Float} {between : Session} {told : Game} (stocked : before.IsStocked)
    (found : (before.store.live now).gameAt seat.key = .ok (some game)) (ages : before.Ages rules now between)
    (same : after.store.get? seat.key = between.store.get? seat.key)
    (later : after.store.gameAt seat.key = .ok (some told)) : told.history ≠ game.history ++ [attempt] := by
  rw [told_of_ages stocked found ages same later]
  simp

/-- If a game has one attempt more after a turn, this attempt was made at the problem in play. -/
theorem Turn.takes_of_adds [DepthLimit] {told : Game} (turn : Turn rules step before outcome after)
    (tellable : before.IsTellable rules pool) (found : step.found before = .ok (some game))
    (later : after.store.gameAt step.seat.key = .ok (some told)) (adds : told.history = game.history ++ [attempt]) :
    game.Takes attempt := by
  have passes {between : Session} (ages : before.Ages rules step.moment.now between)
      (same : after.store.get? step.seat.key = between.store.get? step.seat.key) : game.Takes attempt :=
    (not_adds_of_ages tellable.stocked found ages same later adds).elim
  have gone (missing : after.store.get? step.seat.key = none) : game.Takes attempt := by
    obtain ⟨text, expires, stored, _⟩ := stored_of_gameAt later
    rw [missing] at stored
    cases stored
  cases turn with
  | fails ages => exact passes ages rfl
  | finds ages => exact passes ages rfl
  | leaves ages => exact passes ages rfl
  | drops ages isFound =>
      have isSeat := (found_of_holds tellable.stocked tellable.games isFound).1
      exact gone ((Store.get?_erase _ _ _).trans (if_pos isSeat.symm))
  | starts ages free =>
      rw [found] at free
      cases free
  | @records kept made between ages isFound takes settles =>
      rw [found] at isFound
      cases isFound
      have isSeat := (found_of_holds tellable.stocked tellable.games found).1
      cases finished : (game.record made).isFinished with
      | true => exact gone (get?_ended finished isSeat)
      | false =>
          obtain ⟨text, expires, stored, reads⟩ := stored_of_gameAt later
          rw [settled_of_unfinished finished] at stored
          have isText := Store.text?_eq_some.mpr ⟨expires, stored⟩
          rw [read_of_saved (settles finished) isSeat isText reads] at adds
          cases (List.append_cancel_left adds)
          exact takes

end

namespace Bot

/-! Events. -/

/-- The problem that an exchange shows at a place. -/
def Exchange.shownAt? (place : Option Int × Int × Int) (exchange : Exchange) : Option (List (List Char)) :=
  match exchange.arrival.event with
  | .message message => if message.place = place then replyShows? (replyText exchange.effects) else none
  | .ready => none

/-- The problem that was shown at a place last. -/
def lastShown? (place : Option Int × Int × Int) (exchanges : List Exchange) : Option (List (List Char)) :=
  exchanges.reverse.findSome? (Exchange.shownAt? place)

/-- The attempt that a message records, with the game that it leads to. -/
def recorded? [DepthLimit] (bot : Bot) (moment : Moment) (message : Message) (session : Session) :
    Option (Attempt × Game) :=
  match Invocation.ofText? message.content.toList with
  | some ⟨.answer, some expression⟩ =>
    (submitAnswer bot.rules message.seat expression moment session).1.toOption
  | some ⟨.pass, _⟩ => (passProblem bot.rules message.seat moment session).1.toOption
  | _ => none

/-- An exchange takes a player's message, which records an attempt. -/
structure Exchange.Records [DepthLimit] (bot : Bot) (exchange : Exchange) (message : Message) (attempt : Attempt)
    (told : Game) : Prop where
  taken : exchange.taken? bot = some message
  byPlayer : message.automated = false
  records : bot.recorded? exchange.arrival.moment message exchange.before.session = some (attempt, told)

/-- An exchange leaves the session in which an attempt at a game is kept, once time has passed. -/
def Exchange.Keeps (bot : Bot) (exchange : Exchange) (game : Game) (attempt : Attempt) : Prop :=
  ∃ aged, exchange.before.session.Ages bot.rules exchange.arrival.moment.now aged ∧
    exchange.after.session = aged.change (Store.settled bot.rules exchange.arrival.moment.now (game.record attempt))

/-- After an exchange, the history of the game stored at a seat is longer by an attempt than before. -/
structure Exchange.Adds (exchange : Exchange) (seat : Seat) (game : Game) (attempt : Attempt) (told : Game) :
    Prop where
  before : (exchange.before.session.store.live exchange.arrival.moment.now).gameAt seat.key = .ok (some game)
  after : exchange.after.session.store.gameAt seat.key = .ok (some told)
  adds : told.history = game.history ++ [attempt]

/-- An attempt is at the problem in play in a game, and this is the problem that was shown at a place last. -/
def JudgesShown (place : Option Int × Int × Int) (earlier : List Exchange) (game : Game) (attempt : Attempt) : Prop :=
  ∃ index : Nat, game.current = (index : Int) ∧ game.problems[index]? = some attempt.problem ∧
    lastShown? place earlier = some (problemLines (index + 1) game.mode attempt.problem)

section

variable {bot : Bot} {pool : List String} {exchanges : List Exchange} {exchange : Exchange} {message : Message}
  {place : Option Int × Int × Int}

theorem lastShown_concat :
    lastShown? place (exchanges ++ [exchange]) = (exchange.shownAt? place).or (lastShown? place exchanges) := by
  rw [lastShown?, List.reverse_concat, List.findSome?_cons]
  cases exchange.shownAt? place <;> rfl

theorem shownAt_message (isMessage : exchange.arrival.event = .message message) :
    exchange.shownAt? place = if message.place = place then replyShows? (replyText exchange.effects) else none := by
  rw [Exchange.shownAt?, isMessage]

theorem shownAt_silent (silent : replyShows? (replyText exchange.effects) = none) :
    exchange.shownAt? place = none := by
  unfold Exchange.shownAt?
  split
  · split
    · exact silent
    · rfl
  · rfl

theorem replyShows_nothing : replyShows? (replyText []) = none :=
  replyShows_of_none rfl

theorem process_tells [DepthLimit] {moment : Moment} {session : Session} (tellable : session.IsTellable bot.rules pool)
    (modes : ∀ mode ∈ bot.rules.settings.modes, 1 ≤ mode) (isPool : IsPool pool) (message : Message) :
    ((bot.process moment message session).2 = session ∧
      replyShows? (replyText (bot.process moment message session).1) = none) ∨
      ∃ play outcome,
        Turn bot.rules ⟨moment, message.seat, play⟩ session outcome (bot.process moment message session).2 ∧
        replyShows? (replyText (bot.process moment message session).1) = shownBy? outcome := by
  unfold process
  cases Invocation.ofText? message.content.toList with
  | none => exact .inl ⟨rfl, replyShows_nothing⟩
  | some invocation =>
      right
      dsimp only
      rw [react_eq]
      exact perform_tells tellable modes isPool invocation

/-- A message comes to nothing, or is a turn of its seat, and the reply shows what this turn brings up. -/
theorem receive_tells [DepthLimit] {moment : Moment} {state : BotState}
    (tellable : state.session.IsTellable bot.rules pool) (modes : ∀ mode ∈ bot.rules.settings.modes, 1 ≤ mode)
    (isPool : IsPool pool) (message : Message) :
    ((bot.receive moment message state).2.session = state.session ∧
      replyShows? (replyText (bot.receive moment message state).1) = none) ∨
      ∃ play outcome, Turn bot.rules ⟨moment, message.seat, play⟩ state.session outcome
          (bot.receive moment message state).2.session ∧
        replyShows? (replyText (bot.receive moment message state).1) = shownBy? outcome := by
  unfold receive
  split
  · split
    · exact .inl ⟨rfl, replyShows_nothing⟩
    · exact process_tells tellable modes isPool message
  · exact .inl ⟨rfl, replyShows_nothing⟩

/-! Conversations. -/

/-- At every place, a stored game is at the problem that was shown there last. -/
structure Conversation.Displays (bot : Bot) (pool : List String) (conversation : Conversation) : Prop where
  tellable : conversation.state.session.IsTellable bot.rules pool
  heads : ∀ message : Message,
    conversation.state.session.Heads message.seat (lastShown? message.place conversation.exchanges)

section

variable [DepthLimit] {conversation : Conversation} {moment : Moment} {event : Event}

theorem lastShown_extend : lastShown? place (conversation.extend bot ⟨moment, event⟩).exchanges =
    (Exchange.shownAt? place ⟨⟨moment, event⟩, conversation.state, (bot.handle moment event conversation.state).1,
      (bot.handle moment event conversation.state).2⟩).or (lastShown? place conversation.exchanges) :=
  lastShown_concat

theorem lastShown_silent (silent : replyShows? (replyText (bot.handle moment event conversation.state).1) = none) :
    lastShown? place (conversation.extend bot ⟨moment, event⟩).exchanges =
      lastShown? place conversation.exchanges := by
  rw [lastShown_extend, shownAt_silent (by exact silent), Option.none_or]

theorem lastShown_elsewhere (other : message.place ≠ place) :
    lastShown? place (conversation.extend bot ⟨moment, .message message⟩).exchanges =
      lastShown? place conversation.exchanges := by
  rw [lastShown_extend, shownAt_message rfl, if_neg other, Option.none_or]

theorem lastShown_here :
    lastShown? message.place (conversation.extend bot ⟨moment, .message message⟩).exchanges =
      (replyShows? (replyText (bot.receive moment message conversation.state).1)).or
        (lastShown? message.place conversation.exchanges) := by
  rw [lastShown_extend, shownAt_message rfl, if_pos rfl]
  rfl

end

theorem Conversation.Displays.extend [DepthLimit] {conversation : Conversation}
    (displays : conversation.Displays bot pool) (modes : ∀ mode ∈ bot.rules.settings.modes, 1 ≤ mode)
    (isPool : IsPool pool) (arrival : Arrival) : (conversation.extend bot arrival).Displays bot pool := by
  obtain ⟨moment, event⟩ := arrival
  have stays (same : (bot.handle moment event conversation.state).2.session = conversation.state.session)
      (silent : replyShows? (replyText (bot.handle moment event conversation.state).1) = none) :
      (conversation.extend bot ⟨moment, event⟩).Displays bot pool := by
    have unchanged : (conversation.extend bot ⟨moment, event⟩).state.session = conversation.state.session := same
    refine ⟨unchanged ▸ displays.tellable, ?_⟩
    intro other
    rw [unchanged, lastShown_silent silent]
    exact displays.heads other
  cases event with
  | ready => exact stays rfl (replyShows_of_none rfl)
  | message message =>
      rcases receive_tells displays.tellable modes isPool message with ⟨same, silent⟩ | ⟨play, outcome, turn, tells⟩
      · exact stays same silent
      · have player : IsCalm message.seat.player := calm_int message.author
        refine ⟨(turn.isTellable displays.tellable modes isPool player).1, ?_⟩
        intro other
        have heads := displays.heads other
        by_cases here : message.place = other.place
        · rw [← here, ← seat_eq_iff.mpr here] at heads ⊢
          rw [lastShown_here, tells]
          exact turn.heads displays.tellable modes isPool player heads
        · have elsewhere : message.seat ≠ other.seat := fun same => here (seat_eq_iff.mp same)
          rw [lastShown_elsewhere here]
          exact turn.heads_elsewhere displays.tellable (seat_isPlain message) (seat_isPlain other) elsewhere heads

theorem converse_displays [DepthLimit] {start : BotState} (tellable : start.session.IsTellable bot.rules pool)
    (fresh : ∀ message : Message, start.session.Heads message.seat none)
    (modes : ∀ mode ∈ bot.rules.settings.modes, 1 ≤ mode) (isPool : IsPool pool) (arrivals : List Arrival) :
    (bot.converse start arrivals).Displays bot pool :=
  converse_keeps ⟨tellable, fresh⟩ fun _ arrival _ displays => displays.extend modes isPool arrival

/-! Attempts. -/

theorem problemText_session (game : Game) (moment : Moment) (session : Session) :
    (problemText game moment session).2 = session := by
  unfold problemText
  cases game.spot <;> rfl

theorem sayEnd_session (player : String) (game : Game) (moment : Moment) (session : Session) :
    (sayEnd player game moment session).2 = session := by
  rcases sayEnd_cases player game moment session with ⟨text, _, ends⟩ | ⟨fault, ends⟩
  · rw [ends]
  · rw [ends]

theorem sayNext_session (player text : String) (game : Game) (moment : Moment) (session : Session) :
    (sayNext player text game moment session).2 = session := by
  unfold sayNext
  split
  · exact (bind_session fun _ _ => rfl).trans (sayEnd_session player game moment session)
  · exact (bind_session fun _ _ => rfl).trans (problemText_session game moment session)

theorem answer_session [DepthLimit] (rules : Rules) (seat : Seat) (expression : List Char) (moment : Moment)
    (session : Session) :
    (answer rules seat (some expression) moment session).2 =
      (submitAnswer rules seat expression moment session).2 := by
  apply bind_session
  rintro ⟨attempt, game⟩ later
  dsimp only
  split
  · exact sayNext_session seat.player (Reply.correct attempt) game moment later
  · rfl

theorem pass_session [DepthLimit] (rules : Rules) (seat : Seat) (moment : Moment) (session : Session) :
    (pass rules seat moment session).2 = (passProblem rules seat moment session).2 := by
  apply bind_session
  rintro ⟨attempt, game⟩ later
  exact sayNext_session seat.player (Reply.reveal attempt) game moment later

theorem process_session [DepthLimit] {moment : Moment} {session : Session} {invocation : Invocation}
    (isCommand : Invocation.ofText? message.content.toList = some invocation) :
    (bot.process moment message session).2 = (bot.perform message invocation moment session).2 := by
  unfold process
  rw [isCommand]
  dsimp only
  rw [react_eq]

/-- What records an attempt is a turn, and the session that it leads to stays as it is while the reply is made. -/
theorem recorded_turn [DepthLimit] {moment : Moment} {session : Session} {attempt : Attempt} {told : Game}
    (stocked : session.IsStocked) (records : bot.recorded? moment message session = some (attempt, told)) :
    ∃ play, Turn bot.rules ⟨moment, message.seat, play⟩ session (.ok (.recorded attempt told))
      (bot.process moment message session).2 := by
  have succeeds {command : Action (Attempt × Game)}
      (isSome : (command moment session).1.toOption = some (attempt, told)) :
      command moment session = (.ok (attempt, told), (command moment session).2) := by
    cases performed : command moment session with
    | mk result later =>
        rw [performed] at isSome
        cases result with
        | error fault => cases isSome
        | ok value =>
            cases isSome
            rfl
  unfold recorded? at records
  split at records
  · next expression isCommand =>
      have turn := Step.turn bot.rules ⟨moment, message.seat, .answer expression⟩ stocked
      have runs : Step.run bot.rules ⟨moment, message.seat, .answer expression⟩ session =
          (.ok (.recorded attempt told), _) := bind_of_ok (succeeds records)
      rw [runs, ← answer_session] at turn
      rw [process_session isCommand]
      exact ⟨_, turn⟩
  · next isCommand =>
      have turn := Step.turn bot.rules ⟨moment, message.seat, .pass⟩ stocked
      have runs : Step.run bot.rules ⟨moment, message.seat, .pass⟩ session = (.ok (.recorded attempt told), _) :=
        bind_of_ok (succeeds records)
      rw [runs, ← pass_session] at turn
      rw [process_session isCommand]
      exact ⟨_, turn⟩
  · cases records

/-- A turn that records an attempt keeps it in the game that is found, and leaves this game unless it is over. -/
theorem kept_of_records [DepthLimit] {moment : Moment} {seat : Seat} {play : Play} {before after : Session}
    {attempt : Attempt} {told : Game}
    (turn : Turn bot.rules ⟨moment, seat, play⟩ before (.ok (.recorded attempt told)) after)
    (tellable : before.IsTellable bot.rules pool) :
    ∃ game, (before.store.live moment.now).gameAt seat.key = .ok (some game) ∧ game.Takes attempt ∧
      told.history = game.history ++ [attempt] ∧
      (∃ aged, before.Ages bot.rules moment.now aged ∧
        after = aged.change (Store.settled bot.rules moment.now (game.record attempt))) ∧
      (told.isFinished = false → 0 < bot.rules.settings.lifetime → after.store.gameAt seat.key = .ok (some told)) := by
  cases turn with
  | @records game _ aged ages found takes settles =>
      refine ⟨game, found, takes, Game.history_settled _ _, ⟨aged, ages, rfl⟩, ?_⟩
      intro unfinished lasting
      rw [Game.isFinished_settled] at unfinished
      have isSeat := (found_of_holds tellable.stocked tellable.games found).1
      have active : (game.record attempt).status = activeStatus := (tellable.found found).1.status
      rw [Game.settled, unfinished, if_neg Bool.false_ne_true]
      exact gameAt_settled settles unfinished active lasting isSeat

theorem judgesShown_of_heads [DepthLimit] {session : Session} {now : Float} {game : Game} {attempt : Attempt}
    (tellable : session.IsTellable bot.rules pool) (heads : session.Heads message.seat (lastShown? place exchanges))
    (found : (session.store.live now).gameAt message.seat.key = .ok (some game)) (takes : game.Takes attempt) :
    JudgesShown place exchanges game attempt := by
  have isFound : Step.found ⟨⟨now, none, none⟩, message.seat, .look⟩ session = .ok (some game) := found
  obtain ⟨text, expires, entry, reads, _⟩ := entry_of_found tellable.stocked isFound
  have running := (tellable.found isFound).1
  have heading := heads text game (Store.text?_eq_some.mpr ⟨expires, entry⟩) reads
  refine ⟨game.history.countP Attempt.advances, running.current, running.problem_in_play takes, ?_⟩
  rw [← heading, heading_eq takes.plays, running.current]

/-- Whoever adds an attempt to a game has written at the place of this game. -/
theorem taken_of_adds [DepthLimit] {game told : Game} {attempt : Attempt}
    (tellable : exchange.before.session.IsTellable bot.rules pool)
    (modes : ∀ mode ∈ bot.rules.settings.modes, 1 ≤ mode) (isPool : IsPool pool)
    (handles : bot.handle exchange.arrival.moment exchange.arrival.event exchange.before =
      (exchange.effects, exchange.after))
    (adds : exchange.Adds message.seat game attempt told) :
    (∃ taken, exchange.taken? bot = some taken ∧ taken.place = message.place) ∧ game.Takes attempt := by
  have goesBy := handle_goesBy bot exchange.arrival exchange.before
  rw [handles] at goesBy
  have stocked := tellable.stocked
  have differs : exchange.after.session ≠ exchange.before.session := by
    intro same
    have ages : exchange.before.session.Ages bot.rules exchange.arrival.moment.now exchange.before.session :=
      stocked.ages
    exact not_adds_of_ages stocked adds.before ages (by rw [same]) adds.after adds.adds
  cases taken : exchange.taken? bot with
  | none => exact (differs (congrArg BotState.session (goesBy.passes taken).1)).elim
  | some other =>
      have carries := (goesBy.carries other taken).2
      split at carries
      · exact (differs carries.2).elim
      · have processes : exchange.after.session =
            (bot.process exchange.arrival.moment other exchange.before.session).2 := congrArg Prod.snd carries
        rcases process_tells tellable modes isPool other with ⟨same, _⟩ | ⟨play, outcome, turn, _⟩
        · exact (differs (processes.trans same)).elim
        · rw [← processes] at turn
          by_cases here : other.place = message.place
          · refine ⟨⟨other, rfl, here⟩, ?_⟩
            have seats := seat_eq_iff.mpr here
            exact turn.takes_of_adds tellable (seats ▸ adds.before) (seats ▸ adds.after) adds.adds
          · have elsewhere : other.seat ≠ message.seat := fun same => here (seat_eq_iff.mp same)
            obtain ⟨between, ages, same⟩ := turn.elsewhere stocked tellable.games (seat_isPlain other)
              (seat_isPlain message) elsewhere
            exact (not_adds_of_ages stocked adds.before ages same adds.after adds.adds).elim

end

theorem prepare_isTellable (bot : Bot) (moment : Moment) (stored : List String) :
    (bot.prepare moment (Session.opening stored [] 0)).session.IsTellable bot.rules
      ((Session.opening stored [] 0).problems bot.rules) :=
  (opening_isTellable bot.rules stored [] 0).ages (ensureProblems_gives (opening_isStocked stored [] 0)).1

theorem prepare_heads (bot : Bot) (moment : Moment) (stored : List String) (seat : Seat)
    (shown : Option (List (List Char))) :
    (bot.prepare moment (Session.opening stored [] 0)).session.Heads seat shown := by
  have empty : (Session.opening stored [] 0).Heads seat shown := heads_of_none (get?_opening seat.key_ne_poolKey)
  exact empty.ages (ensureProblems_gives (opening_isStocked stored [] 0)).1

end Bot

/-- In every conversation, whoever writes and whichever steps find the store out of reach in between: an attempt that
a message records goes into the history of the game stored at the message's seat, which is stored again unless it is
over; and only messages from the place of a game add to its history. Each attempt is at the problem in play, and this
problem, with its number, is the one that was shown last in reply to this author in this channel. -/
theorem moves_are_judged_on_the_problem_shown [DepthLimit] (bot : Bot) (stored : List String) (prepared : Moment)
    (arrivals : List Bot.Arrival) (modes : ∀ mode ∈ bot.rules.settings.modes, 1 ≤ mode)
    (problems : ∀ problem ∈ stored, IsProblem problem) :
    let conversation := bot.converse (bot.prepare prepared (Session.opening stored [] 0)) arrivals
    ∀ earlier exchange later, conversation.exchanges = earlier ++ exchange :: later →
      (∀ message attempt told, exchange.Records bot message attempt told →
        ∃ game, (exchange.before.session.store.live exchange.arrival.moment.now).gameAt message.seat.key =
            .ok (some game) ∧
          told.history = game.history ++ [attempt] ∧ exchange.Keeps bot game attempt ∧
          (told.isFinished = false → 0 < bot.rules.settings.lifetime →
            exchange.Adds message.seat game attempt told) ∧
          Bot.JudgesShown message.place earlier game attempt) ∧
      ∀ (message : Message) game attempt told, exchange.Adds message.seat game attempt told →
        (∃ taken, exchange.taken? bot = some taken ∧ taken.place = message.place) ∧
          Bot.JudgesShown message.place earlier game attempt := by
  intro conversation earlier exchange later split
  obtain ⟨before, isEarlier, isBefore, handles⟩ := Bot.converse_before split
  have isPool := opening_isPool bot.rules problems
  have displays := Bot.converse_displays (bot.prepare_isTellable prepared stored)
    (fun message => bot.prepare_heads prepared stored message.seat none) modes isPool before
  have tellable := displays.tellable
  rw [isBefore] at tellable
  have judges {message : Message} {game : Game} {attempt : Attempt}
      (found : (exchange.before.session.store.live exchange.arrival.moment.now).gameAt message.seat.key =
        .ok (some game)) (takes : game.Takes attempt) : Bot.JudgesShown message.place earlier game attempt := by
    have heads := displays.heads message
    rw [isBefore, isEarlier] at heads
    exact Bot.judgesShown_of_heads tellable heads found takes
  constructor
  · intro message attempt told records
    have goesBy := Bot.handle_goesBy bot exchange.arrival exchange.before
    rw [handles] at goesBy
    have carries := (goesBy.carries message records.taken).2
    rw [records.byPlayer, if_neg Bool.false_ne_true] at carries
    have processes : exchange.after.session = _ := congrArg Prod.snd carries
    obtain ⟨play, turn⟩ := Bot.recorded_turn tellable.stocked records.records
    rw [← processes] at turn
    obtain ⟨game, found, takes, grows, keeps, leaves⟩ := Bot.kept_of_records turn tellable
    refine ⟨game, found, grows, keeps, ?_, judges found takes⟩
    exact fun unfinished lasting => ⟨found, leaves unfinished lasting, grows⟩
  · intro message game attempt told adds
    obtain ⟨writes, takes⟩ := Bot.taken_of_adds tellable modes isPool handles adds
    exact ⟨writes, judges adds.before takes⟩

section

attribute [local instance] DepthLimit.standard

theorem moves_are_judged_on_the_problem_shown_of_pass :
    let bot : Bot := ⟨9, 8, ⟨⟨[2], 2, 60, 10⟩, fun _ => false⟩⟩
    let moment : Moment := ⟨0.0, none, none⟩
    let start : Message := ⟨1, 7, some 5, 6, "!make10", false⟩
    let pass : Message := ⟨2, 7, some 5, 6, "!m10pass", false⟩
    ∃ earlier exchange game attempt told,
      (bot.converse (bot.prepare moment (Session.opening ["1234", "5678"] [] 0))
        [⟨moment, .message start⟩, ⟨moment, .message pass⟩]).exchanges = earlier ++ [exchange] ∧
      exchange.Records bot pass attempt told ∧ exchange.Keeps bot game attempt ∧
        exchange.Adds pass.seat game attempt told ∧ Bot.JudgesShown pass.place earlier game attempt := by
  intro bot moment start pass
  have runs : ∃ before : Bot.Conversation,
      bot.converse (bot.prepare moment (Session.opening ["1234", "5678"] [] 0))
        [⟨moment, .message start⟩, ⟨moment, .message pass⟩] = before.extend bot ⟨moment, .message pass⟩ ∧
      (bot.recorded? moment pass before.state.session).map (fun recorded => recorded.2.isFinished) = some false ∧
      pass.id ∉ before.state.taken :=
    ⟨bot.converse (bot.prepare moment (Session.opening ["1234", "5678"] [] 0)) [⟨moment, .message start⟩],
      @Bot.converse_concat _ bot _ [_] _, by decide +kernel⟩
  obtain ⟨before, continues, recorded, isNew⟩ := runs
  obtain ⟨⟨attempt, told⟩, isAttempt, unfinished⟩ := Option.map_eq_some_iff.mp recorded
  have split := (congrArg Bot.Conversation.exchanges continues).trans (Bot.extend_exchanges before _)
  have records : Bot.Exchange.Records bot ⟨⟨moment, .message pass⟩, before.state,
      (bot.handle moment (.message pass) before.state).1, (bot.handle moment (.message pass) before.state).2⟩
      pass attempt told := ⟨Bot.taken_eq_some.mpr ⟨rfl, by decide, isNew⟩, rfl, isAttempt⟩
  have judged := moves_are_judged_on_the_problem_shown bot ["1234", "5678"] moment
    [⟨moment, .message start⟩, ⟨moment, .message pass⟩] (by decide) (by decide)
  obtain ⟨judgesRecorded, judgesAdded⟩ := judged _ _ [] split
  obtain ⟨game, _, _, keeps, adds, _⟩ := judgesRecorded pass attempt told records
  have added := adds unfinished (by decide)
  exact ⟨_, _, game, attempt, told, split, records, keeps, added, (judgesAdded pass game attempt told added).2⟩

end

end TenPuzzle
