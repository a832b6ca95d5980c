import TenPuzzle.Proofs.Bot.Safety

/-!
Conversations: events one after the other, with what the bot did about each. A message is taken exactly once for as
long as its id is among those of the last hundred messages taken.
-/

namespace TenPuzzle

namespace Bot

/-- An event, and what the bot did about it. -/
structure Exchange where
  arrival : Arrival
  before : BotState
  effects : List Effect
  after : BotState

structure Conversation where
  exchanges : List Exchange
  state : BotState

def Conversation.extend [DepthLimit] (bot : Bot) (conversation : Conversation) (arrival : Arrival) : Conversation :=
  let (effects, after) := bot.handle arrival.moment arrival.event conversation.state
  ⟨conversation.exchanges ++ [⟨arrival, conversation.state, effects, after⟩], after⟩

def converse [DepthLimit] (bot : Bot) (start : BotState) (arrivals : List Arrival) : Conversation :=
  arrivals.foldl (Conversation.extend bot) ⟨[], start⟩

section

variable [DepthLimit] {bot : Bot} {start : BotState} {arrivals : List Arrival}

theorem converse_concat (arrival : Arrival) :
    bot.converse start (arrivals ++ [arrival]) = (bot.converse start arrivals).extend bot arrival :=
  List.foldl_concat _ _ _ _

theorem extend_exchanges (conversation : Conversation) (arrival : Arrival) :
    (conversation.extend bot arrival).exchanges = conversation.exchanges ++
      [⟨arrival, conversation.state, (bot.handle arrival.moment arrival.event conversation.state).1,
        (bot.handle arrival.moment arrival.event conversation.state).2⟩] :=
  rfl

/-- What every event keeps holds after every conversation. -/
theorem converse_keeps {invariant : Conversation → Prop} (begins : invariant ⟨[], start⟩)
    (continues : ∀ conversation, ∀ arrival ∈ arrivals, invariant conversation →
      invariant (conversation.extend bot arrival)) : invariant (bot.converse start arrivals) := by
  induction arrivals using List.reverseRecOn with
  | nil => exact begins
  | append_singleton arrivals arrival ih =>
      rw [converse_concat]
      apply continues _ arrival (by simp)
      exact ih fun conversation other member => continues conversation other (by simp [member])

theorem converse_arrivals : (bot.converse start arrivals).exchanges.map Exchange.arrival = arrivals := by
  induction arrivals using List.reverseRecOn with
  | nil => rfl
  | append_singleton arrivals arrival ih =>
      rw [converse_concat, Conversation.extend, List.map_append, ih]
      rfl

/-- An exchange starts where the exchanges before it have led to, and goes as the bot handles its event. -/
theorem converse_before {earlier later : List Exchange} {exchange : Exchange}
    (split : (bot.converse start arrivals).exchanges = earlier ++ exchange :: later) :
    ∃ before, (bot.converse start before).exchanges = earlier ∧
      (bot.converse start before).state = exchange.before ∧
      bot.handle exchange.arrival.moment exchange.arrival.event exchange.before =
        (exchange.effects, exchange.after) := by
  induction arrivals using List.reverseRecOn generalizing later with
  | nil =>
      have none : [] = earlier ++ exchange :: later := split
      simp at none
  | append_singleton arrivals arrival ih =>
      rw [converse_concat] at split
      rcases split_concat split with ⟨rfl, rfl⟩ | ⟨between, earlierSplit⟩
      · exact ⟨arrivals, rfl, rfl, rfl⟩
      · exact ih earlierSplit

end

/-! Messages taken. -/

/-- The message that an event brings to the commands. -/
def Exchange.taken? (bot : Bot) (exchange : Exchange) : Option Message :=
  match exchange.arrival.event with
  | .message message => if bot.takes exchange.before message then some message else none
  | .ready => none

def takenIds (bot : Bot) (exchanges : List Exchange) : List Int :=
  (exchanges.filterMap (Exchange.taken? bot)).map Message.id

/-- The ids of the last hundred messages taken, latest first. -/
def lately (bot : Bot) (exchanges : List Exchange) : List Int :=
  (bot.takenIds exchanges).reverse.take takenLimit

section

variable {bot : Bot} {exchanges earlier between later : List Exchange} {exchange : Exchange} {message : Message}

theorem takes_iff {state : BotState} :
    bot.takes state message = true ↔ message.author ≠ bot.user ∧ message.id ∉ state.taken := by
  simp [takes]

theorem taken_eq_some : exchange.taken? bot = some message ↔
    exchange.arrival.event = .message message ∧ message.author ≠ bot.user ∧ message.id ∉ exchange.before.taken := by
  unfold Exchange.taken?
  cases exchange.arrival.event with
  | ready => simp
  | message other =>
      dsimp only
      rw [← takes_iff, Event.message.injEq]
      split
      · next takes =>
          rw [Option.some.injEq]
          constructor
          · rintro rfl
            exact ⟨rfl, takes⟩
          · exact fun ⟨same, _⟩ => same
      · next passes =>
          simp only [reduceCtorEq, false_iff]
          rintro ⟨rfl, takes⟩
          exact passes takes

theorem takenIds_append : bot.takenIds (earlier ++ later) = bot.takenIds earlier ++ bot.takenIds later := by
  simp [takenIds]

theorem takenIds_taken (taken : exchange.taken? bot = some message) : bot.takenIds [exchange] = [message.id] := by
  simp [takenIds, taken]

theorem lately_concat (taken : exchange.taken? bot = some message) :
    bot.lately (exchanges ++ [exchange]) = (message.id :: bot.lately exchanges).take takenLimit := by
  have limit : takenLimit = (takenLimit - 1) + 1 := rfl
  rw [lately, lately, takenIds_append, takenIds_taken taken, List.reverse_append, List.reverse_singleton,
    List.singleton_append, limit, List.take_succ_cons, List.take_succ_cons, List.take_take]
  rfl

theorem lately_concat_passed (passed : exchange.taken? bot = none) :
    bot.lately (exchanges ++ [exchange]) = bot.lately exchanges := by
  simp [lately, takenIds, passed]

theorem lately_length_le : (bot.lately exchanges).length ≤ takenLimit :=
  List.length_take_le _ _

/-- Ids that a conversation took, and took again after some others. -/
theorem lately_append (taken : exchange.taken? bot = some message)
    (forgotten : message.id ∉ bot.lately (earlier ++ exchange :: between)) :
    (bot.lately between).length = takenLimit ∧
      bot.lately (earlier ++ exchange :: between) = bot.lately between := by
  have order : bot.lately (earlier ++ exchange :: between) =
      ((bot.takenIds between).reverse ++ message.id :: (bot.takenIds earlier).reverse).take takenLimit := by
    rw [lately, List.append_cons, takenIds_append, takenIds_append, takenIds_taken taken]
    simp
  rw [order] at forgotten ⊢
  have enough : takenLimit ≤ (bot.takenIds between).reverse.length := by
    by_contra few
    apply forgotten
    rw [List.take_append, List.mem_append]
    right
    have room : takenLimit - (bot.takenIds between).reverse.length =
        (takenLimit - (bot.takenIds between).reverse.length - 1) + 1 := by omega
    rw [room, List.take_succ_cons]
    exact List.mem_cons_self
  refine ⟨?_, List.take_append_of_le_length enough⟩
  rw [lately, List.length_take]
  omega

end

/-! One event. -/

/-- What a bot does with a message that it takes. -/
def Carries [DepthLimit] (bot : Bot) (moment : Moment) (message : Message) (before : BotState) (effects : List Effect)
    (after : BotState) : Prop :=
  after.taken = (message.id :: before.taken).take takenLimit ∧
    if message.automated then effects = [] ∧ after.session = before.session
    else (effects, after.session) = bot.process moment message before.session

/-- A message is carried out if it is taken; else nothing comes of it. -/
theorem receive_cases [DepthLimit] (bot : Bot) (moment : Moment) (message : Message) (state : BotState) :
    if bot.takes state message then
      bot.Carries moment message state (bot.receive moment message state).1 (bot.receive moment message state).2
    else bot.receive moment message state = ([], state) := by
  unfold receive
  split
  · refine ⟨?_, ?_⟩
    · split <;> rfl
    · split
      · exact ⟨rfl, rfl⟩
      · rfl
  · rfl

/-- How an exchange goes, by the ids of the messages that were taken lately. -/
structure Exchange.GoesBy [DepthLimit] (bot : Bot) (recent : List Int) (exchange : Exchange) : Prop where
  recalls : exchange.before.taken = recent
  takes : ∀ message, exchange.taken? bot = some message ↔
    exchange.arrival.event = .message message ∧ message.author ≠ bot.user ∧ message.id ∉ recent
  carries : ∀ message, exchange.taken? bot = some message →
    bot.Carries exchange.arrival.moment message exchange.before exchange.effects exchange.after
  passes : exchange.taken? bot = none →
    exchange.after = exchange.before ∧ (exchange.arrival.event ≠ .ready → exchange.effects = [])

theorem handle_goesBy [DepthLimit] (bot : Bot) (arrival : Arrival) (state : BotState) :
    Exchange.GoesBy bot state.taken ⟨arrival, state, (bot.handle arrival.moment arrival.event state).1,
      (bot.handle arrival.moment arrival.event state).2⟩ := by
  obtain ⟨moment, event⟩ := arrival
  refine ⟨rfl, fun message => taken_eq_some, ?_, ?_⟩
  · intro message taken
    obtain ⟨rfl, isOther, isNew⟩ := taken_eq_some.mp taken
    have cases := bot.receive_cases moment message state
    rw [if_pos (takes_iff.mpr ⟨isOther, isNew⟩)] at cases
    exact cases
  · intro passed
    cases event with
    | ready => exact ⟨rfl, fun unready => (unready rfl).elim⟩
    | message message =>
        have refuses : ¬bot.takes state message = true := by
          intro takes
          simp [Exchange.taken?, takes] at passed
        have cases := bot.receive_cases moment message state
        rw [if_neg refuses] at cases
        exact ⟨congrArg Prod.snd cases, fun _ => congrArg Prod.fst cases⟩

/-! Conversations. -/

/-- What the buffer of ids holds, and how each exchange went. -/
structure Conversation.Remembers [DepthLimit] (bot : Bot) (conversation : Conversation) : Prop where
  recalls : conversation.state.taken = bot.lately conversation.exchanges
  distinct : (bot.lately conversation.exchanges).Nodup
  exchanges : ∀ earlier exchange later, conversation.exchanges = earlier ++ exchange :: later →
    exchange.GoesBy bot (bot.lately earlier) ∧ (bot.lately earlier).Nodup

theorem Conversation.Remembers.extend [DepthLimit] {bot : Bot} {conversation : Conversation}
    (remembers : conversation.Remembers bot) (arrival : Arrival) : (conversation.extend bot arrival).Remembers bot := by
  have here := handle_goesBy bot arrival conversation.state
  rw [remembers.recalls] at here
  have splits : ∀ earlier exchange later,
      (conversation.extend bot arrival).exchanges = earlier ++ exchange :: later →
      exchange.GoesBy bot (bot.lately earlier) ∧ (bot.lately earlier).Nodup := by
    intro earlier exchange later split
    rcases split_concat split with ⟨rfl, rfl⟩ | ⟨between, before⟩
    · exact ⟨here, remembers.distinct⟩
    · exact remembers.exchanges earlier exchange between before
  cases taken : Exchange.taken? bot ⟨arrival, conversation.state,
      (bot.handle arrival.moment arrival.event conversation.state).1,
      (bot.handle arrival.moment arrival.event conversation.state).2⟩ with
  | none =>
      have same : bot.lately (conversation.extend bot arrival).exchanges = bot.lately conversation.exchanges :=
        lately_concat_passed taken
      refine ⟨?_, ?_, splits⟩
      · rw [same, ← remembers.recalls]
        exact congrArg BotState.taken (here.passes taken).1
      · rw [same]
        exact remembers.distinct
  | some message =>
      have grows : bot.lately (conversation.extend bot arrival).exchanges =
          (message.id :: bot.lately conversation.exchanges).take takenLimit := lately_concat taken
      refine ⟨?_, ?_, splits⟩
      · rw [grows, ← remembers.recalls]
        exact (here.carries message taken).1
      · rw [grows]
        have isNew := ((here.takes message).mp taken).2.2
        exact (List.nodup_cons.mpr ⟨isNew, remembers.distinct⟩).sublist (List.take_sublist _ _)

theorem converse_remembers [DepthLimit] (bot : Bot) (session : Session) (arrivals : List Arrival) :
    (bot.converse ⟨session, []⟩ arrivals).Remembers bot := by
  apply converse_keeps
  · refine ⟨rfl, List.nodup_nil, ?_⟩
    intro earlier exchange later split
    simp at split
  · intro conversation arrival _ remembers
    exact remembers.extend arrival

end Bot

/-- In every conversation, a message is taken exactly if it is not the bot's own and its id is not among those of
the last hundred messages taken before it; then it is carried out, and otherwise nothing is said or changed. So
between two messages of one id that are taken there are a hundred others with ids that are all different. -/
theorem messages_are_taken_once [DepthLimit] (bot : Bot) (session : Session) (arrivals : List Bot.Arrival) :
    let conversation := bot.converse ⟨session, []⟩ arrivals
    conversation.exchanges.map Bot.Exchange.arrival = arrivals ∧
      (conversation.state.taken = bot.lately conversation.exchanges ∧
        conversation.state.taken.length ≤ 100 ∧ conversation.state.taken.Nodup) ∧
      (∀ earlier exchange later, conversation.exchanges = earlier ++ exchange :: later →
        (∀ message, exchange.taken? bot = some message ↔ exchange.arrival.event = .message message ∧
          message.author ≠ bot.user ∧ message.id ∉ bot.lately earlier) ∧
        (∀ message, exchange.taken? bot = some message →
          bot.Carries exchange.arrival.moment message exchange.before exchange.effects exchange.after) ∧
        ∀ message, exchange.arrival.event = .message message → exchange.taken? bot = none →
          exchange.effects = [] ∧ exchange.after = exchange.before) ∧
      ∀ earlier first between second later message again,
        conversation.exchanges = earlier ++ first :: (between ++ second :: later) →
        first.taken? bot = some message → second.taken? bot = some again → again.id = message.id →
        (bot.lately between).length = 100 ∧ (bot.lately between).Nodup ∧ message.id ∉ bot.lately between := by
  intro conversation
  have remembers := bot.converse_remembers session arrivals
  refine ⟨Bot.converse_arrivals, ⟨remembers.recalls, ?_, ?_⟩, ?_, ?_⟩
  · rw [remembers.recalls]
    exact Bot.lately_length_le
  · rw [remembers.recalls]
    exact remembers.distinct
  · intro earlier exchange later split
    obtain ⟨goesBy, _⟩ := remembers.exchanges earlier exchange later split
    refine ⟨goesBy.takes, goesBy.carries, ?_⟩
    intro message isMessage passed
    obtain ⟨same, silent⟩ := goesBy.passes passed
    exact ⟨silent (by simp [isMessage]), same⟩
  · intro earlier first between second later message again split takesFirst takesSecond sameId
    rw [← List.cons_append, ← List.append_assoc] at split
    obtain ⟨goesBy, distinct⟩ := remembers.exchanges _ second later split
    have isNew := ((goesBy.takes again).mp takesSecond).2.2
    rw [sameId] at isNew
    obtain ⟨hundred, same⟩ := Bot.lately_append takesFirst isNew
    rw [same] at isNew distinct
    exact ⟨hundred, distinct, isNew⟩

section

attribute [local instance] DepthLimit.standard

theorem messages_are_taken_once_of_redelivery :
    let bot : Bot := ⟨9, 8, ⟨.standard, fun _ => false⟩⟩
    let moment : Moment := ⟨0.0, none, none⟩
    let hello : Message := ⟨1, 7, some 5, 6, "hello", false⟩
    let arrivals : List Bot.Arrival := [⟨moment, .message hello⟩, ⟨moment, .message hello⟩]
    let conversation := bot.converse ⟨Session.opening [] [] 0, []⟩ arrivals
    ∃ earlier exchange, conversation.exchanges = earlier ++ [exchange] ∧ exchange.taken? bot = none ∧
      exchange.effects = [] ∧ exchange.after = exchange.before := by
  intro bot moment hello arrivals conversation
  obtain ⟨_, _, exchanges, _⟩ := messages_are_taken_once bot (Session.opening [] [] 0) arrivals
  refine ⟨_, _, List.append_cons [] _ [_], rfl, ?_⟩
  exact (exchanges [_] _ [] rfl).2.2 hello rfl rfl

end

end TenPuzzle
