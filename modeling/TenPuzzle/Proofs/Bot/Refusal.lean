import TenPuzzle.Proofs.Bot.Wording
import TenPuzzle.Proofs.Game.Safety

/-!
Faults and how they are told. On a sound session commands fail in ordinary ways only, whatever the moment is like,
and no message about an ordinary fault shows a problem.
-/

namespace TenPuzzle

/-! Ordinary faults. -/

/-- A rejection that quotes digits, or the four digits of a problem. -/
def Rejection.IsOrdinary : Rejection → Prop
  | .joined operand => ∀ digit ∈ operand.toList, Text.isDecimalDigit digit = true
  | .outOfOrder problem | .wrongDigits problem => IsProblem problem
  | _ => True

/-- Any fault but those of stored games that cannot be read and of problems that are none. -/
def GameFault.IsOrdinary : GameFault → Prop
  | .rejected rejection => rejection.IsOrdinary
  | .unsolvable _ => False
  | .stored fault => fault = .tooLong
  | _ => True

theorem mem_close {run found : List Char} {later : List (List Char)}
    (member : found ∈ Text.digitRuns.close run later) : found = run.reverse ∨ found ∈ later := by
  unfold Text.digitRuns.close at member
  split at member
  · exact .inr member
  · exact List.mem_cons.mp member

theorem runsFrom_decimal {run text : List Char} (isRun : ∀ digit ∈ run, Text.isDecimalDigit digit = true) :
    ∀ found ∈ Text.digitRuns.runsFrom run text, ∀ digit ∈ found, Text.isDecimalDigit digit = true := by
  intro found member
  induction text generalizing run with
  | nil =>
      rcases mem_close member with rfl | isLater
      · exact fun digit inRun => isRun digit (List.mem_reverse.mp inRun)
      · cases isLater
  | cons character rest ih =>
      rw [Text.digitRuns.runsFrom] at member
      split at member
      · next isDigit =>
          refine ih ?_ member
          intro digit inRun
          rcases List.mem_cons.mp inRun with rfl | before
          · exact isDigit
          · exact isRun digit before
      · rcases mem_close member with rfl | isLater
        · exact fun digit inRun => isRun digit (List.mem_reverse.mp inRun)
        · exact ih (by simp) isLater

theorem runsFrom_inside {run text found : List Char} (member : found ∈ Text.digitRuns.runsFrom run text) :
    found <:+: run.reverse ++ text := by
  induction text generalizing run with
  | nil =>
      rcases mem_close member with rfl | isLater
      · exact (List.prefix_append run.reverse []).isInfix
      · cases isLater
  | cons character rest ih =>
      rw [Text.digitRuns.runsFrom] at member
      split at member
      · have within := ih member
        rwa [List.reverse_cons, List.append_assoc, List.singleton_append] at within
      · rcases mem_close member with rfl | isLater
        · exact (List.prefix_append run.reverse (character :: rest)).isInfix
        · have within : found <:+: rest := ih isLater
          exact within.trans ((List.suffix_append [character] rest).trans (List.suffix_append run.reverse _)).isInfix

/-- Why an answer in normal form is rejected. -/
inductive Rejection.Arises [DepthLimit] (text : List Char) (problem : String) : Rejection → Prop
  | empty : Arises text problem .empty
  | forbidden {character} : Arises text problem (.forbidden character)
  | signed : Arises text problem .signed
  | joined {run} : run ∈ Text.digitRuns text → Arises text problem (.joined (String.ofList run))
  | outOfOrder : Arises text problem (.outOfOrder problem)
  | wrongDigits : Arises text problem (.wrongDigits problem)
  | missingOperator : Arises text problem .missingOperator
  | malformed {fault} : evaluate text = .error fault → Arises text problem (.malformed fault)

section

variable [DepthLimit] {text : List Char} {problem : String} {rejection : Rejection}

theorem shapeFault_arises (rejects : shapeFault? text = some rejection) : rejection.Arises text problem := by
  unfold shapeFault? at rejects
  split at rejects
  · cases rejects
    exact .signed
  · obtain ⟨run, found, rfl⟩ := Option.map_eq_some_iff.mp rejects
    exact .joined (List.mem_of_find?_eq_some found)

theorem plainFault_arises (rejects : plainFault? text = some rejection) : rejection.Arises text problem := by
  unfold plainFault? at rejects
  split at rejects
  · cases rejects
    exact .empty
  · rcases Option.or_eq_some_iff.mp rejects with isForbidden | ⟨_, shape⟩
    · obtain ⟨character, _, rfl⟩ := Option.map_eq_some_iff.mp isForbidden
      exact .forbidden
    · exact shapeFault_arises shape

theorem digitsFault_arises (rejects : digitsFault? text problem = some rejection) : rejection.Arises text problem := by
  unfold digitsFault? at rejects
  dsimp only at rejects
  split at rejects
  · split at rejects
    · cases rejects
      exact .outOfOrder
    · cases rejects
      exact .wrongDigits
  · split at rejects
    · cases rejects
      exact .missingOperator
    · cases rejects

theorem verdict_arises {expression : List Char} (rejects : (judge expression problem).verdict = .error rejection) :
    rejection.Arises (normalize expression) problem := by
  unfold judge at rejects
  dsimp only at rejects
  split at rejects
  · next found isFault =>
      cases rejects
      rcases Option.or_eq_some_iff.mp isFault with plain | ⟨_, digits⟩
      · exact plainFault_arises plain
      · exact digitsFault_arises digits
  · unfold valueOf at rejects
    split at rejects
    · cases rejects
    · cases rejects
    · next fails =>
        cases rejects
        exact .malformed fails

theorem Rejection.Arises.ordinary (arises : rejection.Arises text problem) (isProblem : IsProblem problem) :
    rejection.IsOrdinary := by
  cases arises with
  | joined member =>
      intro digit inOperand
      rw [String.toList_ofList] at inOperand
      exact @runsFrom_decimal [] text (by simp) _ member digit inOperand
  | outOfOrder | wrongDigits => exact isProblem
  | empty | forbidden | signed | missingOperator | malformed => trivial

end

/-- The faults that commands can have on a sound session at a moment, with the answer that a command gives. -/
inductive GameFault.Arises [DepthLimit] (rules : Rules) (pool : List String) (moment : Moment)
    (answer : Option (List Char)) : GameFault → Prop
  | modeNotOffered : Arises rules pool moment answer (.modeNotOffered rules.settings.modes)
  | alreadyPlaying : Arises rules pool moment answer .alreadyPlaying
  | notPlaying : Arises rules pool moment answer .notPlaying
  | poolTooSmall : Arises rules pool moment answer (.poolTooSmall pool.length)
  | negativeDraw : Arises rules pool moment answer .negativeDraw
  | outOfRange : Arises rules pool moment answer .outOfRange
  | rejected {expression problem rejection} : answer = some expression → IsProblem problem →
      (judge expression problem).verdict = .error rejection → Arises rules pool moment answer (.rejected rejection)
  | tooLong : Arises rules pool moment answer (.stored .tooLong)
  | notWhole {fault} : Arises rules pool moment answer (.notWhole fault)
  | unreachable {reason} : moment.outage = some reason → Arises rules pool moment answer (.unreachable reason)

theorem GameFault.Arises.ordinary [DepthLimit] {rules : Rules} {pool : List String} {moment : Moment}
    {answer : Option (List Char)} {fault : GameFault} (arises : fault.Arises rules pool moment answer) :
    fault.IsOrdinary := by
  cases arises with
  | rejected _ isProblem rejects => exact (verdict_arises rejects).ordinary isProblem
  | tooLong => rfl
  | _ => trivial

/-! Messages. -/

/-- One character between calm texts makes no mark, unless the letter after the first of the mark follows it. -/
theorem shown_of_insertion {before after : List Char} {character : Char} (calmBefore : 'P' ∉ before)
    (calmAfter : 'P' ∉ after) (apart : ∀ later, after ≠ 'r' :: later) :
    shown? (before ++ character :: after) = none := by
  rw [shown_append calmBefore, shown_cons_apart apart, shown_of_calm calmAfter]

theorem character_toList (character : Char) : (toString character).toList = [character] := by
  change (String.singleton character).toList = _
  exact String.toList_singleton character

theorem malformed_hides (fault : Expr.Fault) : shown? (Rejection.malformed fault).message.toList = none := by
  cases fault with
  | notANumber found position =>
      have calm : IsCalm ("Invalid syntax: " ++ s!"Expected a number at position {position}, got '") := by
        have constants : IsCalm "Invalid syntax: " ∧ IsCalm (toString "Expected a number at position ") ∧
            IsCalm (toString ", got '") := by decide
        simp only [lacks_append, calm_nat, constants, and_self]
      have split : (Rejection.malformed (.notANumber found position)).message.toList =
          ("Invalid syntax: " ++ s!"Expected a number at position {position}, got '").toList ++ found :: ['\''] := by
        delta Rejection.message Expr.Fault.message
        simp only [String.toList_append, List.append_assoc, character_toList]
        rfl
      rw [split]
      exact shown_of_insertion calm.absent (by decide) (by simp)
  | unexpected found position =>
      have calm : IsCalm s!" at position {position}" := by
        have constant : IsCalm (toString " at position ") := by decide
        simp only [lacks_append, calm_nat, constant, and_self]
      have split : (Rejection.malformed (.unexpected found position)).message.toList =
          "Invalid syntax: Unexpected '".toList ++ found :: '\'' :: s!" at position {position}".toList := by
        delta Rejection.message Expr.Fault.message
        simp only [String.toList_append, List.append_assoc, character_toList]
        rfl
      rw [split]
      exact shown_of_insertion (by decide) (by simpa using calm.absent) (by simp)
  | unclosed position =>
      have constants : IsCalm "Invalid syntax: " ∧ IsCalm (toString "Expected ')' at position ") := by decide
      have calm : IsCalm ("Invalid syntax: " ++ s!"Expected ')' at position {position}") := by
        simp only [lacks_append, calm_nat, constants, and_self]
      exact shown_of_calm calm.absent
  | undefined | empty | tooDeep | unexpectedEnd => exact shown_of_calm (by decide)

theorem calm_decimal {operand : String} (digits : ∀ digit ∈ operand.toList, Text.isDecimalDigit digit = true) :
    IsCalm operand :=
  ⟨fun member => absurd (digits 'P' member) (by decide)⟩

theorem rejection_hides {rejection : Rejection} (ordinary : rejection.IsOrdinary) :
    shown? rejection.message.toList = none := by
  cases rejection with
  | forbidden character =>
      have split : (Rejection.forbidden character).message.toList =
          "Character **".toList ++ character :: "** is not allowed".toList := by
        delta Rejection.message
        simp only [String.toList_append, List.append_assoc, character_toList]
        rfl
      rw [split]
      exact shown_of_insertion (by decide) (by decide) (fun later same => by cases same)
  | joined operand =>
      have isOperand : IsCalm (toString operand) := calm_decimal ordinary
      have constants : IsCalm (toString "Digits must be used one at a time, got **") ∧ IsCalm (toString "**") := by
        decide
      have calm : IsCalm s!"Digits must be used one at a time, got **{operand}**" := by
        simp only [lacks_append, isOperand, constants, and_self]
      exact shown_of_calm calm.absent
  | outOfOrder problem =>
      have isCalm : IsCalm (toString problem) := calm_problem ordinary
      have constants : IsCalm (toString "Digits must stay in order: **") ∧ IsCalm (toString "**") := by decide
      have calm : IsCalm s!"Digits must stay in order: **{problem}**" := by
        simp only [lacks_append, isCalm, constants, and_self]
      exact shown_of_calm calm.absent
  | wrongDigits problem =>
      have isCalm : IsCalm (toString problem) := calm_problem ordinary
      have constants : IsCalm (toString "Use exactly the digits **") ∧ IsCalm (toString "**") := by decide
      have calm : IsCalm s!"Use exactly the digits **{problem}**" := by
        simp only [lacks_append, isCalm, constants, and_self]
      exact shown_of_calm calm.absent
  | malformed fault => exact malformed_hides fault
  | missingOperator => exact shown_of_lacking (by decide : 'm' ∈ problemMark) (by decide)
  | empty | signed => exact shown_of_calm (by decide)

/-- A fault that is no refusal is reported as an error. -/
theorem fault_reported {fault : GameFault} (reported : fault.kind ≠ .refusal ∧ fault.kind ≠ .unreadableText) :
    ∃ rest, (Reply.fault fault).toList = reportMark ++ rest := by
  refine ⟨(s!"Command raised an exception: {fault.kind.name}: {fault.message}").toList, ?_⟩
  have isReport : Reply.fault fault =
      s!"Something went wrong: Command raised an exception: {fault.kind.name}: {fault.message}" := by
    unfold Reply.fault
    split
    · next refusal => exact absurd refusal reported.1
    · next unreadable => exact absurd unreadable reported.2
    · rfl
  rw [isReport]
  delta reportMark
  simp only [String.toList_append]
  rfl

theorem calm_lengthMessage : IsCalm (Text.lengthMessage "") := by
  have constants : IsCalm (toString "Exceeds the limit (") ∧
      IsCalm (toString " digits) for integer string conversion") ∧ IsCalm "" ∧
      IsCalm "; use sys.set_int_max_str_digits() to increase the limit" := by decide
  delta Text.lengthMessage
  simp only [lacks_append, calm_nat, constants, and_self]

theorem fault_hides {fault : GameFault} (ordinary : fault.IsOrdinary) :
    replyShows? (Reply.fault fault).toList = none := by
  by_cases reported : fault.kind ≠ .refusal ∧ fault.kind ≠ .unreadableText
  · obtain ⟨rest, isReport⟩ := fault_reported reported
    rw [isReport]
    exact replyShows_of_report
  · apply replyShows_of_none
    cases fault with
    | modeNotOffered modes =>
        have listed : IsCalm ("Mode must be one of: " ++ ", ".intercalate (modes.map toString)) := by
          refine lacks_append.mpr ⟨by decide, lacks_intercalate (by decide) ?_⟩
          intro text member
          obtain ⟨mode, _, rfl⟩ := List.mem_map.mp member
          exact calm_int mode
        have calm : IsCalm (GameFault.modeNotOffered modes).message := by
          rw [GameFault.message]
          split
          · exact calm_lengthMessage
          · exact listed
        exact shown_of_calm calm.absent
    | poolTooSmall available =>
        have constants : IsCalm (toString "Only ") ∧ IsCalm (toString " problems are available") := by decide
        have calm : IsCalm s!"Only {available} problems are available" := by
          simp only [lacks_append, calm_nat, constants, and_self]
        exact shown_of_calm calm.absent
    | rejected rejection => exact rejection_hides ordinary
    | unsolvable fault => exact ordinary.elim
    | stored fault =>
        cases (show fault = .tooLong from ordinary)
        exact shown_of_calm calm_lengthMessage.absent
    | notWhole fault => cases fault <;> exact shown_of_calm (by decide)
    | alreadyPlaying | notPlaying | negativeDraw => exact shown_of_calm (by decide)
    | nothingToAnswer | nothingToPass | nothingToShow | outOfRange | unreachable =>
        exact absurd ⟨by simp [GameFault.kind], by simp [GameFault.kind]⟩ reported

/-! Faults of commands. -/

/-- From a session, at a moment, an action fails in no other way than these. -/
def Action.FailsOnly {α : Type} (action : Action α) (moment : Moment) (session : Session)
    (allowed : GameFault → Prop) : Prop :=
  ∀ fault later, action moment session = (.error fault, later) → allowed fault

section

variable {α β : Type} {moment : Moment} {session : Session} {allowed : GameFault → Prop}

theorem failsOnly_pure (value : α) : (pure value : Action α).FailsOnly moment session allowed :=
  fun _ _ fails => nomatch fails

theorem failsOnly_fail {fault : GameFault} (isAllowed : allowed fault) :
    (Action.fail fault : Action α).FailsOnly moment session allowed := by
  rintro _ _ ⟨⟩
  exact isAllowed

theorem failsOnly_moment : Action.moment.FailsOnly moment session allowed :=
  fun _ _ fails => nomatch fails

theorem failsOnly_ofExcept {ε : Type} {wrap : ε → GameFault} {result : Except ε α}
    (areAllowed : ∀ fault, result = .error fault → allowed (wrap fault)) :
    (Action.ofExcept wrap result).FailsOnly moment session allowed := by
  cases result with
  | ok value => exact failsOnly_pure value
  | error fault => exact failsOnly_fail (areAllowed fault rfl)

theorem failsOnly_command {run : Float → Store → α × Store}
    (isAllowed : ∀ reason, moment.outage = some reason → allowed (.unreachable reason)) :
    (Action.command run).FailsOnly moment session allowed := by
  intro fault later fails
  unfold Action.command at fails
  split at fails
  · next reason outage =>
      cases fails
      exact isAllowed reason outage
  · cases fails

theorem Action.FailsOnly.bind {action : Action α} {next : α → Action β}
    (first : action.FailsOnly moment session allowed)
    (rest : ∀ value later, action moment session = (.ok value, later) → (next value).FailsOnly moment later allowed) :
    (action >>= next).FailsOnly moment session allowed := by
  intro fault later fails
  cases performed : action moment session with
  | mk result between =>
      cases result with
      | error found =>
          rw [bind_of_error performed] at fails
          obtain ⟨same, _⟩ := Prod.mk.inj fails
          exact Except.error.inj same ▸ first found between performed
      | ok value =>
          rw [bind_of_ok performed] at fails
          exact rest value between performed fault later fails

theorem failsOnly_mapM {run : α → Action β} {items : List α}
    (each : ∀ item session, (run item).FailsOnly moment session allowed) :
    (items.mapM run).FailsOnly moment session allowed := by
  have goes (done : List β) : (List.mapM.loop run items done).FailsOnly moment session allowed := by
    induction items generalizing done session with
    | nil => exact failsOnly_pure _
    | cons item items ih => exact (each item session).bind fun value later _ => ih _
  exact goes []

end

section

variable {rules : Rules} {pool : List String} {moment : Moment} {session : Session} {answer : Option (List Char)}

theorem failsOnly_write [DepthLimit] (write : Float → Store → Store) :
    (Action.write write).FailsOnly moment session (GameFault.Arises rules pool moment answer) :=
  failsOnly_command fun _ => .unreachable

theorem saveGame_failsOnly [DepthLimit] (game : Game) :
    (saveGame rules game).FailsOnly moment session (GameFault.Arises rules pool moment answer) := by
  have encodes : (Action.ofExcept .stored game.encode).FailsOnly moment session
      (GameFault.Arises rules pool moment answer) := by
    apply failsOnly_ofExcept
    intro fault fails
    by_cases storable : game.IsStorable
    · rw [Game.encode_eq storable] at fails
      cases fails
    · rw [Game.encode_error storable] at fails
      cases fails
      exact .tooLong
  exact encodes.bind fun _ _ _ => (failsOnly_write _).bind fun _ _ _ => failsOnly_write _

theorem storeOrFinish_failsOnly [DepthLimit] (game : Game) :
    (storeOrFinish rules game).FailsOnly moment session (GameFault.Arises rules pool moment answer) := by
  unfold storeOrFinish finishGame
  split
  · refine failsOnly_moment.bind ?_
    intro now later _
    refine (failsOnly_write _).bind ?_
    intro _ between _
    dsimp only
    split
    · exact (failsOnly_write _).bind fun _ _ _ => failsOnly_pure _
    · exact failsOnly_pure _
  · exact (saveGame_failsOnly game).bind fun _ _ _ => failsOnly_pure _

theorem ensureProblems_failsOnly [DepthLimit] :
    (ensureProblems rules).FailsOnly moment session (GameFault.Arises rules pool moment answer) := by
  intro fault later fails
  cases outage : moment.outage with
  | none =>
      rw [ensureProblems_eq rules outage] at fails
      cases fails
  | some reason =>
      have looks : Action.session moment session = (.ok session, session) := rfl
      unfold ensureProblems at fails
      rw [bind_of_ok looks] at fails
      dsimp only at fails
      split at fails
      · cases fails
      · rw [storedProblems, bind_of_error (query_unreachable _ session outage)] at fails
        cases fails
        exact .unreachable outage

theorem draw_failsOnly [DepthLimit] (count : Int) (problems : List String) :
    (draw count problems).FailsOnly moment session (GameFault.Arises rules pool moment answer) := by
  unfold draw
  refine failsOnly_moment.bind ?_
  intro _ _ _
  split
  · split
    · split
      · exact failsOnly_pure _
      · exact failsOnly_fail .outOfRange
    · split
      · exact failsOnly_fail .negativeDraw
      · exact failsOnly_pure _
  · split
    · exact failsOnly_fail .negativeDraw
    · exact failsOnly_pure _

theorem drawProblems_failsOnly [DepthLimit] (stocked : session.IsStocked) (pooled : session.problems rules = pool)
    (count : Int) :
    (drawProblems rules count).FailsOnly moment session (GameFault.Arises rules pool moment answer) := by
  refine ensureProblems_failsOnly.bind ?_
  intro problems later gives
  have same : problems = pool :=
    ((ensureProblems_gives stocked).2 problems (congrArg Prod.fst gives)).trans pooled
  subst same
  split
  · exact (failsOnly_fail .poolTooSmall).bind fun _ _ _ => draw_failsOnly count problems
  · exact draw_failsOnly count problems

theorem leaderboard_failsOnly [DepthLimit] (server : String) (limit : Option Int) :
    (leaderboard rules server limit).FailsOnly moment session (GameFault.Arises rules pool moment answer) := by
  refine (failsOnly_command fun _ => .unreachable).bind fun leaders later _ => failsOnly_mapM ?_
  intro line session
  exact (failsOnly_ofExcept fun _ _ => .notWhole).bind fun _ _ _ => failsOnly_pure _

variable (sound : session.IsSound rules pool AreProblems)

include sound in
/-- Whatever a seat has on a sound session can be read. -/
theorem Session.IsSound.gameAt (now : Float) (seat : Seat) :
    ∃ found, (session.store.live now).gameAt seat.key = .ok found := by
  cases isText : (session.store.live now).text? seat.key with
  | none => exact ⟨none, by rw [Store.gameAt, isText]⟩
  | some text =>
      obtain ⟨expires, stored⟩ := Store.text?_eq_some.mp isText
      rw [Store.get?_live sound.stocked.keyed, Option.filter_eq_some_iff] at stored
      obtain ⟨game, reads, _, running⟩ := sound.games _ text (Store.text?_eq_some.mpr ⟨expires, stored.1⟩)
      exact ⟨some game, gameAt_of_reads isText reads running.status⟩

include sound in
theorem activeGame_failsOnly [DepthLimit] (seat : Seat) :
    (activeGame seat).FailsOnly moment session (GameFault.Arises rules pool moment answer) := by
  intro fault later fails
  cases outage : moment.outage with
  | some reason =>
      rw [activeGame_unreachable seat session outage] at fails
      cases fails
      exact .unreachable outage
  | none =>
      obtain ⟨found, isFound⟩ := sound.gameAt moment.now seat
      rw [activeGame_eq outage session seat, isFound] at fails
      cases fails

include sound in
theorem requireGame_failsOnly [DepthLimit] (seat : Seat) :
    (requireGame seat).FailsOnly moment session (GameFault.Arises rules pool moment answer) := by
  refine (activeGame_failsOnly sound seat).bind ?_
  intro found later _
  cases found with
  | none => exact failsOnly_fail .notPlaying
  | some game => exact failsOnly_pure game

include sound in
theorem createGame_failsOnly [DepthLimit] (seat : Seat) (mode : Option Int) :
    (createGame rules seat mode).FailsOnly moment session (GameFault.Arises rules pool moment answer) := by
  have ages := sound.stocked.purged rules moment
  unfold createGame
  dsimp only
  split
  · exact (failsOnly_fail .modeNotOffered).bind fun _ _ fails => nomatch fails
  · refine (activeGame_failsOnly sound seat).bind ?_
    intro found later finds
    have same : session.purged moment = later :=
      (activeGame_session seat moment session).symm.trans (congrArg Prod.snd finds)
    subst same
    split
    · exact (failsOnly_fail .alreadyPlaying).bind fun _ _ fails => nomatch fails
    · exact (drawProblems_failsOnly ages.stocked (ages.problems.trans sound.pooled) _).bind fun _ _ _ =>
        failsOnly_moment.bind fun _ _ _ => (saveGame_failsOnly _).bind fun _ _ _ => failsOnly_pure _

include sound in
theorem running_of_requireGame {seat : Seat} {game : Game} {later : Session}
    (finds : requireGame seat moment session = (.ok game, later)) : game.IsRunning rules pool AreProblems :=
  (@found_of_holds ⟨moment, seat, .look⟩ session _ game sound.stocked sound.games (gameAt_of_requireGame finds)).2

include sound in
theorem submitAnswer_failsOnly [DepthLimit] (seat : Seat) (expression : List Char) :
    (submitAnswer rules seat expression).FailsOnly moment session
      (GameFault.Arises rules pool moment (some expression)) := by
  refine (requireGame_failsOnly sound seat).bind ?_
  intro game later finds
  obtain ⟨digits, member, plays⟩ := (running_of_requireGame sound finds).spot
  have isProblem := (running_of_requireGame sound finds).fair digits member
  unfold judgeFor
  rw [plays]
  refine (failsOnly_pure _).bind ?_
  rintro _ between ⟨⟩
  refine (failsOnly_ofExcept fun rejection rejects => .rejected rfl isProblem rejects).bind ?_
  intro result _ _
  exact (storeOrFinish_failsOnly _).bind fun _ _ _ => failsOnly_pure _

include sound in
theorem passProblem_failsOnly [DepthLimit] (seat : Seat) :
    (passProblem rules seat).FailsOnly moment session (GameFault.Arises rules pool moment answer) := by
  refine (requireGame_failsOnly sound seat).bind ?_
  intro game later finds
  obtain ⟨digits, member, plays⟩ := (running_of_requireGame sound finds).spot
  obtain ⟨solution, solves⟩ := solution_isOk ((running_of_requireGame sound finds).fair digits member)
  unfold revealFor
  rw [plays]
  dsimp only
  rw [solves]
  refine (failsOnly_pure _).bind ?_
  rintro _ between ⟨⟩
  exact (storeOrFinish_failsOnly _).bind fun _ _ _ => failsOnly_pure _

include sound in
theorem cancelGame_failsOnly [DepthLimit] (seat : Seat) :
    (cancelGame seat).FailsOnly moment session (GameFault.Arises rules pool moment answer) := by
  refine (activeGame_failsOnly sound seat).bind ?_
  intro found later _
  cases found with
  | none => exact failsOnly_pure _
  | some game =>
      have deletes : (deleteGame game).FailsOnly moment later (GameFault.Arises rules pool moment answer) :=
        failsOnly_write _
      exact deletes.bind fun _ _ _ => failsOnly_pure _

end

end TenPuzzle
