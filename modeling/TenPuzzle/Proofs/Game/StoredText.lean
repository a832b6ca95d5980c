import TenPuzzle.Game.Stored
import TenPuzzle.Proofs.Json.Readable
import TenPuzzle.Proofs.Text.Integer

/-!
Stored games read back. A game has a text exactly if no whole number in it is too long, and then the text gives
the same game again, whatever its ids, problems, times and attempts are. Games that are read from a text can be
stored again.
-/

namespace TenPuzzle

def Number.Quantity.IsStorable : Number.Quantity → Prop
  | .whole value => IsShort value
  | .real _ => True

def Attempt.IsStorable (attempt : Attempt) : Prop :=
  ∀ result ∈ attempt.result, result.IsStorable

structure Game.IsStorable (game : Game) : Prop where
  mode : IsShort game.mode
  current : IsShort game.current
  correctCount : IsShort game.correctCount
  startTime : game.startTime.IsStorable
  endTime : ∀ time ∈ game.endTime, time.IsStorable
  history : ∀ attempt ∈ game.history, attempt.IsStorable

section

variable {levels : Nat}

theorem ofQuantity_readable {quantity : Number.Quantity} (storable : quantity.IsStorable) :
    Json.IsReadable levels (Json.ofQuantity quantity) := by
  cases quantity with
  | whole value => exact storable
  | real value => trivial

theorem orNull_readable {α : Type} {encode : α → Json} {field : Option α}
    (readable : ∀ value ∈ field, Json.IsReadable levels (encode value)) :
    Json.IsReadable levels (Json.orNull encode field) := by
  cases field with
  | none => trivial
  | some value => exact readable value rfl

theorem Attempt.toJson_readable {attempt : Attempt} (storable : attempt.IsStorable) :
    Json.IsReadable (levels + 1) attempt.toJson := by
  have result : Json.IsReadable levels (Json.orNull .ofQuantity attempt.result) :=
    orNull_readable fun value member => ofQuantity_readable (storable value member)
  have error : Json.IsReadable levels (Json.orNull .string attempt.error) :=
    orNull_readable fun _ _ => trivial
  exact ⟨levels.succ_pos, trivial, trivial, result, trivial, error, trivial, trivial⟩

theorem Game.toJson_readable {game : Game} (storable : game.IsStorable) :
    Json.IsReadable (levels + 3) game.toJson := by
  have problems : Json.AreReadable (levels + 1) (game.problems.map .string) := by
    rw [Json.areReadable_iff]
    intro item member
    obtain ⟨problem, _, rfl⟩ := List.mem_map.mp member
    trivial
  have endTime : Json.IsReadable (levels + 2) (Json.orNull .ofQuantity game.endTime) :=
    orNull_readable fun time member => ofQuantity_readable (storable.endTime time member)
  have history : Json.AreReadable (levels + 1) (game.history.map Attempt.toJson) := by
    rw [Json.areReadable_iff]
    intro item member
    obtain ⟨attempt, isIn, rfl⟩ := List.mem_map.mp member
    exact Attempt.toJson_readable (storable.history attempt isIn)
  exact ⟨Nat.succ_pos _, storable.mode, ⟨Nat.succ_pos _, problems⟩, trivial, trivial, trivial,
    ofQuantity_readable storable.startTime, trivial, storable.current, storable.correctCount, endTime,
    ⟨Nat.succ_pos _, history⟩, trivial⟩

end

theorem quantity_ofQuantity (quantity : Number.Quantity) :
    Json.quantity? (Json.ofQuantity quantity) = some quantity := by
  cases quantity <;> rfl

theorem nullOr_orNull {α : Type} {encode : α → Json} {decode : Json → Option α}
    (inverse : ∀ value, decode (encode value) = some value) (filled : ∀ value, encode value ≠ .null)
    (field : Option α) : Json.nullOr? decode (Json.orNull encode field) = some field := by
  cases field with
  | none => rfl
  | some value =>
      rw [Json.orNull, Json.nullOr?, inverse]
      · rfl
      · exact filled value

theorem nullOr_quantity (field : Option Number.Quantity) :
    Json.nullOr? Json.quantity? (Json.orNull .ofQuantity field) = some field :=
  nullOr_orNull quantity_ofQuantity (by rintro (value | value) <;> simp [Json.ofQuantity]) field

theorem nullOr_text (field : Option String) : Json.nullOr? Json.text? (Json.orNull .string field) = some field :=
  @nullOr_orNull _ .string Json.text? (fun _ => rfl) (fun _ => by simp) field

theorem texts_map (texts : List String) : Json.texts? (.array (texts.map .string)) = some texts := by
  change (texts.map Json.string).mapM Json.text? = _
  induction texts with
  | nil => rfl
  | cons text texts ih => simp [ih, Json.text?]

theorem Attempt.ofJson_toJson (attempt : Attempt) : Attempt.ofJson attempt.toJson = .ok attempt := by
  have fields : checkFields .attempt [
    ("problem", .string attempt.problem),
    ("expression", .string attempt.expression),
    ("result", Json.orNull .ofQuantity attempt.result),
    ("correct", .bool attempt.correct),
    ("error", Json.orNull .string attempt.error),
    ("passed", .bool attempt.passed)] = .ok () := rfl
  unfold Attempt.toJson Attempt.ofJson
  dsimp only
  rw [fields]
  simp [readField, Json.member?, nullOr_quantity, nullOr_text, Json.text?, Json.bool?, bind, Except.bind]

theorem attempts_map (attempts : List Attempt) :
    (attempts.map Attempt.toJson).mapM Attempt.ofJson = .ok attempts := by
  induction attempts with
  | nil => rfl
  | cons attempt attempts ih =>
      rw [List.map_cons, List.mapM_cons, attempt.ofJson_toJson, ih]
      rfl

theorem Game.ofJson_toJson (game : Game) : Game.ofJson game.toJson = .ok game := by
  generalize isHistory : game.history.map Attempt.toJson = history
  have attempts : history.mapM Attempt.ofJson = .ok game.history := by
    rw [← isHistory]
    exact attempts_map game.history
  unfold Game.toJson Game.ofJson
  rw [isHistory]
  dsimp only
  have fields : checkFields .game [
    ("mode", .integer game.mode),
    ("problems", .array (game.problems.map .string)),
    ("server_id", .string game.seat.server),
    ("channel_id", .string game.seat.channel),
    ("player_id", .string game.seat.player),
    ("start_time", .ofQuantity game.startTime),
    ("status", .string game.status),
    ("current_problem", .integer game.current),
    ("correct_count", .integer game.correctCount),
    ("end_time", Json.orNull .ofQuantity game.endTime),
    ("history", .array history)] = .ok () := rfl
  rw [fields]
  simp [historyOf, readField, Json.member?, Json.items?, attempts, texts_map, quantity_ofQuantity,
    nullOr_quantity, Json.text?, Json.integer?, bind, Except.bind]

theorem Game.ofText_text {game : Game} (storable : game.IsStorable) : Game.ofText game.text = .ok game := by
  have reads := Json.read_text (@Game.toJson_readable 982 game storable)
  rw [Game.ofText, Game.text, reads]
  exact game.ofJson_toJson

/-! Games that have a text. -/

theorem Json.areWritable_iff {items : List Json} :
    Json.areWritable items = true ↔ ∀ item ∈ items, item.isWritable = true := by
  induction items with
  | nil => simp [Json.areWritable]
  | cons item items ih => simp [Json.areWritable, ih]

theorem ofQuantity_writable {quantity : Number.Quantity} :
    (Json.ofQuantity quantity).isWritable = true ↔ quantity.IsStorable := by
  cases quantity with
  | whole value =>
      rw [Json.ofQuantity, Json.isWritable, Bool.not_eq_true', isTooLong_eq_false]
      rfl
  | real value => exact ⟨fun _ => trivial, fun _ => rfl⟩

theorem orNull_writable {α : Type} {encode : α → Json} {field : Option α} :
    (Json.orNull encode field).isWritable = true ↔ ∀ value ∈ field, (encode value).isWritable = true := by
  cases field with
  | none => simp [Json.orNull, Json.isWritable]
  | some value => simp [Json.orNull]

theorem Attempt.toJson_writable {attempt : Attempt} : attempt.toJson.isWritable = true ↔ attempt.IsStorable := by
  simp only [Attempt.toJson, Json.isWritable, Json.haveWritable, orNull_writable, ofQuantity_writable,
    Bool.and_eq_true]
  simp [Attempt.IsStorable]

theorem Game.toJson_writable {game : Game} : game.toJson.isWritable = true ↔ game.IsStorable := by
  simp only [Game.toJson, Json.isWritable, Json.haveWritable, orNull_writable, ofQuantity_writable,
    Json.areWritable_iff, List.forall_mem_map, Attempt.toJson_writable, Bool.and_eq_true, Bool.not_eq_true',
    isTooLong_eq_false]
  constructor
  · rintro ⟨mode, _, _, _, _, startTime, _, current, correctCount, endTime, history, _⟩
    exact ⟨mode, current, correctCount, startTime, endTime, history⟩
  · intro storable
    exact ⟨storable.mode, fun _ _ => trivial, trivial, trivial, trivial, storable.startTime, trivial,
      storable.current, storable.correctCount, storable.endTime, storable.history, trivial⟩

theorem Game.encode_eq {game : Game} (storable : game.IsStorable) : game.encode = .ok game.text :=
  if_pos (Game.toJson_writable.mpr storable)

theorem Game.encode_error {game : Game} (unstorable : ¬game.IsStorable) : game.encode = .error .tooLong :=
  if_neg (mt Game.toJson_writable.mp unstorable)

/-! Games that were read. -/

section

variable {levels : Nat} {members : List (String × Json)}

theorem readable_of_foldl {name : String} {found : Json} {before : Option Json}
    (readable : Json.HaveReadable levels members) (start : ∀ value ∈ before, Json.IsReadable levels value)
    (ends : members.foldl (fun found member => if member.1 = name then some member.2 else found) before =
      some found) : Json.IsReadable levels found := by
  induction members generalizing before with
  | nil => exact start found ends
  | cons member members ih =>
      refine ih readable.2 ?_ ends
      dsimp only
      split
      · rintro value ⟨⟩
        exact readable.1
      · exact start

theorem readable_of_member {name : String} {found : Json} (readable : Json.HaveReadable levels members)
    (isMember : Json.member? name members = some found) : Json.IsReadable levels found :=
  readable_of_foldl readable (by simp) isMember

/-- A field that was read comes from a readable value. -/
theorem readField_readable {α : Type} {name : String} {usual : Json} {decode : Json → Option α} {value : α}
    (readable : Json.HaveReadable levels members) (reads : readField members name usual decode = .ok value)
    (isUsual : Json.IsReadable levels usual) : ∃ found, Json.IsReadable levels found ∧ decode found = some value := by
  unfold readField at reads
  split at reads
  · next decoded decodes =>
      cases reads
      refine ⟨_, ?_, decodes⟩
      cases isMember : Json.member? name members with
      | none => exact isUsual
      | some found => exact readable_of_member readable isMember
  · cases reads

theorem integer_isShort {found : Json} {value : Int} (readable : Json.IsReadable levels found)
    (decodes : found.integer? = some value) : IsShort value := by
  cases found with
  | integer number =>
      cases decodes
      exact readable
  | _ => cases decodes

theorem quantity_isStorable {found : Json} {quantity : Number.Quantity} (readable : Json.IsReadable levels found)
    (decodes : found.quantity? = some quantity) : quantity.IsStorable := by
  cases found with
  | integer number =>
      cases decodes
      exact readable
  | float number =>
      cases decodes
      trivial
  | _ => cases decodes

theorem nullOr_isStorable {found : Json} {field : Option Number.Quantity} (readable : Json.IsReadable levels found)
    (decodes : Json.nullOr? Json.quantity? found = some field) : ∀ quantity ∈ field, quantity.IsStorable := by
  unfold Json.nullOr? at decodes
  split at decodes
  · cases decodes
    simp
  · obtain ⟨quantity, isQuantity, rfl⟩ := Option.map_eq_some_iff.mp decodes
    intro other member
    cases member
    exact quantity_isStorable readable isQuantity

theorem Attempt.ofJson_isStorable {value : Json} {attempt : Attempt} (readable : Json.IsReadable levels value)
    (reads : Attempt.ofJson value = .ok attempt) : attempt.IsStorable := by
  unfold Attempt.ofJson at reads
  split at reads
  · next members =>
      obtain ⟨_, members⟩ := readable
      obtain ⟨_, _, reads⟩ := bind_eq_ok reads
      obtain ⟨problem, _, reads⟩ := bind_eq_ok reads
      obtain ⟨expression, _, reads⟩ := bind_eq_ok reads
      obtain ⟨result, isResult, reads⟩ := bind_eq_ok reads
      obtain ⟨correct, _, reads⟩ := bind_eq_ok reads
      obtain ⟨error, _, reads⟩ := bind_eq_ok reads
      obtain ⟨passed, _, reads⟩ := bind_eq_ok reads
      cases reads
      obtain ⟨found, isFound, decodes⟩ := readField_readable members isResult trivial
      exact nullOr_isStorable isFound decodes
  · cases reads

theorem items_readable {found : Json} {items : List Json} (readable : Json.IsReadable (levels + 1) found)
    (isItems : found.items? = some items) : ∀ item ∈ items, Json.IsReadable levels item := by
  intro item member
  cases found with
  | array values =>
      cases isItems
      exact Json.areReadable_iff.mp readable.2 item member
  | object members =>
      cases isItems
      obtain ⟨name, _, rfl⟩ := List.mem_map.mp member
      trivial
  | string value =>
      cases isItems
      obtain ⟨character, _, rfl⟩ := List.mem_map.mp member
      trivial
  | _ => cases isItems

theorem mem_of_mapM {ε α β : Type} {read : α → Except ε β} {items : List α} {found : List β}
    (reads : items.mapM read = .ok found) : ∀ result ∈ found, ∃ item ∈ items, read item = .ok result := by
  induction items generalizing found with
  | nil =>
      cases reads
      simp
  | cons item items ih =>
      rw [List.mapM_cons] at reads
      obtain ⟨first, isFirst, reads⟩ := bind_eq_ok reads
      obtain ⟨rest, isRest, reads⟩ := bind_eq_ok reads
      cases reads
      intro result member
      rcases List.mem_cons.mp member with rfl | later
      · exact ⟨item, by simp, isFirst⟩
      · obtain ⟨other, isIn, isResult⟩ := ih isRest result later
        exact ⟨other, by simp [isIn], isResult⟩

theorem historyOf_isStorable {attempts : List Attempt} (readable : Json.HaveReadable (levels + 1) members)
    (reads : historyOf members = .ok attempts) : ∀ attempt ∈ attempts, attempt.IsStorable := by
  unfold historyOf at reads
  dsimp only at reads
  have history : Json.IsReadable (levels + 1) ((Json.member? "history" members).getD (.array [])) := by
    cases isMember : Json.member? "history" members with
    | none => exact ⟨levels.succ_pos, trivial⟩
    | some found => exact readable_of_member readable isMember
  split at reads
  · next items isItems =>
      intro attempt member
      obtain ⟨item, isItem, isAttempt⟩ := mem_of_mapM reads attempt member
      exact Attempt.ofJson_isStorable (items_readable history isItems item isItem) isAttempt
  · cases reads

theorem Game.ofJson_isStorable {value : Json} {game : Game} (readable : Json.IsReadable (levels + 2) value)
    (reads : Game.ofJson value = .ok game) : game.IsStorable := by
  unfold Game.ofJson at reads
  split at reads
  · next members =>
      obtain ⟨_, members⟩ := readable
      obtain ⟨history, isHistory, reads⟩ := bind_eq_ok reads
      obtain ⟨_, _, reads⟩ := bind_eq_ok reads
      obtain ⟨mode, isMode, reads⟩ := bind_eq_ok reads
      obtain ⟨problems, _, reads⟩ := bind_eq_ok reads
      obtain ⟨server, _, reads⟩ := bind_eq_ok reads
      obtain ⟨channel, _, reads⟩ := bind_eq_ok reads
      obtain ⟨player, _, reads⟩ := bind_eq_ok reads
      obtain ⟨startTime, isStartTime, reads⟩ := bind_eq_ok reads
      obtain ⟨status, _, reads⟩ := bind_eq_ok reads
      obtain ⟨current, isCurrent, reads⟩ := bind_eq_ok reads
      obtain ⟨correctCount, isCorrectCount, reads⟩ := bind_eq_ok reads
      obtain ⟨endTime, isEndTime, reads⟩ := bind_eq_ok reads
      cases reads
      obtain ⟨_, modeFound, decodesMode⟩ := readField_readable members isMode trivial
      obtain ⟨_, startFound, decodesStart⟩ := readField_readable members isStartTime trivial
      obtain ⟨_, currentFound, decodesCurrent⟩ := readField_readable members isCurrent isShort_zero
      obtain ⟨_, countFound, decodesCount⟩ := readField_readable members isCorrectCount isShort_zero
      obtain ⟨_, endFound, decodesEnd⟩ := readField_readable members isEndTime trivial
      exact {
        mode := integer_isShort modeFound decodesMode
        current := integer_isShort currentFound decodesCurrent
        correctCount := integer_isShort countFound decodesCount
        startTime := quantity_isStorable startFound decodesStart
        endTime := nullOr_isStorable endFound decodesEnd
        history := historyOf_isStorable members isHistory }
  · cases reads

end

/-- A game that was read from a text can be stored again. -/
theorem Game.ofText_isStorable {text : String} {game : Game} (reads : Game.ofText text = .ok game) :
    game.IsStorable := by
  unfold Game.ofText at reads
  split at reads
  · next value isValue => exact @Game.ofJson_isStorable 983 value game (Json.read_readable isValue) reads
  · cases reads

/-- A game reads back from its text, with every field as it was, exactly if no whole number in it has more digits
than a text may have; any other game has no text. -/
theorem encode_round_trip (game : Game) :
    ((game.encode >>= Game.ofText) = .ok game ↔ game.IsStorable) ∧
      (¬game.IsStorable → game.encode = .error .tooLong) := by
  refine ⟨⟨?_, ?_⟩, Game.encode_error⟩
  · intro reads
    obtain ⟨text, _, isGame⟩ := bind_eq_ok reads
    exact Game.ofText_isStorable isGame
  · intro storable
    rw [Game.encode_eq storable]
    exact Game.ofText_text storable

/-- The least mode that is too long. -/
theorem encode_fails_for_long_mode :
    let game := Game.fresh ⟨"1", "2", "3"⟩ ((10 ^ Text.digitLimit : Nat) : Int) ["1234"] 0.0
    (game.encode >>= Game.ofText) ≠ .ok game := by
  intro game reads
  have unstorable : ¬game.IsStorable := by
    intro storable
    have positive : 0 < Text.digitLimit := by decide
    have short := storable.mode
    change (Number.decimalDigits (Int.natAbs ((10 ^ Text.digitLimit : Nat) : Int))).length ≤ _ at short
    generalize Text.digitLimit = limit at positive short
    rw [Int.natAbs_natCast, Number.decimalDigits_length_le positive] at short
    exact lt_irrefl _ short
  rw [Game.encode_error unstorable] at reads
  cases reads

end TenPuzzle
