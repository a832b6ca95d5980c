import Mathlib.Logic.Relation
import TenPuzzle.Game.Session
import TenPuzzle.Proofs.Answer.Judgement

/-!
Normal forms of answers. To exchange the symbols one after the other in the whole text, and to join the words of what
that leaves, is to treat every character on its own. Two texts have the same normal form exactly if they differ in
blanks and in the way that their operators are shown, and then they are judged alike.
-/

namespace TenPuzzle

/-- The ways to show an operator, each with the symbol that it stands for. -/
def displaySymbols : List (Char × Char) :=
  [('×', '*'), ('x', '*'), ('X', '*'), ('÷', '/'), ('−', '-')]

def exchanged (character : Char) (symbol : Char × Char) : Char :=
  if character = symbol.1 then symbol.2 else character

def exchange (text : List Char) (symbol : Char × Char) : List Char :=
  text.map fun character => exchanged character symbol

/-- What stands between the blanks of a text. -/
def Text.words (text : List Char) : List (List Char) :=
  (text.splitOnP isBlank).filter fun word => !word.isEmpty

/-! One character at a time. -/

theorem plainSymbol_of_display : ∀ symbol ∈ displaySymbols, plainSymbol symbol.1 = symbol.2 := by
  decide

theorem plainSymbol_of_other {character : Char} (other : ∀ symbol ∈ displaySymbols, character ≠ symbol.1) :
    plainSymbol character = character := by
  simp only [displaySymbols, List.forall_mem_cons] at other
  obtain ⟨times, small, capital, obelus, minus, _⟩ := other
  rw [plainSymbol, if_neg (by simp [times, small, capital]), if_neg obelus, if_neg minus]

theorem foldl_exchanged_of_other {character : Char} {symbols : List (Char × Char)}
    (other : ∀ symbol ∈ symbols, character ≠ symbol.1) : symbols.foldl exchanged character = character := by
  induction symbols with
  | nil => rfl
  | cons symbol symbols ih =>
      rw [List.foldl_cons, exchanged, if_neg (other symbol List.mem_cons_self)]
      exact ih fun later member => other later (List.mem_cons_of_mem symbol member)

/-- No symbol that an exchange puts in is exchanged by a later one. -/
theorem foldl_exchanged_of_display :
    ∀ symbol ∈ displaySymbols, displaySymbols.foldl exchanged symbol.1 = symbol.2 := by
  decide

theorem display_or_other (character : Char) :
    (∃ symbol ∈ displaySymbols, symbol.1 = character) ∨ ∀ symbol ∈ displaySymbols, character ≠ symbol.1 := by
  by_cases shown : ∃ symbol ∈ displaySymbols, symbol.1 = character
  · exact .inl shown
  · exact .inr fun symbol member same => shown ⟨symbol, member, same.symm⟩

theorem plainSymbol_eq (character : Char) : plainSymbol character = displaySymbols.foldl exchanged character := by
  rcases display_or_other character with ⟨symbol, member, rfl⟩ | other
  · rw [plainSymbol_of_display symbol member, foldl_exchanged_of_display symbol member]
  · rw [plainSymbol_of_other other, foldl_exchanged_of_other other]

theorem foldl_exchange (symbols : List (Char × Char)) (text : List Char) :
    symbols.foldl exchange text = text.map (symbols.foldl exchanged) := by
  induction symbols generalizing text with
  | nil => exact (List.map_id text).symm
  | cons symbol symbols ih =>
      rw [List.foldl_cons, ih, exchange, List.map_map]
      rfl

theorem flatten_words (text : List Char) : (Text.words text).flatten = Text.withoutBlanks text := by
  rw [Text.words, List.flatten_filter_not_isEmpty, Text.withoutBlanks]
  induction text with
  | nil => rfl
  | cons character text ih =>
      rw [List.splitOnP_cons_eq_if_modifyHead]
      cases blank : Text.isBlank character with
      | true => simpa [blank] using ih
      | false =>
          obtain ⟨word, words, isSplit⟩ := List.exists_cons_of_ne_nil (List.splitOnP_ne_nil Text.isBlank text)
          rw [isSplit] at ih ⊢
          simpa [blank] using ih

theorem normalize_eq (text : List Char) :
    normalize text = (Text.words (displaySymbols.foldl exchange text)).flatten := by
  rw [flatten_words, foldl_exchange, normalize, List.map_congr_left fun character _ => plainSymbol_eq character]

theorem normalize_append (left right : List Char) :
    normalize (left ++ right) = normalize left ++ normalize right := by
  rw [normalize, List.map_append, Text.withoutBlanks, List.filter_append]
  rfl

theorem normalize_cons (character : Char) (text : List Char) :
    normalize (character :: text) = normalize [character] ++ normalize text :=
  normalize_append [character] text

theorem plain_ne_display : ∀ shown ∈ displaySymbols, ∀ symbol ∈ displaySymbols, shown.2 ≠ symbol.1 := by
  decide

theorem plainSymbol_ne_display (character : Char) : ∀ symbol ∈ displaySymbols, plainSymbol character ≠ symbol.1 := by
  rcases display_or_other character with ⟨shown, member, rfl⟩ | other
  · rw [plainSymbol_of_display shown member]
    exact plain_ne_display shown member
  · rwa [plainSymbol_of_other other]

theorem mem_normalize {text : List Char} {character : Char} (member : character ∈ normalize text) :
    Text.isBlank character = false ∧ ∀ symbol ∈ displaySymbols, character ≠ symbol.1 := by
  obtain ⟨inText, notBlank⟩ := List.mem_filter.mp member
  obtain ⟨original, _, rfl⟩ := List.mem_map.mp inText
  exact ⟨by simpa using notBlank, plainSymbol_ne_display original⟩

theorem normalize_normalize (text : List Char) : normalize (normalize text) = normalize text := by
  have same : (normalize text).map plainSymbol = normalize text := by
    rw [List.map_congr_left fun character member => plainSymbol_of_other (mem_normalize member).2, List.map_id']
  rw [normalize, same, withoutBlanks_normalize]

/-! Spellings. -/

/-- The second text is the first with a blank put in, or with one operator shown in another way. -/
inductive Respells : List Char → List Char → Prop
  | blank (before after : List Char) {character : Char} : Text.isBlank character = true →
      Respells (before ++ after) (before ++ character :: after)
  | symbol (before after : List Char) {symbol : Char × Char} : symbol ∈ displaySymbols →
      Respells (before ++ symbol.2 :: after) (before ++ symbol.1 :: after)

/-- Blanks and display symbols may come and go. -/
def SameSpelling : List Char → List Char → Prop :=
  Relation.EqvGen Respells

theorem display_isBlank : ∀ symbol ∈ displaySymbols, Text.isBlank symbol.1 = false := by
  decide

theorem normalize_blank {character : Char} (blank : Text.isBlank character = true) : normalize [character] = [] := by
  have other : ∀ symbol ∈ displaySymbols, character ≠ symbol.1 := by
    rintro symbol member rfl
    rw [display_isBlank symbol member] at blank
    cases blank
  rw [normalize, List.map_singleton, plainSymbol_of_other other]
  simp [Text.withoutBlanks, blank]

theorem normalize_display : ∀ symbol ∈ displaySymbols,
    normalize [symbol.1] = [symbol.2] ∧ normalize [symbol.2] = [symbol.2] := by
  decide

theorem normalize_other {character : Char} (blank : Text.isBlank character = false)
    (other : ∀ symbol ∈ displaySymbols, character ≠ symbol.1) : normalize [character] = [character] := by
  rw [normalize, List.map_singleton, plainSymbol_of_other other]
  simp [Text.withoutBlanks, blank]

theorem Respells.normalize_eq {left right : List Char} (respells : Respells left right) :
    normalize left = normalize right := by
  cases respells with
  | blank before after blank =>
      rw [normalize_append, normalize_append, normalize_cons, normalize_blank blank, List.nil_append]
  | symbol before after displays =>
      obtain ⟨shown, plain⟩ := normalize_display _ displays
      rw [normalize_append, normalize_append, normalize_cons, plain, ← shown, ← normalize_cons]

theorem SameSpelling.cons {left right : List Char} (same : SameSpelling left right) (character : Char) :
    SameSpelling (character :: left) (character :: right) := by
  induction same with
  | rel left right respells =>
      cases respells with
      | blank before after blank => exact .rel _ _ (.blank (character :: before) after blank)
      | symbol before after displays => exact .rel _ _ (.symbol (character :: before) after displays)
  | refl text => exact .refl _
  | symm left right _ ih => exact .symm _ _ ih
  | trans left middle right _ _ first second => exact .trans _ _ _ first second

/-- Every text can be respelled into its normal form. -/
theorem sameSpelling_normalize (text : List Char) : SameSpelling text (normalize text) := by
  induction text with
  | nil => exact .refl []
  | cons character text ih =>
      cases blank : Text.isBlank character with
      | true =>
          have dropped : SameSpelling (character :: text) text := .symm _ _ (.rel _ _ (.blank [] text blank))
          rw [normalize_cons, normalize_blank blank]
          exact dropped.trans _ _ _ ih
      | false =>
          rcases display_or_other character with ⟨symbol, member, rfl⟩ | other
          · have shown : SameSpelling (symbol.1 :: text) (symbol.2 :: text) :=
              .symm _ _ (.rel _ _ (.symbol [] text member))
            rw [normalize_cons, (normalize_display symbol member).1]
            exact shown.trans _ _ _ (ih.cons symbol.2)
          · rw [normalize_cons, normalize_other blank other]
            exact ih.cons character

theorem normalize_eq_iff {left right : List Char} : normalize left = normalize right ↔ SameSpelling left right := by
  constructor
  · intro same
    have back : SameSpelling (normalize left) right := same ▸ .symm _ _ (sameSpelling_normalize right)
    exact .trans _ _ _ (sameSpelling_normalize left) back
  · intro same
    induction same with
    | rel left right respells => exact respells.normalize_eq
    | refl text => rfl
    | symm left right _ ih => exact ih.symm
    | trans left middle right _ _ first second => exact first.trans second

/-! Answers. -/

theorem judge_congr [DepthLimit] {left right : List Char} (same : normalize left = normalize right) (problem : String) :
    judge left problem = judge right problem := by
  unfold judge
  rw [same]

theorem judgeFor_congr [DepthLimit] {left right : List Char} (same : normalize left = normalize right) (game : Game) :
    judgeFor game left = judgeFor game right := by
  unfold judgeFor
  simp only [judge_congr same, same]

theorem submitAnswer_congr [DepthLimit] {left right : List Char} (same : normalize left = normalize right)
    (rules : Rules) (seat : Seat) : submitAnswer rules seat left = submitAnswer rules seat right := by
  unfold submitAnswer
  simp only [judgeFor_congr same]

/-- Normal forms are canonical. A text is brought into normal form character by character, although its symbols are
exchanged one after the other and its words are joined; what comes out has no blanks and no display symbols, and stays
as it is when it is brought into normal form again. Two texts have the same normal form exactly if each is a spelling
of the other, and all spellings of an answer are judged alike and leave the same game behind. -/
theorem normal_form_is_canonical [DepthLimit] (text : List Char) :
    normalize text = (Text.words (displaySymbols.foldl exchange text)).flatten ∧
    (∀ later, normalize (text ++ later) = normalize text ++ normalize later) ∧
    (∀ character ∈ normalize text, Text.isBlank character = false ∧ ∀ symbol ∈ displaySymbols, character ≠ symbol.1) ∧
    normalize (normalize text) = normalize text ∧
    (∀ problem, judge (normalize text) problem = judge text problem) ∧
    ∀ other, (normalize other = normalize text ↔ SameSpelling other text) ∧
      (SameSpelling other text → (∀ problem, judge other problem = judge text problem) ∧
        ∀ rules seat, submitAnswer rules seat other = submitAnswer rules seat text) := by
  refine ⟨normalize_eq text, normalize_append text, fun _ => mem_normalize, normalize_normalize text,
    judge_congr (normalize_normalize text), ?_⟩
  intro other
  refine ⟨normalize_eq_iff, ?_⟩
  intro spelled
  have same := normalize_eq_iff.mpr spelled
  exact ⟨judge_congr same, submitAnswer_congr same⟩

section

attribute [local instance] DepthLimit.standard

theorem normal_form_is_canonical_of_quotient :
    SameSpelling "8/(1-2*3)".toList "8 ÷ (1 − 2 x 3)".toList ∧ '/' ∈ normalize "8 ÷ (1 − 2 x 3)".toList ∧
      Text.isBlank '/' = false ∧
      judge "8/(1-2*3)".toList "8123" = judge "8 ÷ (1 − 2 x 3)".toList "8123" := by
  obtain ⟨_, _, plain, _, _, spellings⟩ := normal_form_is_canonical "8 ÷ (1 − 2 x 3)".toList
  obtain ⟨canonical, alike⟩ := spellings "8/(1-2*3)".toList
  have member : '/' ∈ normalize "8 ÷ (1 − 2 x 3)".toList := by decide +kernel
  have same : SameSpelling "8/(1-2*3)".toList "8 ÷ (1 − 2 x 3)".toList := canonical.mp (by decide +kernel)
  exact ⟨same, member, (plain '/' member).1, (alike same).1 "8123"⟩

end

end TenPuzzle
