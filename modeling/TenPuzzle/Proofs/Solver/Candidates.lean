import Mathlib.Data.List.Infix
import Mathlib.Data.List.Nodup
import TenPuzzle.Proofs.Json.Numeral
import TenPuzzle.Proofs.Solver.Completeness

/-!
Candidates as texts. A candidate's operators and brackets can be read back from its text, whatever numbers it is made
of, because a number never has a bracket in it and all candidates have the same numbers in the same places. So no two
candidates have the same text. There are none at all if one of the numbers is too long to be written.
-/

namespace TenPuzzle

def isBracket (character : Char) : Bool :=
  character = '(' || character = ')'

def brackets (text : List Char) : List Char :=
  text.filter isBracket

def withoutBrackets (text : List Char) : List Char :=
  text.filter fun character => !isBracket character

/-- No bracket is closed that was not opened, and all that were opened are closed in the end. -/
structure IsBalanced (text : List Char) : Prop where
  opened : ∀ before, before <+: text → before.count ')' ≤ before.count '('
  closed : text.count ')' = text.count '('

theorem isBalanced_iff_inits (text : List Char) :
    (∀ before ∈ text.inits, before.count ')' ≤ before.count '(') ∧ text.count ')' = text.count '(' ↔
      IsBalanced text := by
  simp only [List.mem_inits]
  exact ⟨fun ⟨opened, closed⟩ => ⟨opened, closed⟩, fun ⟨opened, closed⟩ => ⟨opened, closed⟩⟩

instance (text : List Char) : Decidable (IsBalanced text) :=
  decidable_of_iff _ (isBalanced_iff_inits text)

/-- A shape over operands of any length. -/
def Shape.written (shape : Shape) (operands : Four (List Char)) (operators : Three Operator) : List Char :=
  shape.first.text operands.first ++ operators.first.symbol ::
    (shape.second.text operands.second ++ operators.second.symbol ::
      (shape.third.text operands.third ++ operators.third.symbol :: shape.fourth.text operands.fourth))

def Shape.slots (shape : Shape) : List Slot :=
  [shape.first, shape.second, shape.third, shape.fourth]

/-- An operand that cannot be taken for brackets. -/
structure IsOperand (operand : List Char) : Prop where
  nonempty : operand ≠ []
  plain : ∀ character ∈ operand, isBracket character = false

/-! Reading back. -/

theorem replicate_append_inj {symbol : Char} {count other : Nat} {rest later : List Char}
    (ends : rest.head? ≠ some symbol) (stops : later.head? ≠ some symbol)
    (same : List.replicate count symbol ++ rest = List.replicate other symbol ++ later) :
    count = other ∧ rest = later := by
  induction count generalizing other with
  | zero =>
      cases other with
      | zero => exact ⟨rfl, same⟩
      | succ other => exact (ends (congrArg List.head? same)).elim
  | succ count ih =>
      cases other with
      | zero => exact (stops (congrArg List.head? same).symm).elim
      | succ other =>
          obtain ⟨counts, rests⟩ := ih (List.cons.inj same).2
          exact ⟨congrArg Nat.succ counts, rests⟩

theorem IsOperand.head {operand : List Char} (isOperand : IsOperand operand) {bracket : Char}
    (closes : isBracket bracket = true) (rest : List Char) : (operand ++ rest).head? ≠ some bracket := by
  obtain ⟨first, others, rfl⟩ := List.exists_cons_of_ne_nil isOperand.nonempty
  have plain := isOperand.plain first List.mem_cons_self
  rintro same
  cases same
  rw [plain] at closes
  cases closes

theorem IsOperand.slot_inj {operand rest later : List Char} {slot other : Slot} (isOperand : IsOperand operand)
    (ends : rest.head? ≠ some ')') (stops : later.head? ≠ some ')')
    (same : slot.text operand ++ rest = other.text operand ++ later) : slot = other ∧ rest = later := by
  simp only [Slot.text, List.append_assoc] at same
  obtain ⟨opened, inner⟩ := replicate_append_inj (isOperand.head rfl _) (isOperand.head rfl _) same
  obtain ⟨closed, outer⟩ := replicate_append_inj ends stops (List.append_cancel_left inner)
  refine ⟨?_, outer⟩
  calc
    slot = ⟨slot.opened, slot.closed⟩ := rfl
    _ = ⟨other.opened, other.closed⟩ := by rw [opened, closed]

theorem symbol_head (operator : Operator) (rest : List Char) : (operator.symbol :: rest).head? ≠ some ')' := by
  cases operator <;> simp [Operator.symbol]

theorem symbol_injective : Function.Injective Operator.symbol := by
  intro operator other same
  cases operator <;> cases other <;> first | rfl | cases same

section

variable {operands : Four (List Char)} (areOperands : ∀ operand ∈ operands.toList, IsOperand operand)

include areOperands

theorem Shape.written_inj {shape other : Shape} {operators others : Three Operator}
    (same : shape.written operands operators = other.written operands others) :
    shape.slots = other.slots ∧ operators = others := by
  simp only [Four.toList, List.forall_mem_cons] at areOperands
  obtain ⟨first, second, third, fourth, _⟩ := areOperands
  obtain ⟨firstSlot, afterFirst⟩ := first.slot_inj (symbol_head _ _) (symbol_head _ _) same
  obtain ⟨firstSymbol, fromSecond⟩ := List.cons.inj afterFirst
  obtain ⟨secondSlot, afterSecond⟩ := second.slot_inj (symbol_head _ _) (symbol_head _ _) fromSecond
  obtain ⟨secondSymbol, fromThird⟩ := List.cons.inj afterSecond
  obtain ⟨thirdSlot, afterThird⟩ := third.slot_inj (symbol_head _ _) (symbol_head _ _) fromThird
  obtain ⟨thirdSymbol, fromFourth⟩ := List.cons.inj afterThird
  rw [← List.append_nil (shape.fourth.text _), ← List.append_nil (other.fourth.text _)] at fromFourth
  obtain ⟨fourthSlot, _⟩ := fourth.slot_inj (by simp) (by simp) fromFourth
  refine ⟨by rw [Shape.slots, firstSlot, secondSlot, thirdSlot, fourthSlot, Shape.slots], ?_⟩
  calc
    operators = ⟨operators.first, operators.second, operators.third⟩ := rfl
    _ = ⟨others.first, others.second, others.third⟩ := by
      rw [symbol_injective firstSymbol, symbol_injective secondSymbol, symbol_injective thirdSymbol]

end

/-! What is left with and without brackets. -/

def Shape.bracketing (shape : Shape) : List Char :=
  shape.slots.flatMap fun slot => List.replicate slot.opened '(' ++ List.replicate slot.closed ')'

theorem isBracket_symbol (operator : Operator) : isBracket operator.symbol = false := by
  cases operator <;> rfl

theorem brackets_join (left right : List Char) (operator : Operator) :
    brackets (left ++ operator.symbol :: right) = brackets left ++ brackets right := by
  simp [brackets, isBracket_symbol]

theorem withoutBrackets_join (left right : List Char) (operator : Operator) :
    withoutBrackets (left ++ operator.symbol :: right) =
      withoutBrackets left ++ operator.symbol :: withoutBrackets right := by
  simp [withoutBrackets, isBracket_symbol]

theorem IsOperand.brackets_text {operand : List Char} (isOperand : IsOperand operand) (slot : Slot) :
    brackets (slot.text operand) = List.replicate slot.opened '(' ++ List.replicate slot.closed ')' := by
  have none : operand.filter isBracket = [] := by simpa using isOperand.plain
  rw [brackets, Slot.text, List.filter_append, List.filter_append, none, List.append_nil, List.filter_replicate,
    List.filter_replicate]
  rfl

theorem IsOperand.withoutBrackets_text {operand : List Char} (isOperand : IsOperand operand) (slot : Slot) :
    withoutBrackets (slot.text operand) = operand := by
  have all : operand.filter (fun character => !isBracket character) = operand := by simpa using isOperand.plain
  rw [withoutBrackets, Slot.text, List.filter_append, List.filter_append, all, List.filter_replicate,
    List.filter_replicate]
  exact List.append_nil operand

theorem IsBalanced.of_brackets {text : List Char} (balanced : IsBalanced (brackets text)) : IsBalanced text where
  opened := by
    intro before isPrefix
    have inner := balanced.opened (brackets before) (isPrefix.filter isBracket)
    rwa [brackets, List.count_filter rfl, List.count_filter rfl] at inner
  closed := by
    have whole := balanced.closed
    rwa [brackets, List.count_filter rfl, List.count_filter rfl] at whole

theorem shapes_isBalanced : ∀ shape ∈ Shape.all, IsBalanced shape.bracketing := by
  decide

section

variable {operands : Four (List Char)} (areOperands : ∀ operand ∈ operands.toList, IsOperand operand)

include areOperands

theorem Shape.brackets_written (shape : Shape) (operators : Three Operator) :
    brackets (shape.written operands operators) = shape.bracketing := by
  simp only [Four.toList, List.forall_mem_cons] at areOperands
  obtain ⟨first, second, third, fourth, _⟩ := areOperands
  rw [Shape.written, brackets_join, brackets_join, brackets_join, first.brackets_text, second.brackets_text,
    third.brackets_text, fourth.brackets_text]
  simp [Shape.bracketing, Shape.slots]

theorem Shape.withoutBrackets_written (shape : Shape) (operators : Three Operator) :
    withoutBrackets (shape.written operands operators) =
      operands.first ++ operators.first.symbol :: (operands.second ++ operators.second.symbol ::
        (operands.third ++ operators.third.symbol :: operands.fourth)) := by
  simp only [Four.toList, List.forall_mem_cons] at areOperands
  obtain ⟨first, second, third, fourth, _⟩ := areOperands
  rw [Shape.written, withoutBrackets_join, withoutBrackets_join, withoutBrackets_join, first.withoutBrackets_text,
    second.withoutBrackets_text, third.withoutBrackets_text, fourth.withoutBrackets_text]

end

/-! Candidates. -/

def Four.texts (operands : Four Int) : Four (List Char) :=
  operands.map fun operand => (toString operand).toList

theorem isOperand_integer (value : Int) : IsOperand (toString value).toList := by
  have digits : IsOperand (Number.decimalDigits value.natAbs) := by
    refine ⟨Number.decimalDigits_ne_nil _, ?_⟩
    intro digit member
    have isDigit := Number.isDigit_of_mem_decimalDigits digit member
    simp [isBracket, ne_of_isDigit isDigit (show '('.isDigit = false from rfl),
      ne_of_isDigit isDigit (show ')'.isDigit = false from rfl)]
  rw [Json.integer_toList]
  split
  · refine ⟨List.cons_ne_nil _ _, ?_⟩
    rw [List.forall_mem_cons]
    exact ⟨rfl, digits.plain⟩
  · exact digits

theorem areOperands_integers (operands : Four Int) : ∀ operand ∈ operands.texts.toList, IsOperand operand := by
  simp only [Four.texts, Four.map, Four.toList, List.forall_mem_cons, List.not_mem_nil, false_implies,
    implies_true, isOperand_integer, and_self]

theorem render_eq_written (shape : Shape) (operands : Four Int) (operators : Three Operator) :
    (shape.render (operands.map toString) (operators.map fun operator => operator.symbol.toString)).toList =
      shape.written operands.texts operators := by
  simp [Shape.render, Shape.written, Slot.render, Slot.text, Four.texts, Four.map, Three.map]

theorem candidatesOf_eq_map (operands : Four Int) :
    candidatesOf operands = (operatorTriples ×ˢ Shape.all).map fun choice =>
      choice.2.render (operands.map toString) (choice.1.map fun operator => operator.symbol.toString) := by
  simp only [candidatesOf, SProd.sprod, List.product, List.map_flatMap, List.map_map]
  rfl

theorem slots_inj : ∀ shape ∈ Shape.all, ∀ other ∈ Shape.all, shape.slots = other.slots → shape = other := by
  decide

theorem operatorTriples_nodup : operatorTriples.Nodup := by
  decide

theorem shapes_nodup : Shape.all.Nodup := by
  decide

theorem candidatesOf_nodup (operands : Four Int) : (candidatesOf operands).Nodup := by
  rw [candidatesOf_eq_map]
  refine (operatorTriples_nodup.product shapes_nodup).map_on ?_
  rintro ⟨operators, shape⟩ member ⟨others, other⟩ isOther same
  obtain ⟨_, isShape⟩ := List.mem_product.mp member
  obtain ⟨_, isOtherShape⟩ := List.mem_product.mp isOther
  have texts := congrArg String.toList same
  rw [render_eq_written, render_eq_written] at texts
  obtain ⟨slots, rfl⟩ := Shape.written_inj (areOperands_integers operands) texts
  rw [slots_inj shape isShape other isOtherShape slots]

theorem getElem?_product (rows : List α) {columns : List β} (row : Nat) {column : Nat}
    (inside : column < columns.length) :
    (rows ×ˢ columns)[columns.length * row + column]? = rows[row]?.map fun found => (found, columns[column]) := by
  induction rows generalizing row with
  | nil => rfl
  | cons first rows ih =>
      rw [List.product_cons]
      cases row with
      | zero => simp [List.getElem?_append_left, inside]
      | succ row =>
          have beyond : columns.length * (row + 1) + column = (columns.map (first, ·)).length +
              (columns.length * row + column) := by
            rw [List.length_map, Nat.mul_succ]
            omega
          rw [beyond, List.getElem?_append_right (Nat.le_add_right _ _), Nat.add_sub_cancel_left, ih,
            List.getElem?_cons_succ]

theorem operatorTriples_getElem? (first second third : Fin 4) :
    operatorTriples[16 * first.val + 4 * second + third]? =
      some ⟨Operator.all[first], Operator.all[second], Operator.all[third]⟩ := by
  revert first second third
  decide

theorem candidatesOf_length (operands : Four Int) : (candidatesOf operands).length = 768 := by
  rw [candidatesOf_eq_map, List.length_map, List.length_product]
  rfl

theorem candidatesOf_getElem? (operands : Four Int) (first second third : Fin 4) (row : Fin 12) :
    (candidatesOf operands)[12 * (16 * first.val + 4 * second + third) + row]? =
      some (Shape.all[row].render (operands.map toString)
        ((⟨Operator.all[first], Operator.all[second], Operator.all[third]⟩ : Three Operator).map
          fun operator => operator.symbol.toString)) := by
  have found := @getElem?_product _ _ operatorTriples Shape.all (16 * first.val + 4 * second + third) row row.isLt
  rw [operatorTriples_getElem?] at found
  rw [candidatesOf_eq_map, List.getElem?_map]
  exact congrArg _ found

theorem symbolAt : ∀ index : Fin 4, "+-*/".toList[index] = Operator.all[index].symbol := by
  decide

theorem candidates_tooLong_iff {operands : Four Int} :
    candidates operands.toList = .error .tooLong ↔ ∃ operand ∈ operands.toList, ¬IsShort operand := by
  simp only [← isTooLong_iff, ← List.any_eq_true]
  rw [candidates_eq]
  split <;> simp_all

/-- Four integers have no candidates exactly if one of them is too long to be written. Otherwise their candidates are
768 different texts, in a fixed order: the operators vary with the first one slowest, and the shapes vary fastest.
Without its brackets a candidate is the four integers in their order with its operators between them, and its brackets
are balanced. -/
theorem candidates_neither_repeat_nor_reorder (operands : Four Int) :
    (candidates operands.toList = .error .tooLong ↔ ∃ operand ∈ operands.toList, ¬IsShort operand) ∧
    ((∀ operand ∈ operands.toList, IsShort operand) →
      ∃ all, candidates operands.toList = .ok all ∧ all.length = 768 ∧ all.Nodup ∧
        ∀ (first second third : Fin 4) (row : Fin 12), ∃ candidate,
          all[12 * (16 * first.val + 4 * second + third) + row]? = some candidate ∧
          candidate = Shape.all[row].render (operands.map toString)
            ⟨"+-*/".toList[first].toString, "+-*/".toList[second].toString, "+-*/".toList[third].toString⟩ ∧
          withoutBrackets candidate.toList =
            (toString operands.first).toList ++ "+-*/".toList[first] ::
              ((toString operands.second).toList ++ "+-*/".toList[second] ::
                ((toString operands.third).toList ++ "+-*/".toList[third] :: (toString operands.fourth).toList)) ∧
          IsBalanced candidate.toList) := by
  refine ⟨candidates_tooLong_iff, ?_⟩
  intro short
  refine ⟨candidatesOf operands, candidates_of_short short, candidatesOf_length operands, candidatesOf_nodup operands,
    ?_⟩
  intro first second third row
  refine ⟨_, candidatesOf_getElem? operands first second third row, ?_⟩
  rw [symbolAt, symbolAt, symbolAt, render_eq_written]
  have numbers := areOperands_integers operands
  refine ⟨rfl, Shape.withoutBrackets_written numbers _ _, .of_brackets ?_⟩
  rw [Shape.brackets_written numbers]
  exact shapes_isBalanced _ (List.getElem_mem _)

theorem candidates_neither_repeat_nor_reorder_of_signed :
    let operands : Four Int := ⟨-12, 0, 98765432109876543210, 3⟩
    (∀ operand ∈ operands.toList, IsShort operand) ∧
      ∃ all, candidates operands.toList = .ok all ∧ all.length = 768 ∧ all.Nodup := by
  intro operands
  have short : ∀ operand ∈ operands.toList, IsShort operand := by
    unfold IsShort
    decide +kernel
  obtain ⟨all, lists, length, distinct, _⟩ := (candidates_neither_repeat_nor_reorder operands).2 short
  exact ⟨short, all, lists, length, distinct⟩

/-- There are integers without candidates: the least of more than 4300 digits cannot be written. -/
theorem no_candidates_of_long_number :
    Text.digitLimit = 4300 ∧ ¬∃ all, candidates [10 ^ Text.digitLimit, 1, 2, 3] = .ok all := by
  have fails : candidates [10 ^ Text.digitLimit, 1, 2, 3] = .error .tooLong :=
    (@candidates_tooLong_iff ⟨10 ^ Text.digitLimit, 1, 2, 3⟩).mpr ⟨_, List.mem_cons_self, not_isShort_pow⟩
  refine ⟨rfl, ?_⟩
  rintro ⟨all, lists⟩
  rw [fails] at lists
  cases lists

end TenPuzzle
