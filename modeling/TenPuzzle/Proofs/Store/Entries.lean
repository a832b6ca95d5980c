import Mathlib.Data.List.Nodup
import TenPuzzle.Proofs.Text.Order
import TenPuzzle.Store

/-!
What stands at a key of a store after each command. A command changes its own key alone, and the passing of
time only takes entries away.
-/

namespace TenPuzzle

section

variable {α : Type} {key other : String} {lines : List (String × α)}

theorem lookup_of_not_mem (missing : key ∉ lines.map Prod.fst) : lines.lookup key = none := by
  rw [List.lookup_eq_none_iff]
  intro line member
  have apart : key ≠ line.1 := by
    rintro rfl
    exact missing (List.mem_map_of_mem member)
  simpa using apart

theorem not_mem_removed (key : String) (lines : List (String × α)) :
    key ∉ (lines.filter fun line => line.1 ≠ key).map Prod.fst := by
  intro member
  obtain ⟨line, isIn, same⟩ := List.mem_map.mp member
  simpa [same] using (List.mem_filter.mp isIn).2

theorem lookup_removed_self (key : String) (lines : List (String × α)) :
    (lines.filter fun line => line.1 ≠ key).lookup key = none :=
  lookup_of_not_mem (not_mem_removed key lines)

theorem lookup_removed_other (different : other ≠ key) :
    (lines.filter fun line => line.1 ≠ key).lookup other = lines.lookup other := by
  induction lines with
  | nil => rfl
  | cons line lines ih =>
      by_cases same : line.1 = key
      · have apart : other ≠ line.1 := by rwa [same]
        rw [List.filter_cons_of_neg (by simp [same]), List.lookup_cons, beq_false_of_ne apart, ih]
      · rw [List.filter_cons_of_pos (by simp [same]), List.lookup_cons, List.lookup_cons, ih]

theorem lookup_replaced (key other : String) (value : α) (lines : List (String × α)) :
    ((key, value) :: lines.filter fun line => line.1 ≠ key).lookup other =
      if other = key then some value else lines.lookup other := by
  rw [List.lookup_cons]
  by_cases same : other = key
  · rw [if_pos same, beq_iff_eq.mpr same]
  · rw [if_neg same, beq_false_of_ne same, lookup_removed_other same]

theorem nodup_replaced (key : String) (value : α) (distinct : (lines.map Prod.fst).Nodup) :
    (((key, value) :: lines.filter fun line => line.1 ≠ key).map Prod.fst).Nodup := by
  rw [List.map_cons, List.nodup_cons]
  exact ⟨not_mem_removed key lines, distinct.sublist (List.filter_sublist.map Prod.fst)⟩

theorem mem_of_lookup {value : α} (found : lines.lookup key = some value) : (key, value) ∈ lines := by
  obtain ⟨before, after, rfl, _⟩ := List.lookup_eq_some_iff.mp found
  exact List.mem_append_right _ List.mem_cons_self

theorem lookup_of_mem {value : α} (distinct : (lines.map Prod.fst).Nodup) (member : (key, value) ∈ lines) :
    lines.lookup key = some value := by
  obtain ⟨before, after, rfl⟩ := List.append_of_mem member
  rw [List.lookup_eq_some_iff]
  refine ⟨before, after, rfl, ?_⟩
  intro line isBefore
  rw [List.map_append, List.map_cons] at distinct
  have apart := (List.nodup_append.mp distinct).2.2 _ (List.mem_map_of_mem isBefore) _ List.mem_cons_self
  exact bne_iff_ne.mpr apart.symm

theorem lookup_filter {keeps : α → Bool} (distinct : (lines.map Prod.fst).Nodup) :
    (lines.filter fun line => keeps line.2).lookup key = (lines.lookup key).filter keeps := by
  induction lines with
  | nil => rfl
  | cons line lines ih =>
      obtain ⟨name, value⟩ := line
      rw [List.map_cons, List.nodup_cons] at distinct
      have later := ih distinct.2
      by_cases same : key = name
      · -- no line behind this one has the name, so that none may stand in for it
        subst same
        rw [lookup_of_not_mem distinct.1] at later
        rw [List.lookup_cons, beq_self_eq_true]
        simp only [Option.filter_some]
        cases kept : keeps value with
        | true =>
            rw [List.filter_cons_of_pos (by simpa using kept), List.lookup_cons, beq_self_eq_true]
            rfl
        | false =>
            rw [List.filter_cons_of_neg (by simp [kept]), later]
            rfl
      · rw [List.lookup_cons, beq_false_of_ne same]
        cases kept : keeps value with
        | true =>
            rw [List.filter_cons_of_pos (by simpa using kept), List.lookup_cons, beq_false_of_ne same]
            exact later
        | false =>
            rw [List.filter_cons_of_neg (by simp [kept])]
            exact later

end

namespace Store

/-- No key stands twice in the store. -/
def IsKeyed (store : Store) : Prop :=
  (store.entries.map Prod.fst).Nodup

variable {store : Store} {key other : String}

theorem isKeyed_empty : empty.IsKeyed := List.nodup_nil

theorem IsKeyed.live (keyed : store.IsKeyed) (now : Float) : (store.live now).IsKeyed :=
  List.Nodup.sublist (List.filter_sublist.map Prod.fst) keyed

theorem IsKeyed.erase (keyed : store.IsKeyed) (key : String) : (store.erase key).IsKeyed :=
  List.Nodup.sublist (List.filter_sublist.map Prod.fst) keyed

theorem IsKeyed.put (keyed : store.IsKeyed) (key : String) (entry : Entry) : (store.put key entry).IsKeyed :=
  nodup_replaced key entry keyed

theorem get?_live (keyed : store.IsKeyed) (now : Float) (key : String) :
    (store.live now).get? key = (store.get? key).filter (Entry.isLive now) :=
  lookup_filter keyed

theorem get?_erase (key other : String) (store : Store) :
    (store.erase key).get? other = if other = key then none else store.get? other := by
  split
  · next same =>
      subst same
      exact lookup_removed_self other store.entries
  · next different => exact lookup_removed_other different

theorem get?_put (key other : String) (entry : Entry) (store : Store) :
    (store.put key entry).get? other = if other = key then some entry else store.get? other := by
  change ((key, entry) :: (store.erase key).entries).lookup other = _
  exact lookup_replaced key other entry store.entries

theorem live_live (now : Float) (store : Store) : (store.live now).live now = store.live now := by
  simp [live]

theorem live_erase (now : Float) (key : String) (store : Store) :
    (store.erase key).live now = (store.live now).erase key := by
  simp [live, erase, List.filter_filter, Bool.and_comm]

theorem live_put {now : Float} {entry : Entry} (isLive : entry.isLive now = true) (key : String)
    (store : Store) : (store.put key entry).live now = (store.live now).put key entry := by
  have rest := congrArg Store.entries (live_erase now key store)
  unfold put
  simp only [live] at rest ⊢
  rw [List.filter_cons_of_pos (by simpa using isLive), rest]

theorem get?_expire {entry : Entry} (found : store.get? key = some entry) (now : Float) (seconds : Int) :
    (store.expire now key seconds).get? other =
      if other = key then
        if seconds ≤ 0 then none else some { entry with expires := some (now + Float.ofInt seconds) }
      else store.get? other := by
  simp only [expire, found]
  split
  · next isPast => rw [get?_erase]
  · next isAhead => rw [get?_put]

theorem get?_expire_of_ne (different : other ≠ key) (now : Float) (seconds : Int) :
    (store.expire now key seconds).get? other = store.get? other := by
  cases found : store.get? key with
  | none => simp only [expire, found]
  | some entry => rw [get?_expire found, if_neg different]

theorem IsKeyed.expire (keyed : store.IsKeyed) (now : Float) (key : String) (seconds : Int) :
    (store.expire now key seconds).IsKeyed := by
  unfold Store.expire
  split
  · exact keyed
  · split
    · exact keyed.erase key
    · exact keyed.put key _

theorem text?_eq_some {text : String} :
    store.text? key = some text ↔ ∃ expires, store.get? key = some ⟨.text text, expires⟩ := by
  unfold Store.text?
  constructor
  · intro found
    split at found
    · next value expires entry =>
        cases found
        exact ⟨expires, entry⟩
    · cases found
  · rintro ⟨expires, entry⟩
    rw [entry]

/-! Sets. -/

theorem setAt_congr {store later : Store} (same : later.get? key = store.get? key) :
    later.setAt key = store.setAt key := by
  unfold setAt
  rw [same]

theorem setAt_of_get? {set : TextSet} {expires : Option Float} (found : store.get? key = some ⟨.members set, expires⟩) :
    store.setAt key = set := by
  rw [setAt, found]

theorem setAt_of_none (missing : store.get? key = none) : store.setAt key = .empty := by
  rw [setAt, missing]

theorem mem_add {set : TextSet} {text added : String} :
    text ∈ (set.add added).texts ↔ text = added ∨ text ∈ set.texts := by
  unfold TextSet.add
  split
  · next isThere => exact ⟨.inr, fun either => either.elim (fun same => same ▸ isThere) id⟩
  · exact List.mem_cons

theorem mem_addAll {set : TextSet} {text : String} {texts : List String} :
    text ∈ (texts.foldl TextSet.add set).texts ↔ text ∈ texts ∨ text ∈ set.texts := by
  induction texts generalizing set with
  | nil => simp
  | cons first texts ih => rw [List.foldl_cons, ih, mem_add, List.mem_cons, or_left_comm, or_assoc]

theorem membersOf_congr {store later : Store} (same : later.get? key = store.get? key) :
    later.membersOf key = store.membersOf key :=
  congrArg TextSet.texts (setAt_congr same)

/-- What is added joins what was there; what is there later depends on nothing else. -/
theorem get?_addMembers {texts : List String} (nonempty : texts ≠ []) (key other : String) (store : Store) :
    (store.addMembers key texts).get? other =
      if other = key then
        some ⟨.members (texts.foldl TextSet.add (store.setAt key)), (store.get? key).bind Entry.expires⟩
      else store.get? other := by
  rw [addMembers, if_neg (by simpa using nonempty), get?_put]

theorem addMembers_nil (key : String) (store : Store) : store.addMembers key [] = store := rfl

theorem get?_addMembers_of_ne (different : other ≠ key) (texts : List String) (store : Store) :
    (store.addMembers key texts).get? other = store.get? other := by
  by_cases nothing : texts = []
  · rw [nothing, addMembers_nil]
  · rw [get?_addMembers nothing, if_neg different]

theorem addMembers_congr {store later : Store} (same : later.get? key = store.get? key) (texts : List String) :
    (later.addMembers key texts).get? key = (store.addMembers key texts).get? key := by
  by_cases nothing : texts = []
  · rw [nothing, addMembers_nil, addMembers_nil, same]
  · rw [get?_addMembers nothing, get?_addMembers nothing, same, setAt_congr same]

theorem IsKeyed.addMembers (keyed : store.IsKeyed) (key : String) (texts : List String) :
    (store.addMembers key texts).IsKeyed := by
  unfold Store.addMembers
  split
  · exact keyed
  · exact keyed.put key _

theorem mem_membersOf_addMembers {key text : String} {texts : List String} {store : Store} :
    text ∈ (store.addMembers key texts).membersOf key ↔ text ∈ texts ∨ text ∈ store.membersOf key := by
  by_cases nothing : texts = []
  · simp [nothing, addMembers_nil]
  · rw [membersOf, setAt_of_get? ((get?_addMembers nothing key key store).trans (if_pos rfl)), mem_addAll, membersOf]

/-! The order of sets. -/

/-- An order in which a store may list its sets. -/
structure Arrangement where
  order : TextSet → TextSet
  keeps : ∀ set text, text ∈ (order set).texts ↔ text ∈ set.texts

def Arrangement.arrange (arrangement : Arrangement) (entry : Entry) : Entry :=
  match entry.content with
  | .members set => { entry with content := .members (arrangement.order set) }
  | _ => entry

/-- The same store, but for the order in which it lists its sets. -/
def arranged (arrangement : Arrangement) (store : Store) : Store :=
  ⟨store.entries.map fun line => (line.1, arrangement.arrange line.2)⟩

variable {arrangement : Arrangement}

theorem get?_arranged : (store.arranged arrangement).get? key = (store.get? key).map arrangement.arrange := by
  obtain ⟨lines⟩ := store
  change (lines.map fun line => (line.1, arrangement.arrange line.2)).lookup key = (lines.lookup key).map _
  induction lines with
  | nil => rfl
  | cons line lines ih =>
      rw [List.map_cons, List.lookup_cons, List.lookup_cons, ih]
      cases key == line.1 <;> rfl

theorem IsKeyed.arranged (keyed : store.IsKeyed) : (store.arranged arrangement).IsKeyed := by
  unfold IsKeyed Store.arranged
  rw [List.map_map]
  exact keyed

theorem mem_membersOf_arranged {text : String} :
    text ∈ (store.arranged arrangement).membersOf key ↔ text ∈ store.membersOf key := by
  unfold membersOf setAt
  rw [get?_arranged]
  cases store.get? key with
  | none => rfl
  | some entry =>
      obtain ⟨content, expires⟩ := entry
      cases content with
      | text value => rfl
      | members set => exact arrangement.keeps set text
      | scores board => rfl

/-! What fits in a store. -/

/-- Whatever stands in a store fits its key. -/
def Every (fits : String → Entry → Prop) (store : Store) : Prop :=
  ∀ key entry, store.get? key = some entry → fits key entry

section

variable {fits : String → Entry → Prop}

theorem Every.erase (every : store.Every fits) (key : String) : (store.erase key).Every fits := by
  intro other entry found
  rw [get?_erase] at found
  split at found
  · cases found
  · exact every other entry found

theorem Every.put {entry : Entry} (every : store.Every fits) (isFit : fits key entry) :
    (store.put key entry).Every fits := by
  intro other found isFound
  rw [get?_put] at isFound
  split at isFound
  · next same =>
      cases isFound
      rwa [same]
  · exact every other found isFound

theorem Every.boardOf {wanted : String × Float → Prop} (every : store.Every fits)
    (reads : ∀ board expires, fits key ⟨.scores board, expires⟩ → ∀ line ∈ board, wanted line) :
    ∀ line ∈ store.boardOf key, wanted line := by
  unfold Store.boardOf
  split
  · next board expires found => exact reads board expires (every key _ found)
  · exact fun line member => nomatch member

/-- A board that is credited has the lines that it had, and one for the credit. -/
theorem Every.addScore {wanted : String × Float → Prop} {member : String} {amount : Float} (every : store.Every fits)
    (board : ∀ line ∈ store.boardOf key, wanted line)
    (credited : wanted (member, creditOf member (store.boardOf key) + amount))
    (isFit : ∀ board expires, (∀ line ∈ board, wanted line) → fits key ⟨.scores board, expires⟩) :
    (store.addScore key member amount).Every fits := by
  apply every.put
  apply isFit
  intro line isLine
  rcases List.mem_cons.mp isLine with rfl | before
  · exact credited
  · exact board line (List.mem_filter.mp before).1

end

end Store

end TenPuzzle
