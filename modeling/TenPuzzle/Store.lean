import TenPuzzle.Text.Order

/-!
A store of texts, sets of texts and score boards by key. An entry may have an expiry; at and after
that moment it is gone.

Every command here succeeds. It is assumed that a key has one kind of entry at all times, where a
server refuses a command for another kind, and that lifetimes, scores and limits are within the
64 bits that a server takes.
-/

namespace TenPuzzle

/-- A set of texts. It lists them in an order of its own, which means nothing. -/
structure TextSet where
  texts : List String
  distinct : texts.Nodup

def TextSet.empty : TextSet := ⟨[], List.nodup_nil⟩

def TextSet.add (set : TextSet) (text : String) : TextSet :=
  if isThere : text ∈ set.texts then set
  else ⟨text :: set.texts, List.nodup_cons.mpr ⟨isThere, set.distinct⟩⟩

/-- Where a set is shown, it is shown in order. -/
instance : Coe TextSet (List String) := ⟨fun set => Text.sortedDistinct set.texts⟩

inductive Content where
  | text (value : String)
  | members (set : TextSet)
  | scores (board : List (String × Float))

structure Entry where
  content : Content
  expires : Option Float

structure Store where
  entries : List (String × Entry)

def Store.empty : Store := ⟨[]⟩

def Entry.isLive (now : Float) (entry : Entry) : Bool :=
  match entry.expires with
  | none => true
  | some moment => !(moment ≤ now)

def Store.live (now : Float) (store : Store) : Store :=
  ⟨store.entries.filter fun entry => entry.2.isLive now⟩

def Store.get? (key : String) (store : Store) : Option Entry :=
  store.entries.lookup key

def Store.erase (key : String) (store : Store) : Store :=
  ⟨store.entries.filter fun entry => entry.1 ≠ key⟩

def Store.put (key : String) (entry : Entry) (store : Store) : Store :=
  ⟨(key, entry) :: (store.erase key).entries⟩

def Store.text? (key : String) (store : Store) : Option String :=
  match store.get? key with
  | some ⟨.text value, _⟩ => some value
  | _ => none

/-- A new text has no expiry, whatever the old one had. -/
def Store.putText (key value : String) (store : Store) : Store :=
  store.put key ⟨.text value, none⟩

/-- Gives an entry so many seconds from now; none or fewer drop it. Any number is taken, also one beyond 64 bits. -/
def Store.expire (now : Float) (key : String) (seconds : Int) (store : Store) : Store :=
  match store.get? key with
  | none => store
  | some entry =>
    if seconds ≤ 0 then store.erase key
    else store.put key { entry with expires := some (now + Float.ofInt seconds) }

def Store.setAt (key : String) (store : Store) : TextSet :=
  match store.get? key with
  | some ⟨.members set, _⟩ => set
  | _ => .empty

def Store.membersOf (key : String) (store : Store) : List String :=
  (store.setAt key).texts

/-- Adds texts to a set, which keeps the texts and the expiry that it has. -/
def Store.addMembers (key : String) (texts : List String) (store : Store) : Store :=
  if texts.isEmpty then store
  else
    let expires := (store.get? key).bind Entry.expires
    store.put key ⟨.members (texts.foldl TextSet.add (store.setAt key)), expires⟩

def Store.boardOf (key : String) (store : Store) : List (String × Float) :=
  match store.get? key with
  | some ⟨.scores board, _⟩ => board
  | _ => []

def creditOf (member : String) (board : List (String × Float)) : Float :=
  (board.lookup member).getD 0.0

def setScore (member : String) (score : Float) (board : List (String × Float)) :
    List (String × Float) :=
  (member, score) :: board.filter fun line => line.1 ≠ member

def Store.addScore (key member : String) (amount : Float) (store : Store) : Store :=
  let board := store.boardOf key
  let expires := (store.get? key).bind Entry.expires
  store.put key ⟨.scores (setScore member (creditOf member board + amount) board), expires⟩

/-- Higher scores come first, and of equal scores the later name. -/
def ranksBefore (left right : String × Float) : Bool :=
  right.2 < left.2 || (left.2 == right.2 && decide (right.1 < left.1))

def insertRanked (line : String × Float) : List (String × Float) → List (String × Float)
  | [] => [line]
  | first :: rest =>
    if ranksBefore line first then line :: first :: rest else first :: insertRanked line rest

def ranking (board : List (String × Float)) : List (String × Float) :=
  board.foldr insertRanked []

/-- The first lines of a board up to a place, which counts from the end if it is negative. Any number is taken, also
one beyond 64 bits. -/
def Store.leaders (key : String) (last : Int) (store : Store) : List (String × Float) :=
  let ranked := ranking (store.boardOf key)
  let stop := if last < 0 then last + ranked.length else last
  ranked.take (stop + 1).toNat

end TenPuzzle
