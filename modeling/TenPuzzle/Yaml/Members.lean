import TenPuzzle.Yaml.Value

/-!
The order of the members of a set. Members stand in a table of slots, each near the slot that its
number names, and are met in the order of the slots. Only numbers have a number of their own; the
order of other members means nothing.
-/

namespace TenPuzzle.Yaml

def residueModulus : Nat := Nat.pow 2 61 - 1

/-- A quotient by a power of two is a product, since two to the 61 leaves the remainder one. -/
def residueOfBinary (mantissa : Nat) (exponent : Int) : Nat :=
  mantissa * Nat.pow 2 (exponent % 61).toNat % residueModulus

def infinityResidue : Int := 314159

def residueOfReal (value : Float) : Int :=
  match Number.Binary64.ofFloat value with
  | .notANumber => 0
  | .infinite negative => if negative then -infinityResidue else infinityResidue
  | .finite negative mantissa exponent =>
    let residue : Int := residueOfBinary mantissa exponent
    if negative then -residue else residue

def residueOfInteger (value : Int) : Int :=
  let residue : Int := residueOfBinary value.natAbs 0
  if value < 0 then -residue else residue

def Value.residue : Value → Int
  | .real value => residueOfReal value
  | value => residueOfInteger (value.whole?.getD 0)

/-- The number of a member, as a word of 64 bits; minus one counts as minus two. -/
def Value.word (value : Value) : Nat :=
  let kept : Int := if value.residue = -1 then -2 else value.residue
  let range : Int := Nat.pow 2 64
  (kept % range).toNat

def slotCount (members : Nat) : Nat :=
  if members < 5 then 8 else Nat.pow 2 ((2 * members).log2 + 1)

def neighbours (count slot : Nat) : List Nat :=
  if slot + 9 < count then (List.range 10).map (slot + ·) else [slot]

/-- The first free slot on the way of a member through the table, on which its word runs out. -/
def freeSlot (count : Nat) (isFree : Nat → Bool) : Nat → Nat → Nat → Nat
  | 0, _, slot => slot
  | fuel + 1, word, slot =>
    match (neighbours count slot).find? isFree with
    | some free => free
    | none =>
      let later := word / 32
      freeSlot count isFree fuel later ((slot * 5 + 1 + later) % count)

def placeMember (slots : Array (Option Value)) (member : Value) : Array (Option Value) :=
  let count := slots.size
  let isFree := fun slot => (slots[slot]?.join).isNone
  slots.setIfInBounds (freeSlot count isFree (count + 16) member.word (member.word % count)) (some member)

def inSlotOrder (members : List Value) : List Value :=
  let slots := Array.replicate (slotCount members.length) none
  (members.foldl placeMember slots).toList.filterMap id

end TenPuzzle.Yaml
