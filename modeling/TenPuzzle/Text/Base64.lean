/-!
Bytes written in base sixty-four: four characters for three bytes. Characters outside of the
alphabet say nothing, and equals signs that fill up a group end the text.
-/

namespace TenPuzzle.Text

def sextet? (character : Char) : Option Nat :=
  if character.isUpper then some (character.toNat - 'A'.toNat)
  else if character.isLower then some (character.toNat - 'a'.toNat + 26)
  else if character.isDigit then some (character.toNat - '0'.toNat + 52)
  else if character = '+' then some 62
  else if character = '/' then some 63
  else none

/-- The values of the characters behind so many of an open group and so many equals signs. The text
ends with a whole group, or with one that equals signs fill up. -/
def sextetsFrom (place fillers : Nat) : List Char → Option (List Nat)
  | [] => if place = 0 then some [] else none
  | character :: rest =>
    if character = '=' then
      if place < 2 then sextetsFrom place fillers rest
      else if 4 ≤ place + fillers + 1 then some []
      else sextetsFrom place (fillers + 1) rest
    else
      match sextet? character with
      | some value => (sextetsFrom ((place + 1) % 4) 0 rest).map (value :: ·)
      | none => sextetsFrom place fillers rest

/-- A last group of two or three values gives one byte or two. -/
def bytesOfSextets : List Nat → List UInt8
  | first :: second :: third :: fourth :: rest =>
    UInt8.ofNat (first * 4 + second / 16) :: UInt8.ofNat (second * 16 + third / 4) ::
      UInt8.ofNat (third * 64 + fourth) :: bytesOfSextets rest
  | [first, second, third] =>
    [UInt8.ofNat (first * 4 + second / 16), UInt8.ofNat (second * 16 + third / 4)]
  | [first, second] => [UInt8.ofNat (first * 4 + second / 16)]
  | _ => []

def readBase64? (text : List Char) : Option (List UInt8) :=
  (sextetsFrom 0 0 text).map bytesOfSextets

end TenPuzzle.Text
