/-!
Blank characters: the twenty-nine that separate words. Classes of characters are lists of ranges of
code points here and in the modules beside this one.
-/

namespace TenPuzzle.Text

def inRanges (ranges : List (Nat × Nat)) (character : Char) : Bool :=
  ranges.any fun range => range.1 ≤ character.toNat && character.toNat ≤ range.2

def blankRanges : List (Nat × Nat) :=
  [(0x09, 0x0D), (0x1C, 0x20), (0x85, 0x85), (0xA0, 0xA0), (0x1680, 0x1680), (0x2000, 0x200A),
   (0x2028, 0x2029), (0x202F, 0x202F), (0x205F, 0x205F), (0x3000, 0x3000)]

def isBlank (character : Char) : Bool :=
  inRanges blankRanges character

def withoutBlanks (text : List Char) : List Char :=
  text.filter fun character => !isBlank character

def dropBlanks (text : List Char) : List Char :=
  text.dropWhile isBlank

/-- Drops the blanks at both ends. -/
def trim (text : List Char) : List Char :=
  (dropBlanks (dropBlanks text).reverse).reverse

end TenPuzzle.Text
