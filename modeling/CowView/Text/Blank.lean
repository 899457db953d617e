import CowView.Text.Ranges

/-!
Blank characters and stripping. Blank are the separators of Unicode 14 (category Zs) and the
characters whose direction class is a separator or white space.
-/

namespace CowView.Text

def blankRanges : List (Nat × Nat) := [
  (0x9, 0xd), (0x1c, 0x20), (0x85, 0x85), (0xa0, 0xa0), (0x1680, 0x1680), (0x2000, 0x200a),
  (0x2028, 0x2029), (0x202f, 0x202f), (0x205f, 0x205f), (0x3000, 0x3000)]

def isBlank (character : Char) : Bool := within blankRanges character

def strip (characters : List Char) : List Char :=
  ((characters.dropWhile isBlank).reverse.dropWhile isBlank).reverse

end CowView.Text
