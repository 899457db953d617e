import CowView.Text.Decomposition

/-!
The normal form of names. A text is decomposed, its marks are put into the order of their classes, and what
can be composed is composed again (Unicode, form KC). A name in ASCII stays as it is.
-/

namespace CowView.Text

/-! ### Decomposing -/

def isSyllable (character : Char) : Bool := 0xAC00 ≤ character.toNat && character.toNat < 0xD7A4

/-- The letters of a syllable: the first consonant, the vowel, and the last consonant if there is one. -/
def syllableParts (character : Char) : List Char :=
  let index := character.toNat - 0xAC00
  let pair := [Char.ofNat (0x1100 + index / 588), Char.ofNat (0x1161 + index % 588 / 28)]
  if index % 28 = 0 then pair else pair ++ [Char.ofNat (0x11A7 + index % 28)]

def decompose (character : Char) : List Char :=
  if character.toNat < 0xA0 then [character]
  else if isSyllable character then syllableParts character
  else match (rowOf? composedCharacters character).or (rowOf? replacedCharacters character) with
    | some row => row.codes.map fun code => Char.ofNat (code + (character.toNat - row.first))
    | none => [character]

/-! ### Marks -/

def combiningClass (character : Char) : Nat :=
  if character.toNat < 0x300 then 0
  else match rowOf? combiningClasses character with
    | some row => row.codes.headD 0
    | none => 0

def place (character : Char) : List Char → List Char
  | [] => [character]
  | mark :: rest =>
    if 0 < combiningClass mark ∧ combiningClass mark < combiningClass character then
      mark :: place character rest
    else character :: mark :: rest

def order : List Char → List Char
  | [] => []
  | character :: rest => place character (order rest)

/-! ### Composing -/

def startsComposite (character : Char) : Bool :=
  0x80 ≤ character.toNat || character.isAlpha || character ∈ ['<', '=', '>']

def syllable? (first second : Char) : Option Char :=
  let consonant := first.toNat - 0x1100
  let vowel := second.toNat - 0x1161
  let last := second.toNat - 0x11A7
  if 0x1100 ≤ first.toNat ∧ consonant < 19 ∧ 0x1161 ≤ second.toNat ∧ vowel < 21 then
    some (Char.ofNat (0xAC00 + (consonant * 21 + vowel) * 28))
  else if isSyllable first ∧ (first.toNat - 0xAC00) % 28 = 0 ∧ 0x11A7 < second.toNat ∧ last < 28 then
    some (Char.ofNat (first.toNat + last))
  else none

def composite? (first second : Char) : Option Char :=
  if startsComposite first && 0x300 ≤ second.toNat then
    let codes := (decompose first ++ [second]).map Char.toNat
    (syllable? first second).or ((composedCharacters.find? (·.codes = codes)).map (Char.ofNat ·.first))
  else none

/-- Composes what follows with the last character that is no mark, unless a mark in between is in the way.
Those marks are `between`, the last one first. -/
def composeFrom (start : Char) (between : List Char) : List Char → List Char
  | [] => start :: between.reverse
  | character :: rest =>
    let blocked := between.head?.any fun mark => combiningClass character ≤ combiningClass mark
    match if blocked then none else composite? start character with
    | some whole => composeFrom whole between rest
    | none =>
      if combiningClass character = 0 then start :: between.reverse ++ composeFrom character [] rest
      else composeFrom start (character :: between) rest

/-- Composes a text. Marks in front of everything else stay as they are. -/
def compose : List Char → List Char
  | [] => []
  | character :: rest =>
    if combiningClass character = 0 then composeFrom character [] rest else character :: compose rest

def normal (characters : List Char) : List Char := compose (order (characters.flatMap decompose))

def identifier (name : String) : String :=
  if name.toList.all (·.toNat < 0x80) then name else String.ofList (normal name.toList)

end CowView.Text
