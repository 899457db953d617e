import CowView.Text.Quoted

/-!
The letters of command lines and of paths. A system passes both on as bytes; those that stand for no character are
letters of their own.
-/

namespace CowView.CommandLine

inductive Letter where
  | char (character : Char)
  | byte (offset : Fin 128)
  deriving DecidableEq, Repr

abbrev Letters := List Letter

namespace Letter

def char? : Letter → Option Char
  | char character => some character
  | byte _ => none

def size : Letter → Nat
  | char character => character.utf8Size
  | byte _ => 1

def escaped (offset : Fin 128) : List Char := '\\' :: 'u' :: Text.hexDigits 4 (0xdc80 + offset)

def shown : Letter → List Char
  | char character => [character]
  | byte offset => escaped offset

def quoted (quote : Char) : Letter → List Char
  | char character => Text.escape quote character
  | byte offset => escaped offset

end Letter

namespace Letters

def ofString (text : String) : Letters := text.toList.map .char

instance : Coe String Letters := ⟨ofString⟩

def text? (letters : Letters) : Option String :=
  (letters.mapM Letter.char?).map String.ofList

def shown (letters : Letters) : String := String.ofList (letters.flatMap Letter.shown)

def quoted (letters : Letters) : String :=
  let quote := Text.quoteFor (letters.flatMap Letter.shown)
  String.ofList (quote :: (letters.flatMap (Letter.quoted quote) ++ [quote]))

def size (letters : Letters) : Nat := letters.foldr (fun letter rest => letter.size + rest) 0

end Letters

end CowView.CommandLine
