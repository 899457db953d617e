import CowView.Text.Join
import CowView.Text.Printable

/-!
Quoted literals. A text is put between single quotes, or between double quotes when it holds a single
quote and no double one. Backslashes, the quote itself and what is not printable are escaped.
-/

namespace CowView.Text

def hexDigits (width code : Nat) : List Char :=
  let digits := Nat.toDigits 16 code
  List.replicate (width - digits.length) '0' ++ digits

def singleQuote : Char := Char.ofNat 39

def quoteFor (characters : List Char) : Char :=
  if characters.contains singleQuote && !characters.contains '"' then '"' else singleQuote

/-- The escapes that texts and byte strings share. -/
def commonEscape? (quote character : Char) : Option (List Char) :=
  if character = quote || character = '\\' then some ['\\', character]
  else if character = '\t' then some ['\\', 't']
  else if character = '\n' then some ['\\', 'n']
  else if character = '\r' then some ['\\', 'r']
  else none

def escape (quote character : Char) : List Char :=
  match commonEscape? quote character with
  | some escaped => escaped
  | none =>
    if isPrintable character then [character]
    else
      let code := character.toNat
      if code < 0x100 then '\\' :: 'x' :: hexDigits 2 code
      else if code < 0x10000 then '\\' :: 'u' :: hexDigits 4 code
      else '\\' :: 'U' :: hexDigits 8 code

def quoted (text : String) : String :=
  let characters := text.toList
  let quote := quoteFor characters
  String.ofList (quote :: (characters.flatMap (escape quote) ++ [quote]))

/-- A byte inside a literal: printable ASCII as it is, anything else as a code of two digits. -/
def escapeByte (quote : Char) (byte : Nat) : List Char :=
  let character := Char.ofNat byte
  match commonEscape? quote character with
  | some escaped => escaped
  | none =>
    if 32 ≤ byte && byte < 127 then [character] else '\\' :: 'x' :: hexDigits 2 byte

def quotedBytes (bytes : List UInt8) : String :=
  let codes := bytes.map UInt8.toNat
  let quote := quoteFor (codes.map Char.ofNat)
  String.ofList ('b' :: quote :: (codes.flatMap (escapeByte quote) ++ [quote]))

def quotedList (texts : List String) : String :=
  "[" ++ join ", " (texts.map quoted) ++ "]"

end CowView.Text
