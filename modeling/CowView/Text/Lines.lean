import CowView.Text.Blank

/-!
Lines. `splitLines` ends a line at every line boundary of Unicode and keeps no boundary, `splitFeeds`
cuts at line feeds alone, and `universalFeeds` turns the three ways of ending a line in a file into
a line feed.
-/

namespace CowView.Text

/-- The characters that end a line: feeds, returns, separators and the next-line control. -/
def isLineBreak (character : Char) : Bool :=
  let code := character.toNat
  (0xa ≤ code && code ≤ 0xd) || (0x1c ≤ code && code ≤ 0x1e) || code == 0x85 ||
    code == 0x2028 || code == 0x2029

/-- Splits before a line break, a return and a feed together being one. The first part is the line
read so far; nothing is left over at the end of a text that ends its last line. -/
def splitLinesFrom (line : List Char) : List Char → List (List Char)
  | [] => if line.isEmpty then [] else [line.reverse]
  | '\r' :: '\n' :: rest => line.reverse :: splitLinesFrom [] rest
  | character :: rest =>
    if isLineBreak character then line.reverse :: splitLinesFrom [] rest
    else splitLinesFrom (character :: line) rest

def splitLines (text : List Char) : List (List Char) := splitLinesFrom [] text

def splitFeeds : List Char → List (List Char)
  | [] => [[]]
  | character :: rest =>
    if character = '\n' then [] :: splitFeeds rest
    else match splitFeeds rest with
      | [] => [[character]]
      | line :: lines => (character :: line) :: lines

def universalFeeds : List Char → List Char
  | [] => []
  | '\r' :: '\n' :: rest => '\n' :: universalFeeds rest
  | character :: rest => (if character = '\r' then '\n' else character) :: universalFeeds rest

end CowView.Text
