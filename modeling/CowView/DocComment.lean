import CowView.Text.Blank
import CowView.Text.Join
import CowView.Text.Lines

/-!
Doc comments. `DocComment.body` takes the text out of a block comment that starts with two stars, and
`DocComment.lines` makes the lines of such a text safe between triple quotes.
-/

namespace CowView.DocComment

open Text

/-- A block comment documents the next item when it starts with two stars. -/
def isDoc (comment : String) : Bool := ['/', '*', '*'].isPrefixOf comment.toList

def stripLine (line : List Char) : List Char :=
  match strip line with
  | '*' :: rest => strip rest
  | stripped => stripped

/-- The text between the opening and the closing mark; the closing mark may be missing. -/
def inner (comment : List Char) : List Char :=
  if ['*', '/'].isSuffixOf comment then (comment.take (comment.length - 2)).drop 3
  else comment.drop 3

/-- The documentation in a comment: its stripped lines, without blanks before and after. -/
def body (comment : String) : String :=
  let stripped := (splitFeeds (inner comment.toList)).map stripLine
  String.ofList (strip (['\n'].intercalate stripped))

def escapeBackslashes : List Char → List Char
  | [] => []
  | character :: rest =>
    if character = '\\' then '\\' :: '\\' :: escapeBackslashes rest
    else character :: escapeBackslashes rest

def escapeQuotes : List Char → List Char
  | '"' :: '"' :: '"' :: rest => ['\\', '"', '\\', '"', '\\', '"'] ++ escapeQuotes rest
  | character :: rest => character :: escapeQuotes rest
  | [] => []

/-- The lines of a documentation, escaped so that they cannot end a triple quoted literal. -/
def lines (docs : String) : List String :=
  (splitLines (escapeQuotes (escapeBackslashes docs.toList))).map String.ofList

end CowView.DocComment
