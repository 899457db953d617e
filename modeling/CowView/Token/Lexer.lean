import CowView.Text.Blank
import CowView.Text.Numeral
import CowView.Token
import CowView.Fault

/-!
The lexer. `Cursor.next` reads one token from the rest of a text, after the blanks in front of it:
a comment, a symbol, a lifetime, a number or a name, tried in this order.
-/

namespace CowView

structure Cursor where
  rest : List Char
  position : Position
  deriving DecidableEq, Repr

inductive Scan where
  | token (token : Token) (after : Cursor)
  | fault (fault : Fault) (after : Cursor)
  | finished (after : Cursor)
  deriving DecidableEq, Repr

namespace Lexer

def isWordCharacter (character : Char) : Bool :=
  character = '_' || Text.isAlphanumeric character

def startsName (character : Char) : Bool := character = '_' || Text.isLetter character

def lifetimeMark : Char := Char.ofNat 39

/-- Cuts a text at the first occurrence of a delimiter: what stands before it and what follows.
Nothing occurs in the empty text. -/
def splitAt? (delimiter : List Char) : List Char → Option (List Char × List Char)
  | [] => none
  | character :: rest =>
    if delimiter.isPrefixOf (character :: rest) then
      some ([], (character :: rest).drop delimiter.length)
    else (splitAt? delimiter rest).map fun parts => (character :: parts.1, parts.2)

def symbolAt? (text : List Char) : Option TokenKind :=
  TokenKind.symbols.find? fun kind => kind.spelling.toList.isPrefixOf text

end Lexer

namespace Cursor

def ofText (text : String) : Cursor := ⟨text.toList, Position.start⟩

def drop (cursor : Cursor) (count : Nat) : Cursor :=
  ⟨cursor.rest.drop count, cursor.position.advance (cursor.rest.take count)⟩

def skipBlanks (cursor : Cursor) : Cursor :=
  cursor.drop (cursor.rest.takeWhile Text.isBlank).length

def take (cursor : Cursor) (kind : TokenKind) (count : Nat) : Scan :=
  .token ⟨kind, String.ofList (cursor.rest.take count), cursor.position⟩ (cursor.drop count)

def fail (cursor : Cursor) (problem : SourceProblem) (after : Cursor) : Scan :=
  .fault (.source cursor.position.line cursor.position.column problem) after

/-- Reads a comment, if there is one. A line comment ends before its line feed, which is dropped; a
block comment ends with its closing mark, and without one the whole rest is lost. -/
def comment? (cursor : Cursor) : Option Scan :=
  match cursor.rest with
  | '/' :: '/' :: body =>
    let line := body.takeWhile (· ≠ '\n')
    let value := "//" ++ String.ofList line
    some (.token ⟨.comment, value, cursor.position⟩ (cursor.drop (line.length + 3)))
  | '/' :: '*' :: body =>
    some (match Lexer.splitAt? ['*', '/'] body with
      | some (inner, _) => cursor.take .comment (inner.length + 4)
      | none => (cursor.drop 2).fail (.unclosed "*/") (cursor.drop cursor.rest.length))
  | _ => none

def word (cursor : Cursor) (kind : TokenKind) (leading : Nat) : Scan :=
  cursor.take kind (leading + ((cursor.rest.drop leading).takeWhile Lexer.isWordCharacter).length)

/-- Reads the token at a character that is no blank and starts no comment. A lifetime mark without a
name is dropped, an invalid character stays where it is. -/
def plain (cursor : Cursor) : Scan :=
  match Lexer.symbolAt? cursor.rest with
  | some kind => cursor.take kind kind.spelling.length
  | none =>
    match cursor.rest with
    | [] => .finished cursor
    | first :: rest =>
      if first = Lexer.lifetimeMark then
        if rest.head?.any Lexer.isWordCharacter then cursor.word .lifetime 1
        else cursor.fail .lifetimeNameExpected (cursor.drop 1)
      else if Text.isDigit first then cursor.word .number 0
      else if Lexer.startsName first then cursor.word .identifier 0
      else cursor.fail (.invalidCharacter first) cursor

/-- Reads the next token. Comments are read as tokens if they are enabled. -/
def next (comments : Bool) (cursor : Cursor) : Scan :=
  let start := cursor.skipBlanks
  match (if comments then start.comment? else none) with
  | some scan => scan
  | none => start.plain

end Cursor

end CowView
