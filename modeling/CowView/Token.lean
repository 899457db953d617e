import CowView.Position

/-!
Tokens of the declaration language: kinds, the spelling of each symbol, and the form in which a
message shows a token.
-/

namespace CowView

/-- What a token is. The symbols stand in the order in which they are tried. -/
inductive TokenKind where
  | endOfInput
  | identifier
  | lifetime
  | number
  | comment
  | arrow
  | doubleColon
  | equals
  | colon
  | semicolon
  | dot
  | atSign
  | comma
  | plus
  | ampersand
  | star
  | bang
  | lessThan
  | greaterThan
  | openParen
  | closeParen
  | openSquare
  | closeSquare
  | openBrace
  | closeBrace
  deriving DecidableEq, Repr

namespace TokenKind

/-- How a message spells a kind: a symbol as it is written, any other kind as a word in brackets. -/
def spelling : TokenKind → String
  | endOfInput => "<EOS>"
  | identifier => "<IDENT>"
  | lifetime => "<LIFETIME>"
  | number => "<NUM>"
  | comment => "<COMMENT>"
  | arrow => "->"
  | doubleColon => "::"
  | equals => "="
  | colon => ":"
  | semicolon => ";"
  | dot => "."
  | atSign => "@"
  | comma => ","
  | plus => "+"
  | ampersand => "&"
  | star => "*"
  | bang => "!"
  | lessThan => "<"
  | greaterThan => ">"
  | openParen => "("
  | closeParen => ")"
  | openSquare => "["
  | closeSquare => "]"
  | openBrace => "\x7b"
  | closeBrace => "\x7d"

def name : TokenKind → String
  | endOfInput => "EOS"
  | identifier => "IDENTIFIER"
  | lifetime => "LIFETIME"
  | number => "NUMBER"
  | comment => "COMMENT"
  | arrow => "ARROW"
  | doubleColon => "DOUBLE_COLON"
  | equals => "EQUALS"
  | colon => "COLON"
  | semicolon => "SEMI_COLON"
  | dot => "DOT"
  | atSign => "AT"
  | comma => "COMMA"
  | plus => "PLUS"
  | ampersand => "AMPERSAND"
  | star => "STAR"
  | bang => "BANG"
  | lessThan => "LESS_THAN"
  | greaterThan => "GREATER_THAN"
  | openParen => "OPEN_PAREN"
  | closeParen => "CLOSE_PAREN"
  | openSquare => "OPEN_SQUARE"
  | closeSquare => "CLOSE_SQUARE"
  | openBrace => "OPEN_BRACE"
  | closeBrace => "CLOSE_BRACE"

def symbols : List TokenKind :=
  [arrow, doubleColon, equals, colon, semicolon, dot, atSign, comma, plus, ampersand, star, bang,
    lessThan, greaterThan, openParen, closeParen, openSquare, closeSquare, openBrace, closeBrace]

def all : List TokenKind := [endOfInput, identifier, lifetime, number, comment] ++ symbols

def closer? : TokenKind → Option TokenKind
  | openParen => some closeParen
  | openSquare => some closeSquare
  | openBrace => some closeBrace
  | _ => none

end TokenKind

/-- A piece of a text with the place where it starts. The end of the input is a token of its own
that covers nothing and has no offset. -/
structure Token where
  kind : TokenKind
  value : String
  position : Position
  deriving DecidableEq, Repr

namespace Token

def endAt (position : Position) : Token := ⟨.endOfInput, "", position⟩

def offset (token : Token) : Int :=
  if token.kind = .endOfInput then -1 else token.position.offset

def length (token : Token) : Nat := token.value.toList.length

def endOffset (token : Token) : Int := token.offset + token.length

def line (token : Token) : Nat := token.position.line

def column (token : Token) : Nat := token.position.column

def isComment (token : Token) : Bool := token.kind = .comment

def describe (token : Token) : String :=
  s!"<[{token.offset}-{token.endOffset}], Line: {token.line}, Col: {token.column}, " ++
    s!"TokenType.{token.kind.name}" ++ (if token.value.isEmpty then ">" else s!" - {token.value}>")

end Token

end CowView
