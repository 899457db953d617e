import CowView.Token.Lexer

/-!
The lexer over a stream. The text is read in chunks of at least 64 characters into a buffer, and each
operation refills the buffer to the size it needs. Every operation keeps the state when it fails.
-/

namespace CowView

/-- A stream with the characters read ahead of the place that the lexer has reached. The end is
known once a read came back short. -/
structure Buffered where
  buffer : List Char
  unread : List Char
  endReached : Bool
  position : Position
  comments : Bool
  deriving DecidableEq, Repr

inductive Buffered.Match where
  | missed
  | seen
  | taken (characters : List Char) (position : Position)
  deriving DecidableEq, Repr

namespace Buffered

def chunkSize : Nat := 64

def ofText (text : String) : Buffered := ⟨[], text.toList, false, Position.start, true⟩

def rest (stream : Buffered) : List Char := stream.buffer ++ stream.unread

def refill (stream : Buffered) (size : Nat) : Buffered :=
  if stream.buffer.length < size && !stream.endReached then
    let wanted := max (size - stream.buffer.length) chunkSize
    let chunk := stream.unread.take wanted
    { stream with
      buffer := stream.buffer ++ chunk
      unread := stream.unread.drop wanted
      endReached := decide (chunk.length < wanted) }
  else stream

/-- Refills the buffer and tells whether it holds so many characters now. -/
def ensure (size : Nat) : EStateM Fault Buffered Bool := do
  modify (·.refill size)
  return size ≤ (← get).buffer.length

def hasMore : EStateM Fault Buffered Bool := do
  let _ ← ensure 1
  let stream ← get
  return !stream.buffer.isEmpty || !stream.endReached

/-- The next characters, fewer at the end of the text, with the place of the first one. -/
def characters (count : Nat) (peek : Bool) : EStateM Fault Buffered (List Char × Position) := do
  let place := (← get).position
  let _ ← ensure count
  let stream ← get
  let taken := stream.buffer.take count
  if !peek then
    set { stream with
      buffer := stream.buffer.drop count
      position := stream.position.advance taken }
  return (taken, place)

def matchesSymbol (symbol : List Char) (peek : Bool) : EStateM Fault Buffered Bool := do
  if !(← ensure symbol.length) then
    return false
  if !symbol.isPrefixOf (← get).buffer then
    return false
  if !peek then
    let _ ← characters symbol.length false
  return true

def matchesClass (isMember : Char → Bool) (peek : Bool) : EStateM Fault Buffered Match := do
  let (found, _) ← characters 1 true
  if !found.any isMember then
    return .missed
  if peek then
    return .seen
  let (taken, place) ← characters 1 false
  return .taken taken place

def readTillFrom (delimiter : List Char) (include_ allowEnd : Bool) (start : Position) :
    Nat → List Char → EStateM Fault Buffered (List Char)
  | 0, _ => throw .outOfSteps
  | steps + 1, read => do
    if ← hasMore then
      if ← matchesSymbol delimiter false then
        return read.reverse ++ (if include_ then delimiter else [])
      let (taken, _) ← characters 1 false
      readTillFrom delimiter include_ allowEnd start steps (taken.reverse ++ read)
    else if allowEnd then
      return read.reverse
    else
      throw (.source start.line start.column (.unclosed (String.ofList delimiter)))

def readTill (delimiter : List Char) (include_ allowEnd : Bool) :
    EStateM Fault Buffered (List Char) := do
  let stream ← get
  readTillFrom delimiter include_ allowEnd stream.position (stream.rest.length + 1) []

def readWhileFrom (isMember : Char → Bool) : Nat → List Char → EStateM Fault Buffered (List Char)
  | 0, _ => throw .outOfSteps
  | steps + 1, read => do
    match ← matchesClass isMember false with
    | .taken taken _ => readWhileFrom isMember steps (taken.reverse ++ read)
    | _ => return read.reverse

def readWhile (isMember : Char → Bool) : EStateM Fault Buffered (List Char) := do
  readWhileFrom isMember ((← get).rest.length + 1) []

def firstSymbol : List TokenKind → EStateM Fault Buffered (Option TokenKind)
  | [] => return none
  | kind :: kinds => do
    if ← matchesSymbol kind.spelling.toList false then
      return some kind
    firstSymbol kinds

def comment? : EStateM Fault Buffered (Option (List Char)) := do
  if !(← get).comments then
    return none
  if ← matchesSymbol ['/', '/'] false then
    return some (['/', '/'] ++ (← readTill ['\n'] false true))
  if ← matchesSymbol ['/', '*'] false then
    return some (['/', '*'] ++ (← readTill ['*', '/'] true false))
  return none

def lifetime (start : Position) : EStateM Fault Buffered (Option Token) := do
  let value ← readWhile Lexer.isWordCharacter
  if value.isEmpty then
    throw (.source start.line start.column .lifetimeNameExpected)
  return some ⟨.lifetime, String.ofList (Lexer.lifetimeMark :: value), start⟩

def word? (start : Position) : EStateM Fault Buffered (Option Token) := do
  if (← matchesClass Text.isDigit true) = .seen then
    return some ⟨.number, String.ofList (← readWhile Lexer.isWordCharacter), start⟩
  if (← matchesClass Lexer.startsName true) = .seen then
    return some ⟨.identifier, String.ofList (← readWhile Lexer.isWordCharacter), start⟩
  match ← matchesClass Text.isBlank false with
  | .taken _ _ => return none
  | _ =>
    let (found, _) ← characters 1 true
    throw (.source start.line start.column (.invalidCharacter (found.headD ' ')))

/-- Reads a token that is no comment, or drops a blank and gives none. -/
def plain? (start : Position) : EStateM Fault Buffered (Option Token) := do
  if let some kind ← firstSymbol TokenKind.symbols then
    return some ⟨kind, kind.spelling, start⟩
  if ← matchesSymbol [Lexer.lifetimeMark] false then
    lifetime start
  else
    word? start

/-- Reads the token at the front, or drops a blank and gives none. -/
def token? : EStateM Fault Buffered (Option Token) := do
  let start := (← get).position
  if let some value ← comment? then
    return some ⟨.comment, String.ofList value, start⟩
  plain? start

def nextFrom : Nat → EStateM Fault Buffered (Option Token)
  | 0 => throw .outOfSteps
  | steps + 1 => do
    if ← hasMore then
      match ← token? with
      | some token => return some token
      | none => nextFrom steps
    else
      return none

def next : EStateM Fault Buffered (Option Token) := do
  nextFrom ((← get).rest.length + 1)

def tokensFrom : Nat → Buffered → List Token × Option Fault × Buffered
  | 0, stream => ([], some .outOfSteps, stream)
  | steps + 1, stream =>
    match next.run stream with
    | .ok none after => ([], none, after)
    | .ok (some token) after =>
      let (tokens, fault, last) := tokensFrom steps after
      (token :: tokens, fault, last)
    | .error fault after => ([], some fault, after)

def tokens (stream : Buffered) : List Token × Option Fault × Buffered :=
  tokensFrom (stream.rest.length + 1) stream

end Buffered

end CowView
