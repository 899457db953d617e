import CowView.DocComment
import CowView.Token.Lexer

/-!
Streams of tokens with lookahead. A text is read into lexemes once; a stream holds those that are
still to be delivered. A fault of the lexer is delivered in place of the token it kept from being
read, once if the lexer moves past it and over and over if it cannot.
-/

namespace CowView

/-- What the lexer delivers: a token, or a fault after which it goes on. -/
inductive Lexeme where
  | token (token : Token)
  | fault (fault : Fault)
  deriving DecidableEq, Repr

/-- What is delivered after the last lexeme, again and again: the end of the input, or a fault that
the lexer cannot move past. -/
inductive Ending where
  | finished (position : Position)
  | stuck (fault : Fault)
  deriving DecidableEq, Repr

namespace Lexeme

def readWithin : Nat → Cursor → List Lexeme × Ending
  | 0, _ => ([], .stuck .outOfSteps)
  | steps + 1, cursor =>
    match cursor.next true with
    | .finished after => ([], .finished after.position)
    | .token found after =>
      let (lexemes, ending) := readWithin steps after
      (.token found :: lexemes, ending)
    | .fault cause after =>
      if after.rest.length < cursor.skipBlanks.rest.length then
        let (lexemes, ending) := readWithin steps after
        (.fault cause :: lexemes, ending)
      else ([], .stuck cause)

/-- The lexemes of a text. Each of them takes at least one character. -/
def ofText (text : String) : List Lexeme × Ending :=
  readWithin (text.toList.length + 1) (Cursor.ofText text)

end Lexeme

/-- The tokens to be delivered and the last doc comment that was passed over. -/
structure TokenStream where
  pending : List Lexeme
  ending : Ending
  docs : String
  deriving DecidableEq, Repr

/-- An action on a stream. A failing action keeps what it did to the stream. -/
abbrev Reading := EStateM Fault TokenStream

namespace TokenStream

def ofText (text : String) : TokenStream :=
  let (lexemes, ending) := Lexeme.ofText text
  ⟨lexemes, ending, ""⟩

/-- A bound on the nesting of calls that read the pending tokens: no more than seven calls in a row
leave the stream as it is. -/
def budget (stream : TokenStream) : Nat := 8 * (stream.pending.length + 2)

def dropComments (docs : String) : List Lexeme → List Lexeme × String
  | .token token :: rest =>
    if token.isComment then
      dropComments (if DocComment.isDoc token.value then DocComment.body token.value else docs) rest
    else (.token token :: rest, docs)
  | pending => (pending, docs)

/-- The next token, taken off the stream. The end of the input is never used up. -/
def next : Reading Token := fun stream =>
  match stream.pending with
  | .token token :: rest => .ok token { stream with pending := rest }
  | .fault fault :: rest => .error fault { stream with pending := rest }
  | [] =>
    match stream.ending with
    | .finished position => .ok (.endAt position) stream
    | .stuck fault => .error fault stream

def peek : Reading Token := fun stream =>
  match stream.pending with
  | .token token :: _ => .ok token stream
  | .fault fault :: rest => .error fault { stream with pending := rest }
  | [] =>
    match stream.ending with
    | .finished position => .ok (.endAt position) stream
    | .stuck fault => .error fault stream

def unget (token : Token) : Reading Unit :=
  modify fun stream => { stream with pending := .token token :: stream.pending }

def skipComments : Reading Unit :=
  modify fun stream =>
    let (pending, docs) := dropComments stream.docs stream.pending
    { stream with pending, docs }

def current : Reading Token := do
  skipComments
  peek

def noteDocs (token : Token) : Reading Unit :=
  if token.isComment && DocComment.isDoc token.value then
    modify fun stream => { stream with docs := DocComment.body token.value }
  else pure ()

def fits (kind : TokenKind) (value : Option String) (token : Token) : Bool :=
  token.kind = kind && value.all (· = token.value)

/-- The next token if it fits, taken off the stream on request. Comments are passed over, or count
as tokens themselves. -/
def nextIf (kind : TokenKind) (value : Option String) (consume : Bool)
    (ignoreComments : Bool) : Reading (Option Token) := do
  let token ← if ignoreComments then current else do
    let token ← peek
    noteDocs token
    pure token
  if fits kind value token then
    if consume then
      let _ ← next
    return some token
  return none

def peekedIs (kind : TokenKind) (value : Option String := none) : Reading Bool := do
  return (← nextIf kind value false true).isSome

def nextIs (kind : TokenKind) (value : Option String := none) : Reading Bool := do
  return (← nextIf kind value true true).isSome

def unexpected (token : Token) (expected : List String) : Fault :=
  .source token.line token.column (.unexpectedToken token.value expected)

/-- The value of the next token, which has to fit and is taken off the stream unless it is only
peeked at. -/
def ensure (kind : TokenKind) (value : Option String := none) (peekOnly : Bool := false) :
    Reading String := do
  if !(← peekedIs kind value) then
    let wanted := (value.filter (· ≠ "")).getD kind.spelling
    throw (unexpected (← peek) [wanted])
  if peekOnly then
    return (← peek).value
  return (← next).value

def consumeWithin (kind : TokenKind) : Nat → Reading Unit
  | 0 => throw .outOfSteps
  | steps + 1 => do
    if ← nextIs kind then
      consumeWithin kind steps

def consume (kind : TokenKind) : Reading Unit := do
  consumeWithin kind ((← get).pending.length + 1)

def lastDocs (reset : Bool := true) : Reading String := do
  let docs := (← get).docs
  if reset then
    modify fun stream => { stream with docs := "" }
  return docs

def qualifiedNameFrom (delimiter : TokenKind) : Nat → String → Reading String
  | 0, _ => throw .outOfSteps
  | steps + 1, name => do
    if ← nextIs delimiter then
      let part ← ensure .identifier
      qualifiedNameFrom delimiter steps (name ++ "." ++ part)
    else
      return name

def qualifiedName (delimiter : TokenKind := .dot) : Reading String := do
  let first ← ensure .identifier
  qualifiedNameFrom delimiter ((← get).pending.length + 1) first

/-- Reads ahead until a name stands outside of parentheses, is not the first token and does not
follow an at sign. Gives the name and the tokens read, the last one first. -/
def lookaheadFrom : Nat → Int → List Token → Reading (Option String × List Token)
  | 0, _, _ => throw .outOfSteps
  | steps + 1, depth, seen => do
    let token ← next
    match token.kind with
    | .endOfInput => return (none, token :: seen)
    | .openParen => lookaheadFrom steps (depth + 1) (token :: seen)
    | .closeParen => lookaheadFrom steps (depth - 1) (token :: seen)
    | .identifier =>
      if depth = 0 && seen.head?.any (·.kind ≠ .atSign) then
        return (some token.value, token :: seen)
      lookaheadFrom steps depth (token :: seen)
    | _ => lookaheadFrom steps depth (token :: seen)

/-- The name of the field whose annotations start here, if there is one. All tokens are put back. -/
def lookaheadFieldName : Reading (Option String) := do
  let (name, seen) ← lookaheadFrom ((← get).pending.length + 1) 0 []
  seen.forM unget
  return name

end TokenStream

end CowView
