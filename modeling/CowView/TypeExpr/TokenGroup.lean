import CowView.Token.Stream

/-!
Token groups: the bracketed tokens of a macro, kept as they are. `TokenGroup.join` spells a group with
one blank between any two tokens, except after an opening and before a closing bracket or a comma.
-/

namespace CowView.TokenGroup

def occursIn (part : List Char) : List Char → Bool
  | [] => part.isEmpty
  | character :: rest => part.isPrefixOf (character :: rest) || occursIn part rest

/-- The values before which no blank is written: those that occur in the row of closing brackets
and the comma. -/
def isClosing (value : List Char) : Bool := occursIn value [')', ']', '\x7d', ',']

def endsOpen (text : List Char) : Bool := text.getLast?.any (· ∈ ['(', '[', '\x7b'])

def append (text value : List Char) : List Char :=
  if text.isEmpty || endsOpen text || isClosing value then text ++ value
  else text ++ ' ' :: value

def join (values : List String) : String :=
  String.ofList ((values.map String.toList).foldl append [])

/-- Reads tokens until every open bracket is closed, the closing brackets awaited being given from
the innermost out. Gives the values read, or none if the input ends before. -/
def readWithin : Nat → List TokenKind → List String → Reading (Option (List String))
  | 0, _, _ => throw .outOfSteps
  | _, [], values => return some values.reverse
  | steps + 1, awaited :: outer, values => do
    let token ← TokenStream.next
    match token.kind, token.kind.closer? with
    | .endOfInput, _ => return none
    | _, some closer => readWithin steps (closer :: awaited :: outer) (token.value :: values)
    | kind, none =>
      readWithin steps (if kind = awaited then outer else awaited :: outer) (token.value :: values)

end CowView.TokenGroup
