import CowView.TypeExpr
import CowView.TypeExpr.TokenGroup

/-!
Reading type expressions from a token stream.

    type     := "(" ")" | "(" type ")" | "(" type "," types ")" | "[" type "]" | "[" type ";" const "]"
              | "&" LIFETIME? "mut"? type | "*" ("const" | "mut") type | "!" | "_"
              | "fn" "(" types ")" ("->" type)? | "impl" bounds | "dyn" bounds | path ("!" group)?
    path     := ("<" type ("as" path)? ">" "::")? segment ("::" segment)*
    segment  := IDENT ("::"? "<" arguments ">" | "(" types ")" ("->" type)?)?
    argument := LIFETIME | NUMBER | IDENT "=" type | IDENT ":" bounds | type
    bounds   := bound ("+" bound)*
    bound    := LIFETIME | path | "(" path ")"

Lists in brackets may end with a comma. The functions take a number of steps that bounds the nesting
of their calls; `TypeExpr.parse` computes it from the stream.
-/

namespace CowView

open TokenStream

structure Path where
  subject : Option (TypeExpr × Nat)
  first : Segment
  rest : List Segment

namespace Path

def toExpr (path : Path) : TypeExpr :=
  match path.subject with
  | none => .path path.first path.rest
  | some (subject, position) => .qualified subject position path.first path.rest

def segments (path : Path) : List Segment := path.first :: path.rest

end Path

namespace TypeExpr.Parser

def lifetime : Reading Lifetime := do
  match Lifetime.ofMarked? (← ensure .lifetime) with
  | some found => return found
  | none => throw (.assertion "Borrow durations start with a quote")

def constant : Reading String := do
  let token ← current
  match token.kind with
  | .number | .identifier => return (← next).value
  | _ => throw (unexpected token [TokenKind.number.spelling, TokenKind.identifier.spelling])

def macroGroup (path : String) : Reading TypeExpr := do
  let _ ← ensure .bang
  let opening ← next
  match opening.kind.closer? with
  | none => throw (unexpected opening ["(", "[", "\x7b"])
  | some closer =>
    let steps := (← get).pending.length + 2
    match ← TokenGroup.readWithin steps [closer] [opening.value] with
    | some values => return .verbatim (path ++ "!" ++ TokenGroup.join values)
    | none => throw (.source opening.line opening.column (.unterminatedMacro path))

mutual

def type : Nat → Reading TypeExpr
  | 0 => throw .outOfSteps
  | steps + 1 => do
    let token ← current
    match token.kind with
    | .openParen =>
      let _ ← next
      tupleOrGroup steps
    | .openSquare =>
      let _ ← next
      let element ← type steps
      if ← nextIs .semicolon then
        let length ← constant
        let _ ← ensure .closeSquare
        return .array element length
      let _ ← ensure .closeSquare
      return .slice element
    | .ampersand =>
      let _ ← next
      let duration ← if ← peekedIs .lifetime then some <$> lifetime else pure none
      let isMutable ← nextIs .identifier (some "mut")
      return .reference duration isMutable (← type steps)
    | .star =>
      let _ ← next
      if ← nextIs .identifier (some "mut") then
        return .pointer true (← type steps)
      let _ ← ensure .identifier (some "const")
      return .pointer false (← type steps)
    | .bang =>
      let _ ← next
      return .never
    | .lessThan => pathOrMacro steps
    | .identifier =>
      match token.value with
      | "_" =>
        let _ ← next
        return .inferred
      | "fn" =>
        let _ ← next
        let _ ← ensure .openParen
        let inputs ← types .closeParen steps
        return .function inputs (← output steps)
      | "impl" =>
        let _ ← next
        return .implTrait (← bounds steps)
      | "dyn" =>
        let _ ← next
        return .traitObject (← bounds steps)
      | _ => pathOrMacro steps
    | _ => throw (unexpected token ["type"])

def tupleOrGroup : Nat → Reading TypeExpr
  | 0 => throw .outOfSteps
  | steps + 1 => do
    if ← nextIs .closeParen then
      return .tuple []
    let first ← type steps
    if ← nextIs .closeParen then
      return .group first
    let _ ← ensure .comma
    return .tuple (first :: (← types .closeParen steps))

def types (closer : TokenKind) : Nat → Reading (List TypeExpr)
  | 0 => throw .outOfSteps
  | steps + 1 => do
    if ← nextIs closer then
      return []
    let first ← type steps
    if ← nextIs .comma then
      return first :: (← types closer steps)
    let _ ← ensure closer
    return [first]

def output : Nat → Reading (Option TypeExpr)
  | 0 => throw .outOfSteps
  | steps + 1 => do
    if ← nextIs .arrow then
      return some (← type steps)
    return none

def pathOrMacro : Nat → Reading TypeExpr
  | 0 => throw .outOfSteps
  | steps + 1 => do
    let found ← path steps
    if ← peekedIs .bang then
      macroGroup found.toExpr.render
    else
      return found.toExpr

def path : Nat → Reading Path
  | 0 => throw .outOfSteps
  | steps + 1 => do
    if ← nextIs .lessThan then
      let subject ← type steps
      let trait ← if ← nextIs .identifier (some "as") then
          Path.segments <$> path steps
        else pure []
      let _ ← ensure .greaterThan
      let _ ← ensure .doubleColon
      let first ← segment steps
      let rest ← segments steps
      match trait with
      | [] => return ⟨some (subject, 0), first, rest⟩
      | head :: tail => return ⟨some (subject, trait.length), head, tail ++ first :: rest⟩
    else
      let first ← segment steps
      return ⟨none, first, ← segments steps⟩

def segments : Nat → Reading (List Segment)
  | 0 => throw .outOfSteps
  | steps + 1 => do
    if ← nextIs .doubleColon then
      let first ← segment steps
      return first :: (← segments steps)
    return []

/-- Reads a segment: a name and its arguments. A double colon in front of arguments in angle
brackets is dropped, any other one is left to the path. -/
def segment : Nat → Reading Segment
  | 0 => throw .outOfSteps
  | steps + 1 => do
    let name ← ensure .identifier
    if ← peekedIs .lessThan then
      return .angle name (← angleArguments steps)
    else if ← peekedIs .doubleColon then
      let colons ← next
      if ← peekedIs .lessThan then
        return .angle name (← angleArguments steps)
      unget colons
      return .plain name
    else if ← nextIs .openParen then
      let inputs ← types .closeParen steps
      return .call name inputs (← output steps)
    else
      return .plain name

def angleArguments : Nat → Reading (List Argument)
  | 0 => throw .outOfSteps
  | steps + 1 => do
    let _ ← ensure .lessThan
    arguments steps

def arguments : Nat → Reading (List Argument)
  | 0 => throw .outOfSteps
  | steps + 1 => do
    if ← nextIs .greaterThan then
      return []
    let first ← argument steps
    if ← nextIs .comma then
      return first :: (← arguments steps)
    let _ ← ensure .greaterThan
    return [first]

/-- Reads an argument. A name is read ahead of what follows it and put back if it starts a type. -/
def argument : Nat → Reading Argument
  | 0 => throw .outOfSteps
  | steps + 1 => do
    let token ← current
    match token.kind with
    | .lifetime => return .type (.lifetime (← lifetime))
    | .number => return .type (.constant (← next).value)
    | .identifier =>
      let name ← next
      if ← nextIs .equals then
        return .binding name.value (← type steps)
      else if ← nextIs .colon then
        return .constraint name.value (← bounds steps)
      unget name
      return .type (← type steps)
    | _ => return .type (← type steps)

def bounds : Nat → Reading (List TypeExpr)
  | 0 => throw .outOfSteps
  | steps + 1 => do
    let first ← bound steps
    if ← nextIs .plus then
      return first :: (← bounds steps)
    return [first]

def bound : Nat → Reading TypeExpr
  | 0 => throw .outOfSteps
  | steps + 1 => do
    if ← peekedIs .lifetime then
      return .lifetime (← lifetime)
    else if ← nextIs .openParen then
      let inner ← path steps
      let _ ← ensure .closeParen
      return .group inner.toExpr
    else
      return (← path steps).toExpr

end

end TypeExpr.Parser

/-- Reads a type expression off the stream. -/
def TypeExpr.parse : Reading TypeExpr := do
  TypeExpr.Parser.type (← get).budget

def TypeExpr.parseBounds : Reading (List TypeExpr) := do
  TypeExpr.Parser.bounds (← get).budget

end CowView
