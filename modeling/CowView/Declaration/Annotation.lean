import CowView.Strategy.Requirements
import CowView.TypeExpr.Parser

/-!
Annotations of fields.

    annotations := annotation*
    annotation  := "@" "butcher" ("(" (item ("," item)* ","?)? ")")?
    item        := STRATEGY | (LIFETIME | type) ":" bounds

A strategy comes first. A field has at most one annotation.
-/

namespace CowView

open TokenStream

/-- What the annotation of a field says: the tag of a strategy, if it names one, and bound clauses
to add. -/
structure Annotation where
  strategy : Option String
  clauses : List String
  position : Position
  deriving DecidableEq, Repr

namespace Annotation

def keyword : String := "butcher"

def describe (mark : Annotation) : String :=
  "<FieldAnnotation(" ++ mark.strategy.getD "None" ++ "), Bounds: " ++
    Text.join ", " mark.clauses ++ ">"

def fault (attribution : Attribution) (problem : AnnotationProblem) (token : Token) : Fault :=
  .generation attribution (.misannotated problem (some token.line) (some token.column))

def failHere {α : Type} (attribution : Attribution) (problem : AnnotationProblem) : Reading α := do
  throw (fault attribution problem (← peek))

/-- Runs an action; if it meets a fault in the text, runs the other one on what is left. -/
def orOnSource {α : Type} (action other : Reading α) : Reading α := fun stream =>
  match action stream with
  | .error (.source _ _ _) stream => other stream
  | result => result

def strategyName? : TypeExpr → Option String
  | .path (.plain name) [] => some name
  | _ => none

def subject : Reading TypeExpr := do
  if ← peekedIs .lifetime then
    return .lifetime (← TypeExpr.Parser.lifetime)
  TypeExpr.parse

def item (attribution : Attribution) (mark : Annotation) (isFirst : Bool) (token : Token) :
    Reading Annotation := do
  let subject ← orOnSource subject (throw (fault attribution .itemExpected token))
  if ← nextIs .colon then
    let capabilities ←
      orOnSource TypeExpr.parseBounds (failHere attribution (.capabilityExpected subject.render))
    return { mark with
      clauses := mark.clauses ++ [Strategy.clause subject capabilities] }
  match strategyName? subject with
  | some name =>
    if isFirst then
      return { mark with strategy := some name }
    throw (fault attribution (.strategyNotFirst subject.render) token)
  | none => failHere attribution (.colonExpected subject.render)

def items (attribution : Attribution) : Nat → Annotation → Bool → Reading Annotation
  | 0, _, _ => throw .outOfSteps
  | steps + 1, mark, isFirst => do
    if ← nextIs .closeParen then
      return mark
    let token ← peek
    if token.kind = .endOfInput then
      throw (fault attribution .unterminated token)
    let mark ← item attribution mark isFirst token
    if ← nextIs .comma then
      items attribution steps mark false
    else if ← nextIs .closeParen then
      return mark
    else
      failHere attribution .separatorExpected

/-- Reads an annotation. Its first token is taken for the at sign. -/
def parse (attribution : Attribution) : Reading Annotation := do
  let start ← next
  if !(← peekedIs .identifier) then
    failHere attribution .nameExpected
  let name ← ensure .identifier
  if name ≠ keyword then
    throw (fault attribution (.unknownName name) start)
  let mark : Annotation := ⟨none, [], start.position⟩
  if ← nextIs .openParen then
    items attribution ((← get).pending.length + 1) mark true
  else
    return mark

def parseAllFrom (attribution : Attribution) : Nat → Option Annotation → Reading (Option Annotation)
  | 0, _ => throw .outOfSteps
  | steps + 1, found => do
    if ← peekedIs .atSign then
      let token ← peek
      let mark ← parse attribution
      if found.isSome then
        throw (fault attribution .repeated token)
      parseAllFrom attribution steps (some mark)
    else
      return found

def parseAll (attribution : Attribution) : Reading (Option Annotation) := do
  parseAllFrom attribution ((← get).pending.length + 1) none

end Annotation

end CowView
