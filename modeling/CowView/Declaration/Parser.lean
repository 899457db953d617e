import CowView.Declaration
import CowView.Declaration.Annotation
import CowView.Declaration.Names
import CowView.Journal

/-!
Reading declaration units.

    unit        := ("namespace" IDENT ("." IDENT)*)? ";"* (declaration ";"*)*
    declaration := "record" IDENT generics? body | "union" IDENT generics? "{" (IDENT body ","?)* "}"
    generics    := "<" (parameter ("," parameter)* ","?)? ">"
    parameter   := LIFETIME (":" bounds)? | "const" IDENT ":" type | IDENT (":" bounds)?
    body        := ("{" (annotations IDENT ":" type ","?)* "}"
                  | "(" (annotations type ("," annotations type)* ","?)? ")")?

A declaration is registered as soon as it is complete, so that a fault leaves the complete ones behind.
-/

namespace CowView

open TokenStream

/-- The state of reading a unit: the tokens left, the namespace, the declarations of this unit, all
that are registered, and the journal. -/
structure UnitState where
  stream : TokenStream
  scope : Option String
  declared : List Declaration
  registry : List Declaration
  journal : List Event

/-- An action on a unit. A failing action keeps what it did to the state. -/
abbrev UnitReading := EStateM Fault UnitState

namespace UnitReading

def onStream {α : Type} (action : Reading α) : UnitReading α := fun state =>
  match action state.stream with
  | .ok value stream => .ok value { state with stream }
  | .error fault stream => .error fault { state with stream }

instance : MonadLift Reading UnitReading := ⟨onStream⟩

def note (event : Event) : UnitReading Unit :=
  modify fun state => { state with journal := state.journal ++ [event] }

end UnitReading

namespace Declaration.Parser

def introduced (role : String) (isMember : Bool) : Reading String := do
  let name ← ensure .identifier
  match publicName role name isMember with
  | .ok name => return name
  | .error fault => throw fault

def ensureDistinct (names : List String) (problem : String → DeclarationProblem) : Reading Unit :=
  match firstRepeated? [] names with
  | some name => throw (.naming (problem name))
  | none => pure ()

def parameterBounds : Reading (List TypeExpr) := do
  if ← nextIs .colon then
    TypeExpr.parseBounds
  else
    return []

def parameter : Reading Parameter := do
  if ← peekedIs .lifetime then
    let duration ← TypeExpr.Parser.lifetime
    return .lifetime duration (← parameterBounds)
  else if ← nextIs .identifier (some "const") then
    let name ← ensure .identifier
    let _ ← ensure .colon
    return .constant name (← TypeExpr.parse)
  else
    let name ← introduced "type parameter" false
    return .type name (← parameterBounds)

def parameters : Nat → Reading (List Parameter)
  | 0 => throw .outOfSteps
  | steps + 1 => do
    if ← nextIs .greaterThan then
      return []
    let first ← parameter
    if ← nextIs .comma then
      return first :: (← parameters steps)
    let _ ← ensure .greaterThan
    return [first]

def generics : Reading (List Parameter) := do
  if !(← nextIs .lessThan) then
    return []
  let found ← parameters ((← get).pending.length + 1)
  ensureDistinct (found.map Parameter.name) .repeatedParameter
  return found

def field (owner : String) (name : Option String) (index : Nat) (type : TypeExpr)
    (mark : Option Annotation) (docs : String) : Reading Field := do
  let tag := (mark.bind (·.strategy)).getD Strategy.regular.tag
  let clauses := (mark.map (·.clauses)).getD []
  match Strategy.ofTag? tag with
  | some strategy => return ⟨name, index, type, strategy, clauses, docs⟩
  | none =>
    let label := name.getD (toString index)
    throw (.generation ⟨some owner, some label⟩ (.unknownStrategy tag))

def namedField (owner : String) (index : Nat) : Reading Field := do
  let label ← if ← peekedIs .atSign then lookaheadFieldName else pure none
  let docsBefore ← lastDocs
  let mark ← Annotation.parseAll ⟨some owner, label⟩
  let docsAfter ← lastDocs
  let docs := if docsAfter.isEmpty then docsBefore else docsAfter
  let name ← introduced "field" true
  let _ ← ensure .colon
  field owner (some name) index (← TypeExpr.parse) mark docs

def tupleField (owner : String) (index : Nat) : Reading Field := do
  let _ ← peekedIs .atSign
  let docs ← lastDocs
  let mark ← Annotation.parseAll ⟨some owner, some (toString index)⟩
  field owner none index (← TypeExpr.parse) mark docs

def namedFields (owner : String) : Nat → Nat → Reading (List Field)
  | 0, _ => throw .outOfSteps
  | steps + 1, index => do
    if ← nextIs .closeBrace then
      return []
    let first ← namedField owner index
    let _ ← nextIs .comma
    return first :: (← namedFields owner steps (index + 1))

def tupleFields (owner : String) : Nat → Nat → Reading (List Field)
  | 0, _ => throw .outOfSteps
  | steps + 1, index => do
    if ← nextIs .closeParen then
      return []
    let first ← tupleField owner index
    if ← nextIs .comma then
      return first :: (← tupleFields owner steps (index + 1))
    let _ ← ensure .closeParen
    return [first]

def fieldList (owner : String) : Reading FieldList := do
  if ← nextIs .openBrace then
    let fields ← namedFields owner ((← get).pending.length + 1) 0
    ensureDistinct (fields.filterMap (·.name)) (.repeatedMember "field" · owner)
    return ⟨fields, .named⟩
  else if ← nextIs .openParen then
    return ⟨← tupleFields owner ((← get).pending.length + 1) 0, .tuple⟩
  else
    return ⟨[], .unit⟩

def variant (owner : String) : Reading Variant := do
  let _ ← peekedIs .identifier
  let docs ← lastDocs
  let name ← introduced "variant" true
  let fields ← fieldList (owner ++ "." ++ name)
  return ⟨name, fields.ofVariant, docs⟩

def variants (owner : String) : Nat → Reading (List Variant)
  | 0 => throw .outOfSteps
  | steps + 1 => do
    if ← nextIs .closeBrace then
      return []
    let first ← variant owner
    let _ ← nextIs .comma
    return first :: (← variants owner steps)

def union (owner : String) : Reading (List Variant) := do
  let _ ← ensure .openBrace
  let found ← variants owner ((← get).pending.length + 1)
  ensureDistinct (found.map (·.name)) (.repeatedMember "variant" · owner)
  return found

def register (declaration : Declaration) : UnitReading Unit := do
  let state ← get
  if state.registry.any (·.name = declaration.name) then
    throw (.naming (.alreadyDeclared declaration.name))
  UnitReading.note (.registering declaration.qualifiedName)
  modify fun state => { state with
    declared := state.declared ++ [declaration]
    registry := state.registry ++ [declaration] }

def declaration : UnitReading Unit := do
  let keyword ← ensure .identifier
  if keyword ≠ "record" && keyword ≠ "union" then
    throw (.assertion "Declarations start with record or union")
  let docs ← lastDocs
  let name ← introduced keyword false
  let parameters ← generics
  UnitReading.note (.reading keyword name)
  let body ← if keyword = "record" then
      Body.record <$> (fieldList name : UnitReading FieldList)
    else Body.union <$> (union name : UnitReading (List Variant))
  register ⟨name, parameters, body, (← get).scope, docs⟩

def namespaceName : UnitReading Unit := do
  if ← nextIs .identifier (some "namespace") then
    let name ← TokenStream.qualifiedName
    modify fun state => { state with scope := some name }
  consume .semicolon

def declarations : Nat → UnitReading Unit
  | 0 => throw .outOfSteps
  | steps + 1 => do
    consume .semicolon
    if ← peekedIs .endOfInput then
      return
    let token ← peek
    if token.kind = .identifier && (token.value = "record" || token.value = "union") then
      declaration
      consume .semicolon
      declarations steps
    else
      throw (unexpected token ["record", "union"])

def unit : UnitReading Unit := do
  namespaceName
  declarations ((← get).stream.pending.length + 1)

/-- Gives the place of the next token to a fault about a name. -/
def locating (action : UnitReading Unit) : UnitReading Unit := fun state =>
  match action state with
  | .error (.naming problem) state =>
    (do let token ← peek
        throw (.source token.line token.column (.naming problem)) : UnitReading Unit) state
  | result => result

end Declaration.Parser

/-- The state before a text is read, with what was registered earlier. -/
def UnitState.ofText (text : String) (registry : List Declaration) : UnitState :=
  ⟨TokenStream.ofText text, none, [], registry, []⟩

def readUnit (text : String) (registry : List Declaration) : Option Fault × UnitState :=
  match Declaration.Parser.locating Declaration.Parser.unit (UnitState.ofText text registry) with
  | .ok _ state => (none, state)
  | .error fault state => (some fault, state)

end CowView
