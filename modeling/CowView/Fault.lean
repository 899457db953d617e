import CowView.Strategy
import CowView.Text.Join

/-!
What can be wrong with a declaration unit. Every fault is a cause; `Fault.message` gives its wording.
-/

namespace CowView

/-- What is wrong with a name that a declaration introduces. A `role` says what the name is for. -/
inductive DeclarationProblem where
  | leadingUnderscore (role name : String)
  | keyword (role name : String)
  | reservedMember (role name : String)
  | repeatedParameter (name : String)
  | repeatedMember (role name owner : String)
  | alreadyDeclared (name : String)
  | other (text : String)
  deriving DecidableEq, Repr

inductive SourceProblem where
  | unclosed (delimiter : String)
  | lifetimeNameExpected
  | invalidCharacter (character : Char)
  | unexpectedToken (found : String) (expected : List String)
  | unterminatedMacro (path : String)
  | naming (problem : DeclarationProblem)
  | other (text : String)
  deriving DecidableEq, Repr

/-- What is wrong with an annotation. A `subject` is the rendered left side of a bound clause. -/
inductive AnnotationProblem where
  | nameExpected
  | unknownName (name : String)
  | repeated
  | unterminated
  | itemExpected
  | capabilityExpected (subject : String)
  | strategyNotFirst (strategy : String)
  | colonExpected (subject : String)
  | separatorExpected
  | other (text : String)
  deriving DecidableEq, Repr

/-- Why no view can be generated. An annotation carries its place when that is known. -/
inductive GenerationProblem where
  | misannotated (problem : AnnotationProblem) (line column : Option Int)
  | unknownStrategy (name : String)
  | unsupportedShape (shape : String)
  | nameTaken (name : String)
  | other (text : String)
  deriving DecidableEq, Repr

structure Attribution where
  declaration : Option String := none
  field : Option String := none
  deriving DecidableEq, Repr

/-- A reason why a unit is rejected. `outOfSteps` marks a bounded recursion that ran dry; the bounds
are computed from the text so that it never does. `assertion` marks a failed assertion about what was
read, of which there is none either. -/
inductive Fault where
  | source (line column : Int) (problem : SourceProblem)
  | naming (problem : DeclarationProblem)
  | generation (attribution : Attribution) (problem : GenerationProblem)
  | notFound (role name : String)
  | assertion (text : String)
  | outOfSteps
  deriving DecidableEq, Repr

def DeclarationProblem.message : DeclarationProblem → String
  | leadingUnderscore role name =>
    "Invalid " ++ role ++ " name '" ++ name ++ "', names starting with '_' are reserved"
  | keyword role name => "Invalid " ++ role ++ " name '" ++ name ++ "', it is a python keyword"
  | reservedMember role name =>
    "Invalid " ++ role ++ " name '" ++ name ++ "', it is used by the generated classes"
  | repeatedParameter name => "Duplicate generic parameter '" ++ name ++ "'"
  | repeatedMember role name owner =>
    "Duplicate " ++ role ++ " '" ++ name ++ "' in '" ++ owner ++ "'"
  | alreadyDeclared name => "Declaration '" ++ name ++ "' already exists"
  | other text => text

def SourceProblem.message : SourceProblem → String
  | unclosed delimiter => "EOF Reached.  Expected '" ++ delimiter ++ "'"
  | lifetimeNameExpected => "Borrow duration name expected after \"'\""
  | invalidCharacter character => "Invalid character encountered: '" ++ character.toString ++ "'"
  | unexpectedToken found [expected] =>
    "Token encountered '" ++ found ++ "', Expected: " ++ expected
  | unexpectedToken found expected =>
    "Token encountered '" ++ found ++ "', Expected one of (" ++
      Text.join ", " (expected.map fun each => "'" ++ each ++ "'") ++ ")"
  | unterminatedMacro path => "Unterminated macro invocation '" ++ path ++ "!'"
  | naming problem => problem.message
  | other text => text

def AnnotationProblem.message : AnnotationProblem → String
  | nameExpected => "Annotation name expected after '@'"
  | unknownName name => "Unknown annotation '@" ++ name ++ "', expected '@butcher'"
  | repeated => "Duplicate @butcher annotation"
  | unterminated => "Unterminated annotation, expected ')'"
  | itemExpected => "Strategy or bound clause expected"
  | capabilityExpected subject => "Capability expected after '" ++ subject ++ ":'"
  | strategyNotFirst strategy =>
    "Strategy '" ++ strategy ++ "' must be the first item of the annotation"
  | colonExpected subject => "Expected ':' after '" ++ subject ++ "' in bound clause"
  | separatorExpected => "Expected ',' or ')' in annotation"
  | other text => text

def GenerationProblem.reason : GenerationProblem → String
  | misannotated problem _ _ => problem.message
  | unknownStrategy name => name
  | unsupportedShape shape => shape
  | nameTaken name => "Generated name '" ++ name ++ "' is already taken"
  | other text => text

def GenerationProblem.message : GenerationProblem → String
  | unknownStrategy name =>
    "Unknown strategy '" ++ name ++ "', expected one of (" ++ Text.join ", " (Strategy.all.map Strategy.tag) ++ ")"
  | unsupportedShape shape => "Unsupported type shape: " ++ shape
  | problem => problem.reason

namespace Attribution

def owner? (attribution : Attribution) : Option String :=
  attribution.declaration.filter (· ≠ "")

def apply (attribution : Attribution) (message : String) : String :=
  match attribution.owner?, attribution.field with
  | some declaration, some field => declaration ++ "." ++ field ++ ": " ++ message
  | none, some field => "Field '" ++ field ++ "': " ++ message
  | some declaration, none => declaration ++ ": " ++ message
  | none, none => message

def orElse (attribution other : Attribution) : Attribution :=
  ⟨attribution.owner?.or other.declaration, attribution.field.or other.field⟩

end Attribution

def atPlace (line column : Int) (message : String) : String :=
  "Line " ++ toString line ++ ":" ++ toString column ++ " - " ++ message

namespace Fault

def message : Fault → String
  | source line column problem => atPlace line column problem.message
  | naming problem => problem.message
  | generation attribution problem =>
    let attributed := attribution.apply problem.message
    match problem with
    | .misannotated _ (some line) (some column) => atPlace line column attributed
    | _ => attributed
  | notFound role name => "Not found (" ++ role ++ ":" ++ name ++ ")"
  | assertion text => text
  | outOfSteps => "Out of steps"

def chargeTo (fault : Fault) (attribution : Attribution) : Fault :=
  match fault with
  | generation known problem => generation (known.orElse attribution) problem
  | other => other

def isSource : Fault → Bool
  | source .. => true
  | _ => false

end Fault

end CowView
