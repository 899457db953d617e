import CowView.Fault

/-!
Categories of faults. They form a tree, and a fault of a category is one of each category above it.
-/

namespace CowView

/-- The categories of faults, of units and of the values of loaded units. -/
inductive FaultCategory where
  | fault
  | notFound
  | source
  | unexpectedToken
  | generation
  | misannotated
  | unknownStrategy
  | unsupportedShape
  | capability
  | unsatisfied
  | expired
  deriving DecidableEq, Repr

namespace FaultCategory

def all : List FaultCategory :=
  [fault, notFound, source, unexpectedToken, generation, misannotated, unknownStrategy,
    unsupportedShape, capability, unsatisfied, expired]

def name : FaultCategory → String
  | fault => "ButcherException"
  | notFound => "NotFoundException"
  | source => "SourceException"
  | unexpectedToken => "UnexpectedTokenException"
  | generation => "GenerationError"
  | misannotated => "AnnotationSyntaxError"
  | unknownStrategy => "UnknownStrategyError"
  | unsupportedShape => "UnsupportedTypeShapeError"
  | capability => "RuntimeCapabilityError"
  | unsatisfied => "UnsatisfiedCapabilityError"
  | expired => "BorrowExpiredError"

def lineage : FaultCategory → List FaultCategory
  | fault => [fault]
  | unexpectedToken => [unexpectedToken, source, fault]
  | misannotated => [misannotated, generation, fault]
  | unknownStrategy => [unknownStrategy, generation, fault]
  | unsupportedShape => [unsupportedShape, generation, fault]
  | unsatisfied => [unsatisfied, capability, fault]
  | expired => [expired, capability, fault]
  | other => [other, fault]

def parameters : FaultCategory → List String × Nat
  | fault | capability => (["msg"], 1)
  | notFound => (["entity_type", "value"], 2)
  | source => (["line", "col", "msg"], 3)
  | unexpectedToken => (["found_token"], 1)
  | generation => (["msg", "declaration", "field"], 1)
  | misannotated => (["msg", "declaration", "field", "line", "column"], 1)
  | unknownStrategy => (["strategy", "declaration", "field"], 1)
  | unsupportedShape => (["shape", "declaration", "field"], 1)
  | unsatisfied => (["value", "capability"], 2)
  | expired => (["scope"], 1)

def ofName? (name : String) : Option FaultCategory := all.find? (·.name = name)

end FaultCategory

def Fault.category : Fault → FaultCategory
  | source _ _ (.unexpectedToken ..) => .unexpectedToken
  | source .. => .source
  | generation _ (.misannotated ..) => .misannotated
  | generation _ (.unknownStrategy _) => .unknownStrategy
  | generation _ (.unsupportedShape _) => .unsupportedShape
  | generation .. => .generation
  | notFound .. => .notFound
  | naming _ | assertion _ | outOfSteps => .fault

end CowView
