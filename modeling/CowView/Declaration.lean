import CowView.Strategy
import CowView.TypeExpr.Equality

/-!
Declarations of records and unions.
-/

namespace CowView

inductive Parameter where
  | type (name : String) (bounds : List TypeExpr)
  | lifetime (lifetime : Lifetime) (bounds : List TypeExpr)
  | constant (name : String) (type : TypeExpr)
  deriving DecidableEq

namespace Parameter

/-- The name as it is written, the mark of a lifetime included. -/
def name : Parameter → String
  | type name _ | constant name _ => name
  | lifetime duration _ => duration.render

def kindName : Parameter → String
  | type .. => "type"
  | lifetime .. => "lifetime"
  | constant .. => "const"

def bounds : Parameter → List TypeExpr
  | type _ bounds | lifetime _ bounds => bounds
  | constant .. => []

def constantType? : Parameter → Option TypeExpr
  | constant _ own => some own
  | _ => none

def isType : Parameter → Bool
  | type .. => true
  | _ => false

def isLifetime : Parameter → Bool
  | lifetime .. => true
  | _ => false

def argument? : Parameter → Option TypeExpr
  | type name _ => some (.named name)
  | lifetime duration _ => some (.lifetime duration)
  | constant .. => none

def describe (parameter : Parameter) : String :=
  "<TypeParam(" ++ parameter.kindName ++ ") " ++ parameter.name ++ ">"

end Parameter

/-- A field of a record or of a variant. Fields in parentheses have no names. -/
structure Field where
  name : Option String
  index : Nat
  type : TypeExpr
  strategy : Strategy
  clauses : List String
  docs : String
  deriving DecidableEq

namespace Field

def slot (field : Field) : String := field.name.getD ("_" ++ toString field.index)

def label (field : Field) : String := field.name.getD (toString field.index)

def describe (field : Field) : String :=
  "<Field " ++ field.label ++ ": " ++ field.type.render ++ " (" ++ field.strategy.tag ++ ")>"

end Field

/-- The brackets around fields: braces, parentheses, or none at all. -/
inductive BodyStyle where
  | named
  | tuple
  | unit
  deriving DecidableEq, Repr

def BodyStyle.name : BodyStyle → String
  | named => "named"
  | tuple => "tuple"
  | unit => "unit"

structure FieldList where
  fields : List Field
  style : BodyStyle
  deriving DecidableEq

def FieldList.ofVariant (list : FieldList) : FieldList :=
  if list.fields.isEmpty then ⟨[], .unit⟩ else list

structure Variant where
  name : String
  fields : FieldList
  docs : String
  deriving DecidableEq

def Variant.describe (variant : Variant) : String :=
  "<Variant " ++ variant.name ++ " (" ++ toString variant.fields.fields.length ++ " fields)>"

inductive Body where
  | record (fields : FieldList)
  | union (variants : List Variant)
  deriving DecidableEq

def Body.fields : Body → List Field
  | record list => list.fields
  | union variants => variants.flatMap (·.fields.fields)

def Body.keyword : Body → String
  | record _ => "record"
  | union _ => "union"

structure Declaration where
  name : String
  parameters : List Parameter
  body : Body
  scope : Option String
  docs : String
  deriving DecidableEq

namespace Declaration

def qualifiedName (declaration : Declaration) : String :=
  match declaration.scope with
  | some scope => scope ++ "." ++ declaration.name
  | none => declaration.name

def fields (declaration : Declaration) : List Field := declaration.body.fields

def typeParameters (declaration : Declaration) : List Parameter :=
  declaration.parameters.filter (·.isType)

def lifetimeParameters (declaration : Declaration) : List Parameter :=
  declaration.parameters.filter (·.isLifetime)

def describe (declaration : Declaration) : String :=
  "<TypeDeclaration(" ++ declaration.body.keyword ++ ") " ++ declaration.qualifiedName ++ ">"

end Declaration

def signatureOf (name : String) (parameters : List Parameter) : TypeExpr :=
  .applied name (parameters.filterMap Parameter.argument?)

def Declaration.signature (declaration : Declaration) : TypeExpr :=
  signatureOf declaration.name declaration.parameters

end CowView
