import CowView.Strategy
import CowView.TypeExpr

/-!
What a strategy makes of the type of a field: the type of the field of the view, and the capabilities
that it requires.
-/

namespace CowView

namespace TypeExpr

def cow (lifetime : Lifetime) (type : TypeExpr) : TypeExpr :=
  applied "Cow" [.lifetime lifetime, type]

def target (type : TypeExpr) : TypeExpr := type.associated (.plain "Deref") "Target"

def boxed? : TypeExpr → Option TypeExpr
  | path first rest =>
    match (first :: rest).getLast? with
    | some (.angle "Box" [.type (.lifetime _)]) => none
    | some (.angle "Box" [.type (.constant _)]) => none
    | some (.angle "Box" [.type content]) => some content
    | _ => none
  | _ => none

def unboxed (type : TypeExpr) : TypeExpr := type.boxed?.getD type.target

def viewTrait (lifetime : Lifetime) : Segment := .angle "Butcher" [.type (.lifetime lifetime)]

end TypeExpr

namespace Strategy

open TypeExpr

def viewType (strategy : Strategy) (type : TypeExpr) (lifetime : Lifetime) : TypeExpr :=
  match strategy with
  | regular => cow lifetime type
  | copy => type
  | flatten => cow lifetime type.target
  | unbox => cow lifetime type.unboxed
  | nested => type.associated (viewTrait lifetime) "Output"

def requirements (strategy : Strategy) (type : TypeExpr) (lifetime : Lifetime) :
    List (TypeExpr × List TypeExpr) :=
  match strategy with
  | regular | copy => [(type, [named "Clone"])]
  | flatten =>
    [(type, [named "Deref", applied "Borrow" [type.target]]), (type.target, [named "ToOwned"])]
  | unbox => [(type.unboxed, [named "Clone"])]
  | nested => [(type, [path (viewTrait lifetime) [], named "Clone"])]

def clause (subject : TypeExpr) (capabilities : List TypeExpr) : String :=
  subject.render ++ ": " ++ Text.join " + " (capabilities.map render)

def clauses (strategy : Strategy) (type : TypeExpr) (lifetime : Lifetime) : List String :=
  (strategy.requirements type lifetime).map fun (subject, capabilities) =>
    clause subject capabilities

end Strategy

end CowView
