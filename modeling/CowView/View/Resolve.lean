import CowView.Fault
import CowView.Journal
import CowView.Settings
import CowView.Strategy.Requirements
import CowView.TypeExpr.Substitution
import CowView.View

/-!
Resolving declarations: `Self` is replaced by the signature, each field gets the type of its view and
its bound clauses, and no two generated names may be the same. Nothing is resolved in part.
-/

namespace CowView

def addNew (known more : List String) : List String :=
  more.foldl (fun clauses clause => if clause ∈ clauses then clauses else clauses ++ [clause]) known

namespace View

def dependencies (declaration : Declaration) : List String :=
  (declaration.typeParameters ++ declaration.lifetimeParameters).map Parameter.name

/-- Resolves a field from its type without `Self`. The clauses of the strategy are needed only where
the type depends on a parameter. -/
def resolveField (settings : Settings) (declaration : Declaration) (field : Field)
    (source : TypeExpr) : FieldView :=
  let needed :=
    if source.mentionsAny (dependencies declaration) then
      field.strategy.clauses source settings.lifetime
    else []
  ⟨field, source, field.strategy.viewType source settings.lifetime, addNew needed field.clauses⟩

def fieldSource (declaration : Declaration) (field : Field) : Except Fault TypeExpr :=
  match field.type.replaceSelf declaration.signature with
  | .ok source => .ok source
  | .error problem => .error (.generation ⟨some declaration.name, some field.label⟩ problem)

def resolveFields (settings : Settings) (declaration : Declaration) :
    List Field → Except Fault (List FieldView)
  | [] => .ok []
  | field :: rest => do
    let source ← fieldSource declaration field
    let others ← resolveFields settings declaration rest
    return resolveField settings declaration field source :: others

def resolveVariants (settings : Settings) (declaration : Declaration) :
    List Variant → Except Fault (List VariantView)
  | [] => .ok []
  | variant :: rest => do
    let fields ← resolveFields settings declaration variant.fields.fields
    let others ← resolveVariants settings declaration rest
    return ⟨variant, fields⟩ :: others

def resolveBody (settings : Settings) (declaration : Declaration) : Except Fault ViewBody :=
  match declaration.body with
  | .record list => .record <$> resolveFields settings declaration list.fields
  | .union variants => .union <$> resolveVariants settings declaration variants

def resolve (settings : Settings) (declaration : Declaration) : Except Fault View := do
  let body ← resolveBody settings declaration
  return {
    declaration
    signature := declaration.signature
    viewName := settings.viewName declaration.name
    body
    clauses := addNew [] (body.fields.flatMap (·.clauses)) }

def firstClash? (taken : List String) : List View → Option (View × String)
  | [] => none
  | view :: rest =>
    if view.name ∈ taken then some (view, view.name)
    else if view.viewName ∈ view.name :: taken then some (view, view.viewName)
    else firstClash? (view.viewName :: view.name :: taken) rest

def resolveAll (settings : Settings) (declarations : List Declaration) :
    Except Fault (List View) := do
  let views ← declarations.mapM (resolve settings)
  match firstClash? [] views with
  | none => return views
  | some (view, name) => throw (.generation ⟨some view.name, none⟩ (.nameTaken name))

def replacements (declaration : Declaration) : List Field → List Event
  | [] => []
  | field :: rest =>
    match fieldSource declaration field with
    | .ok source =>
      .replacedSelf declaration.name field.label field.type.render source.render ::
        replacements declaration rest
    | .error _ => []

def resolution (settings : Settings) (declaration : Declaration) : List Event :=
  replacements declaration declaration.fields ++
    match resolve settings declaration with
    | .ok view =>
      (view.body.fields.map fun fieldView =>
        Event.viewedField declaration.name fieldView.label fieldView.describe) ++
        [.resolved view.signature.render view.clauses]
    | .error _ => []

/-- What resolving a unit reports, up to the first declaration that cannot be resolved. -/
def resolutions (settings : Settings) : List Declaration → List Event
  | [] => []
  | declaration :: rest =>
    resolution settings declaration ++
      if (resolve settings declaration).isOk then resolutions settings rest else []

end View

end CowView
