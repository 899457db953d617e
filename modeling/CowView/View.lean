import CowView.Declaration
import CowView.DocComment
import CowView.Text.Normal

/-!
Resolved declarations: everything that is needed to write down a declaration, its view type, and the
two functions between them.
-/

namespace CowView

/-- A field with its type, `Self` being replaced, the type of the field of the view, and the bound
clauses it needs. -/
structure FieldView where
  field : Field
  source : TypeExpr
  view : TypeExpr
  clauses : List String
  deriving DecidableEq

namespace FieldView

/-- The attribute of the compiled text, where names are in their normal form. -/
def slot (fieldView : FieldView) : String := Text.identifier fieldView.field.slot

def label (fieldView : FieldView) : String := fieldView.field.label

def describe (fieldView : FieldView) : String :=
  "<FieldViewModel " ++ fieldView.label ++ ": " ++ fieldView.source.render ++ " -> " ++
    fieldView.view.render ++ " (" ++ fieldView.field.strategy.tag ++ ")>"

end FieldView

structure VariantView where
  variant : Variant
  fields : List FieldView
  deriving DecidableEq

inductive ViewBody where
  | record (fields : List FieldView)
  | union (variants : List VariantView)
  deriving DecidableEq

def ViewBody.fields : ViewBody → List FieldView
  | record fields => fields
  | union variants => variants.flatMap (·.fields)

def ViewBody.variants : ViewBody → List VariantView
  | record _ => []
  | union variants => variants

structure View where
  declaration : Declaration
  signature : TypeExpr
  viewName : String
  body : ViewBody
  clauses : List String
  deriving DecidableEq

namespace View

def name (view : View) : String := view.declaration.name

def docLines (view : View) : List String := DocComment.lines view.declaration.docs

/-- The type variables of the generated module. The name of the declaration keeps them apart from
those of other declarations. -/
def typeVariables (view : View) : List String :=
  view.declaration.typeParameters.map fun parameter =>
    "_" ++ view.name ++ "__" ++ parameter.name

/-- The names that the generated module offers. -/
def publicNames (view : View) : List String := [view.name, view.viewName]

def variantClass (view : View) (variant : VariantView) : String :=
  "_" ++ view.name ++ "_" ++ variant.variant.name

def variantViewClass (view : View) (variant : VariantView) : String :=
  "_" ++ view.viewName ++ "_" ++ variant.variant.name

def describe (view : View) : String :=
  "<DeclarationViewModel " ++ view.signature.render ++ " -> " ++ view.viewName ++ ">"

/-- The names of the classes of the declaration, in the order in which the generated module binds them:
the classes of the variants come after the class of their union. -/
def classNames (view : View) : List String :=
  view.name :: (view.body.variants.map view.variantClass ++
    view.viewName :: view.body.variants.map view.variantViewClass)

/-- Every name that the text of the declaration is bound to, as it is written. -/
def definedNames (view : View) : List String := view.typeVariables ++ view.classNames

/-- Every name that the generated module binds for the declaration. -/
def boundNames (view : View) : List String := view.definedNames.map Text.identifier

end View

end CowView
