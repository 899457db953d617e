import CowView.Live.Value
import CowView.View

/-!
Loaded units. Each declaration of a unit gives a kind of values and a kind of views, and a union one
more of each for every variant. Names are those of the compiled text, except that variants keep the names
they are declared with.
-/

namespace CowView

def View.nameOn (view : View) : Live.Side → String
  | .source => Text.identifier view.name
  | .view => Text.identifier view.viewName

def View.kindAt (view : View) (unit position : Nat) (side : Live.Side) : Live.Kind :=
  match view.body with
  | .record _ => .record unit position side
  | .union _ => .union unit position side

/-- The classes of a declaration at a place under their names, in the order in which they are bound. -/
def View.classes (view : View) (unit position : Nat) : List (String × Live.Kind) :=
  let variantsOn := fun (side : Live.Side) (nameOf : VariantView → String) =>
    view.body.variants.zipIdx.map fun (variant, index) =>
      (Text.identifier (nameOf variant), Live.Kind.variant unit position side index)
  (view.nameOn .source, view.kindAt unit position .source) :: variantsOn .source view.variantClass ++
    (view.nameOn .view, view.kindAt unit position .view) :: variantsOn .view view.variantViewClass

def FieldView.typeOn (field : FieldView) : Live.Side → TypeExpr
  | .source => field.source
  | .view => field.view

namespace Live

/-- A loaded declaration. The functions between its two sides are the generated ones, unless two other
values stand in their place. -/
structure Loaded where
  view : View
  inPlace : Option (Value × Value)
  deriving DecidableEq

structure LoadedUnit where
  name : String
  declarations : List Loaded
  deriving DecidableEq

abbrev Units := List LoadedUnit

namespace Units

def loaded? (units : Units) (unit position : Nat) : Option Loaded :=
  units[unit]?.bind fun found => found.declarations[position]?

def variant? (units : Units) (unit position index : Nat) : Option VariantView :=
  (units.loaded? unit position).bind fun loaded => loaded.view.body.variants[index]?

def kindName (units : Units) : Kind → String
  | .record unit position side | .union unit position side =>
    ((units.loaded? unit position).map (·.view.nameOn side)).getD ""
  | .variant unit position _ index =>
    ((units.variant? unit position index).map (·.variant.name)).getD ""
  | kind => kind.fixedName

def qualifiedName (units : Units) : Kind → String
  | .variant unit position side index =>
    units.kindName (.union unit position side) ++ "." ++
      units.kindName (.variant unit position side index)
  | kind => units.kindName kind

def fields (units : Units) : Kind → List FieldView
  | .record unit position _ => ((units.loaded? unit position).map (·.view.body.fields)).getD []
  | .variant unit position _ index => ((units.variant? unit position index).map (·.fields)).getD []
  | _ => []

def slots (units : Units) (kind : Kind) : List String := (units.fields kind).map (·.slot)

def classNamed? (units : Units) (unit : Nat) (name : String) : Option Kind :=
  units[unit]?.bind fun found =>
    (found.declarations.zipIdx.flatMap fun (loaded, position) =>
      loaded.view.classes unit position).reverse.lookup name

end Units

end Live

end CowView
