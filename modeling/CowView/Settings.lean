import CowView.TypeExpr

/-!
The settings of a generation run.
-/

namespace CowView

/-- What names a view type after its source, and the lifetime that view types are written with. A prefix
from a command line may hold bytes that stand for no character. -/
structure Settings where
  viewPrefix : String
  lifetime : Lifetime
  isEncodable : Bool
  deriving DecidableEq, Repr

namespace Settings

def default : Settings := ⟨"Butchered", ⟨"cow"⟩, true⟩

def ofOptions (viewPrefix lifetime : Option String) : Settings :=
  ⟨(viewPrefix.filter (· ≠ "")).getD default.viewPrefix,
    ((lifetime.filter (· ≠ "")).map Lifetime.ofText).getD default.lifetime, true⟩

def viewName (settings : Settings) (name : String) : String := settings.viewPrefix ++ name

end Settings

end CowView
