import CowView.Text.Join

/-!
The version of the program.
-/

namespace CowView.Version

def current : List Int := [0, 1, 0]

def text (parts : List Int) : String :=
  Text.join "." ((if parts.isEmpty then current else parts).map toString)

end CowView.Version
