/-!
The strategies by which a field becomes a field of a view: a closed set, each with the tag that
annotations name it by.
-/

namespace CowView

/-- How a field is taken into a view: kept behind a copy-on-write pointer, copied, borrowed through
to its target, freed of its box, or viewed again by its own type. -/
inductive Strategy where
  | regular
  | copy
  | flatten
  | unbox
  | nested
  deriving DecidableEq, Repr

namespace Strategy

def all : List Strategy := [regular, copy, flatten, unbox, nested]

def tag : Strategy → String
  | regular => "regular"
  | copy => "copy"
  | flatten => "flatten"
  | unbox => "unbox"
  | nested => "rebutcher"

/-- The name of the class that generated code calls. -/
def method : Strategy → String
  | regular => "Regular"
  | copy => "Copy"
  | flatten => "Flatten"
  | unbox => "Unbox"
  | nested => "Rebutcher"

def summary : Strategy → String
  | regular => "Wraps the field in a Cow without copying it."
  | copy => "Moves the field when owned, clones it when borrowed."
  | flatten => "Borrows through the field to its deref target."
  | unbox => "Gets rid of the Box around the field."
  | nested => "Butchers the field again with its own generated view."

def ofTag? (tag : String) : Option Strategy := all.find? (·.tag = tag)

def describe (strategy : Strategy) : String :=
  "<StrategyDescriptor " ++ strategy.tag ++ " -> " ++ strategy.method ++ ">"

theorem ofTag?_tag (strategy : Strategy) : ofTag? strategy.tag = some strategy := by
  cases strategy <;> decide

end Strategy

end CowView
