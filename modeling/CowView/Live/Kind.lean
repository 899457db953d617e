import CowView.Strategy

/-!
Kinds of values. Every value is of one kind, and `Kind.ancestors` lists the kinds that it is an
instance of, the closest first. What a kind can do is looked up along that list.
-/

namespace CowView.Live

inductive Side where
  | source
  | view
  deriving DecidableEq, Repr

/-- The kinds of values. A generated kind is named by the place of its declaration: the unit, the
position in the unit, the side, and for a variant its position in the union. -/
inductive Kind where
  | object
  | absence
  | bool
  | int
  | text
  | bytes
  | list
  | tuple
  | dict
  | bytearray
  | array
  | window
  | type
  | function
  | method
  | builtin
  | descriptor
  | iterator
  | box
  | cow
  | owned
  | borrowed
  | scope
  | staticScope
  | cowIter
  | viewable
  | view
  | tagged
  | handle
  | subHandle
  | convert
  | target
  | odd
  | counter
  | strategy (strategy : Option Strategy)
  | record (unit position : Nat) (side : Side)
  | union (unit position : Nat) (side : Side)
  | variant (unit position : Nat) (side : Side) (index : Nat)
  deriving DecidableEq, Repr

namespace Kind

def ofSide : Side → Kind
  | .source => viewable
  | .view => view

def ancestors : Kind → List Kind
  | object => [object]
  | bool => [bool, int, object]
  | owned => [owned, cow, object]
  | borrowed => [borrowed, cow, object]
  | staticScope => [staticScope, scope, object]
  | subHandle => [subHandle, handle, object]
  | convert => [convert, handle, object]
  | odd => [odd, handle, object]
  | strategy (some chosen) => [strategy (some chosen), strategy none, object]
  | record unit position side => [record unit position side, ofSide side, object]
  | union unit position side => [union unit position side, ofSide side, tagged, object]
  | variant unit position side index =>
    [variant unit position side index, union unit position side, ofSide side, tagged, object]
  | other => [other, object]

/-- Is every instance of the first kind one of the second? -/
def isA (kind other : Kind) : Bool := other ∈ kind.ancestors

def fixedName : Kind → String
  | object => "object"
  | absence => "NoneType"
  | bool => "bool"
  | int => "int"
  | text => "str"
  | bytes => "bytes"
  | list => "list"
  | tuple => "tuple"
  | dict => "dict"
  | bytearray => "bytearray"
  | array => "array"
  | window => "memoryview"
  | type => "type"
  | function => "function"
  | method => "method"
  | builtin => "builtin_function_or_method"
  | descriptor => "property"
  | iterator => "iterator"
  | box => "Box"
  | cow => "Cow"
  | owned => "Owned"
  | borrowed => "Borrowed"
  | scope => "Scope"
  | staticScope => "StaticScope"
  | cowIter => "CowIter"
  | viewable => "Butcher"
  | view => "View"
  | tagged => "Sum"
  | handle => "Handle"
  | subHandle => "SubHandle"
  | convert => "Convert"
  | target => "Target"
  | odd => "Odd"
  | counter => "Counter"
  | strategy (some chosen) => chosen.method
  | strategy none => "ButcheringMethod"
  | record .. | union .. | variant .. => ""

/-- What listings put in front of the name of a kind that no unit declares. -/
def home : Kind → String
  | box => "butcher.runtime.ownership."
  | cow | owned | borrowed | scope | staticScope => "butcher.runtime.cow."
  | cowIter => "butcher.runtime.iterator."
  | viewable | view | tagged => "butcher.runtime.core."
  | strategy _ => "butcher.runtime.methods."
  | array => "array."
  | _ => ""

def named : List Kind :=
  [object, absence, bool, int, text, bytes, list, tuple, dict, bytearray, window, box, cow, owned,
    borrowed, scope, viewable, view, tagged, handle, subHandle, convert, target, odd, counter]

def ofName? (name : String) : Option Kind :=
  if name = "None" then some absence else named.find? (·.fixedName = name)

def fixedDocs? : Kind → Option String
  | viewable => some ("\n    Capability of types that can be destructured out of a Cow.\n\n" ++
      "    butcher(this) takes an Owned or Borrowed instance and returns the view,\n" ++
      "    unbutcher(view) rebuilds an owned instance out of a view.\n    ")
  | view => some " Base of generated view types. "
  | tagged => some " Tagged unions, source and view alike. "
  | box => some
      "\n    A single slot indirection.  Mostly seen around self referencing fields.\n    "
  | scope => some ("\n    The duration for which a borrow is valid.  Borrowed values bound to a\n" ++
      "    closed scope refuse to hand out their referent.\n    ")
  | _ => none

end Kind

end CowView.Live
