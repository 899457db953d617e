import CowView.Live.Cow

/-!
The passages of the strategies: how a field of a view is made of the field of an owned value or of a
borrowed one, and how the field of the value is made of that of the view.
-/

namespace CowView.Live

def isViewable (value : Value) : Run Bool := do
  let kind ← match value with
    | .kind kind => pure (Value.kind kind)
    | _ => pure (Value.kind (← kindOf value))
  return (← callable? kind "butcher").isSome && (← callable? kind "unbutcher").isSome

/-- Fails unless a value is the owned form of what it borrows through to. -/
def requireFlattenable (value : Value) : Run Unit := do
  unless ← isFlattenable value do
    unsatisfied value "Flatten"

def unboxed (value : Value) : Run Value := do
  match ← object? value with
  | some (.box content) => return content
  | _ => unsatisfied value "Box"

def nestedView (call : Call) (value : Value) (pointer : Run Value) : Run Value := do
  unless ← isViewable value do
    unsatisfied value "Butcher"
  let maker ← member (.kind (← kindOf value)) "butcher"
  call.on maker [← pointer]

def viewOwned (call : Call) (strategy : Strategy) (value : Value) : Run Value := do
  match strategy with
  | .regular => create (.owned value)
  | .copy => return value
  | .flatten =>
    requireFlattenable value
    asDeref call (← create (.owned value))
  | .unbox => create (.owned (← unboxed value))
  | .nested => nestedView call value (create (.owned value))

def viewBorrowed (call : Call) (strategy : Strategy) (value scope : Value) : Run Value := do
  match strategy with
  | .regular => createBorrowed value scope
  | .copy => clone value
  | .flatten =>
    requireFlattenable value
    asDeref call (← createBorrowed value scope)
  | .unbox => createBorrowed (← unboxed value) scope
  | .nested => nestedView call value (createBorrowed value scope)

def giveBack (call : Call) (strategy : Strategy) (output : Value) : Run Value := do
  match strategy with
  | .regular | .flatten => ask call output "into_owned"
  | .copy => return output
  | .unbox => create (.box (← ask call output "into_owned"))
  | .nested =>
    match ← callable? output "unbutcher" with
    | some maker => call.on maker []
    | none => unsatisfied output "Unbutcher"

end CowView.Live
