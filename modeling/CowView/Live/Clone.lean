import CowView.Live.Store

/-!
Clones. A clone keeps the shape of what is cloned: values that hold the same object hold the same copy
of it, also around a cycle. What cannot change is its own clone.
-/

namespace CowView.Live

abbrev Copies := List (Address × Value)

abbrev Copying := StateT Copies Run

namespace Copying

def record (address : Address) (copy : Value) : Copying Value := do
  modify fun copies => (address, copy) :: copies
  return copy

/-- Copies an object that holds other values: an empty copy is recorded first, so that what it holds
can refer back to it, and filled in by what the copier of values makes of them. -/
def fill (address : Address) (empty : Object) (content : Copying Object) : Copying Value := do
  let fresh ← record address (← create empty)
  let filled ← content
  write fresh filled
  return fresh

def tuple (copy : Value → Copying Value) (address : Address) (items : List Value) :
    Copying Value := do
  let copies ← items.mapM copy
  match (← get).lookup address with
  | some earlier => return earlier
  | none =>
    if copies = items then return .object address
    else record address (← create (.tuple copies))

/-- Copies the object at a place. A window cannot be copied, and a counter counts. -/
def object (copy : Value → Copying Value) (address : Address) : Object → Copying Value
  | .list items => fill address (.list []) do return .list (← items.mapM copy)
  | .tuple items => tuple copy address items
  | .dict entries => fill address (.dict []) do
      return .dict (← entries.mapM fun (key, value) => do
        let value ← copy value
        return (← copy key, value))
  | .window .. => misuse .wrongType
  | .box content => fill address (.box .none) do return .box (← copy content)
  | .owned value => fill address (.owned .none) do return .owned (← copy value)
  | .borrowed referent scope => fill address (.borrowed .none .none) do
      return .borrowed (← copy referent) (← copy scope)
  | .iterator base position size => do
    let base ← copy base
    record address (← create (.iterator base position size))
  | .cowIter elements scope => fill address (.cowIter .none .none) do
      return .cowIter (← copy elements) (← copy scope)
  | .entity .counter attributes => do
    modifyThe Store fun store => { store with clones := store.clones + 1 }
    record address (← create (.entity .counter attributes))
  | .entity kind attributes => fill address (.entity kind []) do
      return .entity kind (← attributes.mapM fun (slot, value) => return (slot, ← copy value))
  | .bytearray content => do record address (← create (.bytearray content))
  | .array content => do record address (← create (.array content))
  | .cow => do record address (← create .cow)
  | .scope name isOpen isStatic => do record address (← create (.scope name isOpen isStatic))

/-- Copies a value, within so many steps. What is copied was there at the start, and has not changed since. -/
def value (start : Store) : Nat → Value → Copying Value
  | 0, _ => misuse .tooDeep
  | steps + 1, source => do
    match source with
    | .object address =>
      match (← get).lookup address with
      | some copy => return copy
      | none =>
        match start.object? source with
        | some found => object (value start steps) address found
        | none => misuse .noMember
    | _ => return source

end Copying

/-- The clone of a value. A path through what is copied meets each object at most twice. -/
def clone (value : Value) : Run Value := do
  return (← (Copying.value (← get) (2 * (← depth)) value).run []).1

end CowView.Live
