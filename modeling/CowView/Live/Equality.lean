import CowView.Live.Sequence

/-!
Equality of values. Numbers, texts and bytes are equal by content, whatever holds them; collections
item by item; pointers by what they stand for; instances of a declared kind by their fields. An item is
not looked into when both sides hold the same object.
-/

namespace CowView.Live

/-- The value that a copy-on-write pointer stands for. A borrowed value is handed out while its scope is
open. -/
def standsFor (object : Object) : Run Value :=
  match object with
  | .owned value => return value
  | .borrowed referent scope => do
    checkScope scope
    return referent
  | .cow => misuse .notImplemented
  | _ => misuse .noMember

def Object.isCow : Object → Bool
  | .cow | .owned _ | .borrowed .. => true
  | _ => false

def itemsEqual (equal : Value → Value → Run Bool) : List Value → List Value → Run Bool
  | left :: lefts, right :: rights => do
    if left = right then itemsEqual equal lefts rights
    else if ← equal left right then itemsEqual equal lefts rights
    else return false
  | [], [] => return true
  | _, _ => return false

def entriesEqual (equal : Value → Value → Run Bool) (others : List (Value × Value)) :
    List (Value × Value) → Run Bool
  | [] => return true
  | (key, value) :: rest => do
    match (← get).valueAt? others key with
    | none => return false
    | some other =>
      if value = other then entriesEqual equal others rest
      else if ← equal value other then entriesEqual equal others rest
      else return false

def attributeValues (slots : List String) (attributes : List (String × Value)) : List Value :=
  slots.map fun slot => (attributes.lookup slot).getD .none

def equalWithin : Nat → Value → Value → Run Bool
  | 0, _, _ => misuse .tooDeep
  | steps + 1, left, right => do
    let store ← get
    match store.object? left, store.object? right with
    | some (.list lefts), some (.list rights) =>
      if lefts.length = rights.length then itemsEqual (equalWithin steps) lefts rights
      else return false
    | some (.tuple lefts), some (.tuple rights) => itemsEqual (equalWithin steps) lefts rights
    | some (.dict lefts), some (.dict rights) =>
      if lefts.length = rights.length then entriesEqual (equalWithin steps) rights lefts
      else return false
    | some (.box left), some (.box right) => equalWithin steps left right
    | some (.entity kindLeft attributesLeft), some (.entity kindRight attributesRight) =>
      if kindLeft ≠ kindRight then return false
      else
        match kindLeft with
        | .record .. | .variant .. =>
          let slots := store.units.slots kindLeft
          itemsEqual (equalWithin steps) (attributeValues slots attributesLeft)
            (attributeValues slots attributesRight)
        | .handle | .subHandle | .convert | .odd | .counter =>
          equalWithin steps ((attributesLeft.lookup "value").getD .none)
            ((attributesRight.lookup "value").getD .none)
        | _ => return left = right
    | some .cow, some right =>
      if right.isCow then
        let _ ← standsFor right
        misuse .notImplemented
      else return false
    | some objectLeft, some objectRight =>
      if objectLeft.isCow && objectRight.isCow then
        let left ← standsFor objectLeft
        let right ← standsFor objectRight
        equalWithin steps left right
      else return store.plainEqual left right
    | _, _ => return store.plainEqual left right

def equal (left right : Value) : Run Bool := do
  equalWithin (← depth) left right

end CowView.Live
