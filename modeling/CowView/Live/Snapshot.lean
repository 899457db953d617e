import CowView.Live.Describe

/-!
Snapshots: what a value looks like at a moment, as a finite tree. An object inside itself is cut off.
-/

namespace CowView.Live

/-- A snapshot of a value. What a pointer borrows is seen while its scope is open, and `outer` stands
for the object so many levels up. -/
inductive Snapshot where
  | plain (value : Value)
  | kind (name : String)
  | other (kindName : String)
  | outer (levels : Nat)
  | content (kind : Kind) (bytes : List UInt8)
  | window (bytes : List UInt8) (baseName : String)
  | collection (kind : Kind) (items : List Snapshot)
  | entries (entries : List (Snapshot × Snapshot))
  | holder (kind : Kind) (held : Snapshot)
  | borrowed (referent : Option Snapshot) (scope : String) (isOpen : Bool)
  | scope (name : String) (isOpen : Bool)
  | cowIter (isOwned : Bool)
  | fields (kindName : String) (fields : List (String × Snapshot))

def Kind.isHolder : Kind → Bool
  | .handle | .subHandle | .convert | .target | .odd | .counter => true
  | _ => false

def snapshotObject (look : Value → Run Snapshot) (value : Value) : Object → Run Snapshot
  | .list items => return .collection .list (← items.mapM look)
  | .tuple items => return .collection .tuple (← items.mapM look)
  | .dict entries => return .entries (← entries.mapM fun (key, held) => do
      return (← look key, ← look held))
  | .bytearray bytes => return .content .bytearray bytes
  | .array bytes => return .content .array bytes
  | .window base _ _ => do
    let store ← get
    return .window ((store.buffer? value).getD []) (store.units.kindName (store.kindOf base))
  | .box held => return .holder .box (← look held)
  | .owned held => return .holder .owned (← look held)
  | .borrowed referent scope => do
    match ← object? scope with
    | some (.scope name true _) => return .borrowed (← look referent) name true
    | some (.scope name false _) => return .borrowed none name false
    | _ => misuse .noMember
  | .scope name isOpen _ => return .scope name isOpen
  | .cowIter _ scope => return .cowIter (scope = .none)
  | .entity kind attributes => do
    let units := (← get).units
    let heldBy := fun (slot : String) => look ((attributes.lookup slot).getD .none)
    match kind with
    | .record .. | .variant .. =>
      return .fields (units.qualifiedName kind) (← (units.slots kind).mapM fun slot => do
        return (slot, ← heldBy slot))
    | _ =>
      if kind.isHolder then return .holder kind (← heldBy "value")
      else return .other (units.qualifiedName kind)
  | object => return .other object.kind.fixedName

/-- A snapshot of a value, within so many steps; the values that it is inside of are given, the closest
first. -/
def snapshotWithin : Nat → List Value → Value → Run Snapshot
  | 0, _, _ => misuse .tooDeep
  | steps + 1, outer, value => do
    let store ← get
    match value with
    | .none | .bool _ | .int _ | .text _ | .bytes _ => return .plain value
    | .kind kind => return .kind (store.units.qualifiedName kind)
    | .function _ | .bound .. | .descriptor => return .other (store.kindOf value).fixedName
    | .object _ =>
      match outer.findIdx? (· = value), store.object? value with
      | some levels, _ => return .outer (levels + 1)
      | none, some object => snapshotObject (snapshotWithin steps (value :: outer)) value object
      | none, none => return .plain .none

def snapshot (value : Value) : Run Snapshot := do
  snapshotWithin (← depth) [] value

end CowView.Live
