import CowView.Live.Failure
import CowView.Live.Loaded

/-!
The store that holds all objects, and the runs that work on it. A run that fails keeps what it did to
the store until then.
-/

namespace CowView.Live

inductive Conversion where
  | identity
  | wrapInList
  | upper
  | content
  | first
  | negate
  | length
  | toList
  | window
  | viewed
  deriving DecidableEq, Repr

/-- The objects, the loaded units, the number of scopes that were given a number for a name, the number
of counted clones, and the conversions registered for kinds, the latest first: to an owned value, and
to what a value borrows through to with the conversion of an owned value into that. -/
structure Store where
  objects : Array Object
  units : Units
  numbered : Nat
  clones : Nat
  owners : List (Kind × Conversion)
  targets : List (Kind × Conversion × Option Conversion)
  deriving DecidableEq

def staticScope : Address := 0

def Store.initial : Store where
  objects := #[.scope "static" true true]
  units := []
  numbered := 0
  clones := 0
  owners := [(.window, .viewed)]
  targets := [(.bytes, .window, none), (.bytearray, .window, none), (.text, .identity, none),
    (.box, .content, some .content)]

/-- Runs that change the store and give a result, or fail. -/
abbrev Run := EStateM Failure Store

def misuse {α : Type} (problem : Misuse) : Run α := throw (.misuse problem)

def Store.object? (store : Store) : Value → Option Object
  | .object address => store.objects[address]?
  | _ => none

def object? (value : Value) : Run (Option Object) := return (← get).object? value

def create (object : Object) : Run Value := do
  let store ← get
  set { store with objects := store.objects.push object }
  return .object store.objects.size

def write (value : Value) (object : Object) : Run Unit :=
  match value with
  | .object address => modify fun store =>
      { store with objects := store.objects.setIfInBounds address object }
  | _ => return

/-- A bound that no path through distinct objects reaches. -/
def depth : Run Nat := return (← get).objects.size + 8

def Store.kindOf (store : Store) : Value → Kind
  | .none => .absence
  | .bool _ => .bool
  | .int _ => .int
  | .text _ => .text
  | .bytes _ => .bytes
  | .kind _ => .type
  | .function _ => .function
  | .bound _ method => if method.isBuiltin then .builtin else .method
  | .descriptor => .descriptor
  | .object address => (store.objects[address]?.map Object.kind).getD .object

def kindOf (value : Value) : Run Kind := return (← get).kindOf value

/-- Fails because a value lacks a capability. -/
def unsatisfied {α : Type} (value : Value) (capability : String) : Run α := do
  throw (.unsatisfied ((← get).units.kindName (← kindOf value)) capability)

def openScope (name : Option String) : Run Value := do
  match name.filter (· ≠ "") with
  | some name => create (.scope name true false)
  | none =>
    let store ← get
    set { store with numbered := store.numbered + 1 }
    create (.scope ("scope-" ++ toString (store.numbered + 1)) true false)

def Store.buffer? (store : Store) (value : Value) : Option (List UInt8) :=
  let direct? : Value → Option (List UInt8)
    | .bytes content => some content
    | other => match store.object? other with
      | some (.bytearray content) | some (.array content) => some content
      | _ => none
  match store.object? value with
  | some (.window base start length) =>
    (direct? base).map fun content => (content.drop start).take length
  | _ => direct? value

def Store.reachable (store : Store) (roots : List Address) : Nat → List Address
  | 0 => roots
  | steps + 1 =>
    let found := store.reachable roots steps
    let parts := found.flatMap fun address => (store.objects[address]?.map (·.parts)).getD []
    (found ++ parts.filterMap (·.address?)).eraseDups

def Store.isExported (store : Store) (roots : List Value) (base : Value) : Bool :=
  (store.reachable (roots.filterMap (·.address?)) store.objects.size).any fun address =>
    match store.objects[address]? with
    | some (.window shown ..) => shown = base
    | _ => false

/-- Are two values equal that are no collections, pointers or instances? Bytes and arrays are not
compared with each other, but either is with bytes that can change and with windows. -/
def Store.plainEqual (store : Store) (left right : Value) : Bool :=
  match left.number?, right.number? with
  | some left, some right => left = right
  | _, _ =>
    match store.buffer? left, store.buffer? right with
    | some contentLeft, some contentRight =>
      let kinds := [store.kindOf left, store.kindOf right]
      contentLeft = contentRight && !(kinds.contains .bytes && kinds.contains .array)
    | _, _ => left = right

def Store.isTrue (store : Store) (value : Value) : Bool :=
  match value with
  | .none => false
  | .bool value => value
  | .int value => value ≠ 0
  | .text value => value ≠ ""
  | _ => match store.object? value with
    | some (.list items) | some (.tuple items) => !items.isEmpty
    | some (.dict entries) => !entries.isEmpty
    | _ => (store.buffer? value).all (!·.isEmpty)

end CowView.Live
