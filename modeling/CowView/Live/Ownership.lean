import CowView.Live.Clone
import CowView.Live.Member
import CowView.Text.Case

/-!
Ownership. Conversions registered for a kind give the owned form of its values, and what they borrow
through to; without one, an owned form is a clone, and a value borrows through by a method of its own.

A function that calls what a member holds is given the way to call it.
-/

namespace CowView.Live

structure Arguments where
  inOrder : List Value
  byName : List (String × Value) := []

abbrev Call := Value → Arguments → Run Value

def Call.on (call : Call) (callee : Value) (arguments : List Value) : Run Value :=
  call callee ⟨arguments, []⟩

def ownedFromWindow (window : Value) : Run Value := do
  let store ← get
  match store.object? window, store.buffer? window with
  | some (.window base _ _), some content =>
    if store.kindOf base = .bytearray then create (.bytearray content) else return .bytes content
  | _, _ => misuse .noMember

def upperByte (byte : UInt8) : UInt8 :=
  if 97 ≤ byte ∧ byte ≤ 122 then byte - 32 else byte

def Conversion.apply (conversion : Conversion) (value : Value) : Run Value := do
  match conversion with
  | .identity => return value
  | .wrapInList => create (.list [value])
  | .upper =>
    match value, ← object? value with
    | .text letters, _ => return .text (Text.upper letters)
    | .bytes held, _ => return .bytes (held.map upperByte)
    | _, some (.bytearray held) => create (.bytearray (held.map upperByte))
    | _, _ => misuse .noMember
  | .content => member value "value"
  | .first => item value (.int 0)
  | .negate =>
    match value.number? with
    | some number => return .int (-number)
    | none => misuse .wrongType
  | .length =>
    match (← get).elements? value with
    | some items => return .int items.length
    | none => misuse .wrongType
  | .toList => create (.list (← collect value))
  | .window => createWindow value
  | .viewed => ownedFromWindow value

def registerOwner (kind : Kind) (conversion : Conversion) : Run Unit :=
  modify fun store => { store with owners := (kind, conversion) :: store.owners }

/-- Registers what the values of a kind borrow through to, and how an owned value becomes the owned
form of that; without a conversion it is that already. -/
def registerTarget (kind : Kind) (conversion : Conversion) (into? : Option Conversion) : Run Unit :=
  modify fun store => { store with targets := (kind, conversion, into?) :: store.targets }

def Store.owner? (store : Store) (value : Value) : Option Conversion :=
  (store.kindOf value).ancestors.findSome? (store.owners.lookup ·)

def Store.target? (store : Store) (value : Value) : Option (Conversion × Option Conversion) :=
  (store.kindOf value).ancestors.findSome? (store.targets.lookup ·)

def toOwned (value : Value) : Run Value := do
  match (← get).owner? value with
  | some conversion => conversion.apply value
  | none => clone value

def deref (call : Call) (value : Value) : Run Value := do
  match (← get).target? value with
  | some (conversion, _) => conversion.apply value
  | none =>
    match ← callable? value "deref" with
    | some found => call.on found []
    | none => unsatisfied value "Deref"

/-- The owned form of what an owned value borrows through to. -/
def intoTarget (call : Call) (value : Value) : Run Value := do
  match (← get).target? value with
  | some (_, some conversion) => conversion.apply value
  | some (_, none) => return value
  | none =>
    match ← callable? value "into_target" with
    | some found => call.on found []
    | none =>
      if (← callable? value "deref").isSome then return value else unsatisfied value "Deref"

/-- Is the owned form of what a value borrows through to the value itself? -/
def isFlattenable (value : Value) : Run Bool := do
  match (← get).target? value with
  | some (_, into?) => return into?.isNone
  | none =>
    return (← callable? value "deref").isSome && (← callable? value "into_target").isNone

end CowView.Live
