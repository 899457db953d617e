import CowView.Live.Kind

/-!
Values and objects. A value that can change, or that can hold values, is an object of the store, and
`Value.object` refers to it; all other values stand for themselves. Two values are the same one exactly
when they are equal as terms.
-/

namespace CowView.Live

/-- The three forms of copy-on-write pointers. The base form stands for no value. -/
inductive CowForm where
  | base
  | owned
  | borrowed
  deriving DecidableEq, Repr

/-- What can be asked of a copy-on-write pointer: the value it stands for, an owned value, or an owning
pointer. -/
inductive CowRequest where
  | get
  | intoOwned
  | owned
  deriving DecidableEq, Repr

/-- The methods of objects. Those that belong to a kind take the kind as their receiver. -/
inductive Method where
  | cow (form : CowForm) (request : CowRequest)
  | check
  | close
  | stayOpen
  | refuseParts
  | takeApart
  | putTogether
  | rebuild
  | content
  | contentList
  | iterate
  | itself
  | advance
  | append
  | copyBytes
  | find
  | lineage
  deriving DecidableEq, Repr

def Method.isBuiltin : Method → Bool
  | append | copyBytes | find | lineage => true
  | _ => false

inductive Passage where
  | fromOwned
  | fromBorrowed
  | toOwned
  deriving DecidableEq, Repr

/-- The functions that take all their arguments at once. A method is one of them, its receiver being
the first argument. -/
inductive Function where
  | unnest
  | asDeref
  | cowIter
  | clone
  | toOwned
  | deref
  | intoTarget
  | isFlattenable
  | isViewable
  | kindOf
  | strategy (strategy : Option Strategy) (passage : Passage)
  | method (method : Method)
  deriving DecidableEq, Repr

abbrev Address := Nat

/-- Values. A `bound` method remembers its receiver, and a `descriptor` is what a kind shows of a member
that only its instances have. -/
inductive Value where
  | none
  | bool (value : Bool)
  | int (value : Int)
  | text (value : String)
  | bytes (content : List UInt8)
  | kind (kind : Kind)
  | function (function : Function)
  | bound (receiver : Value) (method : Method)
  | descriptor
  | object (address : Address)
  deriving DecidableEq, Repr

def Value.number? : Value → Option Int
  | .bool value => some (if value then 1 else 0)
  | .int value => some value
  | _ => .none

def Value.isCallable : Value → Bool
  | .kind _ | .function _ | .bound .. => true
  | _ => false

/-- Objects. A `window` shows a part of the bytes of a value, an `iterator` knows the value it goes
through, its position and the size that the value had at the start; the position is absent after the
end. An `entity` has attributes, in the order in which they were set. -/
inductive Object where
  | list (items : List Value)
  | tuple (items : List Value)
  | dict (entries : List (Value × Value))
  | bytearray (content : List UInt8)
  | array (content : List UInt8)
  | window (base : Value) (start length : Nat)
  | box (content : Value)
  | cow
  | owned (value : Value)
  | borrowed (referent scope : Value)
  | scope (name : String) (isOpen isStatic : Bool)
  | iterator (base : Value) (position : Option Nat) (size : Nat)
  | cowIter (elements scope : Value)
  | entity (kind : Kind) (attributes : List (String × Value))
  deriving DecidableEq, Repr

def Object.kind : Object → Kind
  | list _ => .list
  | tuple _ => .tuple
  | dict _ => .dict
  | bytearray _ => .bytearray
  | array _ => .array
  | window .. => .window
  | box _ => .box
  | cow => .cow
  | owned _ => .owned
  | borrowed .. => .borrowed
  | scope _ _ isStatic => if isStatic then .staticScope else .scope
  | iterator .. => .iterator
  | cowIter .. => .cowIter
  | entity kind _ => kind

def Object.parts : Object → List Value
  | list items | tuple items => items
  | dict entries => entries.flatMap fun entry => [entry.1, entry.2]
  | window base _ _ | iterator base _ _ => [base]
  | box content | owned content => [content]
  | borrowed first second | cowIter first second => [first, second]
  | entity _ attributes => attributes.map (·.2)
  | bytearray _ | array _ | cow | scope .. => []

/-- The place that a value refers to. A bound method refers to its receiver. -/
def Value.address? : Value → Option Address
  | .object address => some address
  | .bound receiver _ => receiver.address?
  | _ => Option.none

/-- Changes the value of a name where it stands, or puts a new name at the end. -/
def setEntry {α β : Type} [DecidableEq α] (entries : List (α × β)) (name : α) (value : β) :
    List (α × β) :=
  match entries with
  | [] => [(name, value)]
  | entry :: rest =>
    if entry.1 = name then (name, value) :: rest else entry :: setEntry rest name value

end CowView.Live
