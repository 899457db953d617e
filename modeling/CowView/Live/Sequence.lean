import CowView.Live.Store

/-!
Values that consist of others: reading and changing their items, and going through them one by one.
-/

namespace CowView.Live

/-- The values that a value consists of. A text consists of texts of one character, bytes of numbers,
a dictionary of its keys. -/
def Store.elements? (store : Store) (value : Value) : Option (List Value) :=
  match value with
  | .text content => some (content.toList.map fun character => .text character.toString)
  | _ => match store.object? value with
    | some (.list items) | some (.tuple items) => some items
    | some (.dict entries) => some (entries.map (·.1))
    | _ => (store.buffer? value).map fun content => content.map fun byte => .int byte.toNat

def checkScope (scope : Value) : Run Unit := do
  match ← object? scope with
  | some (.scope name isOpen _) => if isOpen then return else throw (.expired name)
  | _ => misuse .noMember

/-! ### Going through a value -/

def iterate (value : Value) : Run Value := do
  let store ← get
  match store.elements? value with
  | some items => create (.iterator value (some 0) items.length)
  | none => match store.object? value with
    | some (.iterator ..) | some (.cowIter ..) => return value
    | _ => misuse .wrongType

/-- The next value of an iterator, within so many steps. An iterator of pointers wraps the next value
of the one below; after the end an iterator gives nothing more. -/
def advanceWithin : Nat → Value → Run (Option Value)
  | 0, _ => misuse .tooDeep
  | steps + 1, value => do
    let store ← get
    match store.object? value with
    | some (.iterator base (some position) size) =>
      let items := (store.elements? base).getD []
      if store.kindOf base = .dict ∧ items.length ≠ size then misuse .changed
      else
        match items[position]? with
        | some item =>
          write value (.iterator base (some (position + 1)) size)
          return some item
        | none =>
          write value (.iterator base none size)
          return none
    | some (.iterator _ none _) => return none
    | some (.cowIter elements scope) =>
      match ← advanceWithin steps elements with
      | none => return none
      | some element =>
        match scope with
        | .none => return some (← create (.owned element))
        | scope =>
          checkScope scope
          return some (← create (.borrowed element scope))
    | _ => misuse .wrongType

def advance? (value : Value) : Run (Option Value) := do
  advanceWithin (← depth) value

def advance (value : Value) : Run Value := do
  match ← advance? value with
  | some element => return element
  | none => misuse .exhausted

def Store.pending (store : Store) : Nat → Value → Nat
  | 0, _ => 0
  | steps + 1, value => match store.object? value with
    | some (.iterator base (some position) _) =>
      ((store.elements? base).map List.length).getD 0 - position
    | some (.cowIter elements _) => store.pending steps elements
    | _ => 0

def drainWithin : Nat → Value → Run (List Value)
  | 0, _ => return []
  | count + 1, value => do
    match ← advance? value with
    | none => return []
    | some element => return element :: (← drainWithin count value)

def collect (value : Value) : Run (List Value) := do
  match (← get).elements? value with
  | some items => return items
  | none =>
    let iterator ← iterate value
    drainWithin ((← get).pending (← depth) iterator + 1) iterator

/-! ### Items -/

/-- Do two values count as the same key, within so many steps? A tuple counts as what it consists of,
any other key as what it is equal to. -/
def Store.sameKeyWithin (store : Store) : Nat → Value → Value → Bool
  | 0, _, _ => false
  | steps + 1, left, right =>
    match store.object? left, store.object? right with
    | some (.tuple lefts), some (.tuple rights) =>
      lefts.length = rights.length &&
        (lefts.zip rights).all fun (left, right) => store.sameKeyWithin steps left right
    | _, _ => store.plainEqual left right

def Store.sameKey (store : Store) (left right : Value) : Bool :=
  store.sameKeyWithin (store.objects.size + 1) left right

/-- Fails unless a value can be a key, within so many steps: it may not change, and neither may what it
consists of. -/
def requireKeyWithin : Nat → Value → Run Unit
  | 0, _ => misuse .tooDeep
  | steps + 1, value => do
    match ← object? value with
    | some (.tuple items) => items.forM (requireKeyWithin steps)
    | some (.window (.bytes _) _ _) => return
    | some (.window ..) => misuse .badValue
    | some (.list _) | some (.dict _) | some (.bytearray _) | some (.array _) | some (.box _)
    | some .cow | some (.owned _) | some (.borrowed ..) => misuse .wrongType
    | some (.entity kind _) =>
      match kind with
      | .record .. | .variant .. | .handle | .subHandle | .convert | .odd | .counter =>
        misuse .wrongType
      | _ => return
    | _ => return

def requireKey (value : Value) : Run Unit := do
  requireKeyWithin (← depth) value

def Store.valueAt? (store : Store) (entries : List (Value × Value)) (key : Value) : Option Value :=
  (entries.find? fun entry => store.sameKey entry.1 key).map (·.2)

def Store.putEntry (store : Store) (entries : List (Value × Value)) (key value : Value) :
    List (Value × Value) :=
  match entries with
  | [] => [(key, value)]
  | entry :: rest =>
    if store.sameKey entry.1 key then (entry.1, value) :: rest
    else entry :: store.putEntry rest key value

def createDict (entries : List (Value × Value)) : Run Value := do
  entries.forM fun entry => requireKey entry.1
  let store ← get
  create (.dict (entries.foldl (fun built entry => store.putEntry built entry.1 entry.2) []))

def position (size : Nat) (index : Value) : Run Nat :=
  match index.number? with
  | none => misuse .wrongType
  | some number =>
    let shifted := if number < 0 then number + size else number
    if 0 ≤ shifted ∧ shifted < size then return shifted.toNat else misuse .outOfRange

def item (value index : Value) : Run Value := do
  let store ← get
  match store.object? value with
  | some (.dict entries) =>
    requireKey index
    match store.valueAt? entries index with
    | some found => return found
    | none => misuse .noEntry
  | _ => match store.elements? value with
    | some items => return items.getD (← position items.length index) .none
    | none => misuse .wrongType

def byteOf (outside : Misuse) (value : Value) : Run UInt8 :=
  match value.number? with
  | none => misuse .wrongType
  | some number =>
    if 0 ≤ number ∧ number < 256 then return UInt8.ofNat number.toNat else misuse outside

/-- Puts a value in the place of an item. Bytes change where they are held, also through a window. -/
def setItem (target index value : Value) : Run Unit := do
  match ← object? target with
  | some (.list items) =>
    let place ← position items.length index
    write target (.list (items.set place value))
  | some (.dict entries) =>
    requireKey index
    write target (.dict ((← get).putEntry entries index value))
  | some (.bytearray content) =>
    if index.number?.isNone then misuse .wrongType
    let byte ← byteOf .badValue value
    write target (.bytearray (content.set (← position content.length index) byte))
  | some (.array content) =>
    let place ← position content.length index
    write target (.array (content.set place (← byteOf .overflow value)))
  | some (.window base start length) =>
    match ← object? base with
    | some (.bytearray content) =>
      let place ← position (min length (content.length - start)) index
      write base (.bytearray (content.set (start + place) (← byteOf .badValue value)))
    | some (.array content) =>
      let place ← position (min length (content.length - start)) index
      write base (.array (content.set (start + place) (← byteOf .badValue value)))
    | _ => misuse .wrongType
  | _ => misuse .wrongType

def grown (target value : Value) : Run Object := do
  match ← object? target with
  | some (.list items) => return .list (items ++ [value])
  | some (.bytearray content) => return .bytearray (content ++ [← byteOf .badValue value])
  | some (.array content) => return .array (content ++ [← byteOf .overflow value])
  | _ => misuse .noMember

def append (target value : Value) : Run Unit := do
  write target (← grown target value)

def createWindow (base : Value) : Run Value := do
  let store ← get
  match store.object? base with
  | some (.window inner start length) => create (.window inner start length)
  | _ => match store.buffer? base with
    | some content => create (.window base 0 content.length)
    | none => misuse .wrongType

/-- The position in a size that a bound of a part stands for: a negative one counts from the end, and
none leaves the size. -/
def bound (size : Nat) (index : Int) : Nat :=
  if index < 0 then (index + size).toNat else min index.toNat size

def slice (value : Value) (first last : Int) : Run Value := do
  match ← object? value with
  | some (.window base start length) =>
    let from_ := bound length first
    create (.window base (start + from_) (bound length last - from_))
  | _ => misuse .wrongType

end CowView.Live
