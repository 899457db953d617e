import CowView.Live.Load
import CowView.Live.Snapshot

/-!
Scripts: steps that work on values, keep results in registers, and load units. A step that fails leaves
the registers as they are, and the next one goes on.
-/

namespace CowView.Live

def callableOf? (name : String) : Option Value :=
  let passage? : String → Option Passage
    | "from_owned" => some .fromOwned
    | "from_borrowed" => some .fromBorrowed
    | "to_owned" => some .toOwned
    | _ => none
  match name.splitOn ".", name with
  | [group, part], _ => (passage? part).map fun passage =>
      .function (.strategy (Strategy.all.find? (·.method = group)) passage)
  | _, "unnest" => some (.function .unnest)
  | _, "as_deref" => some (.function .asDeref)
  | _, "cow_iter" => some (.function .cowIter)
  | _, "CowIter" => some (.kind .cowIter)
  | _, "clone" => some (.function .clone)
  | _, "to_owned" => some (.function .toOwned)
  | _, "deref" => some (.function .deref)
  | _, "into_target" => some (.function .intoTarget)
  | _, "is_flattenable" => some (.function .isFlattenable)
  | _, "is_butcherable" => some (.function .isViewable)
  | _, "type" => some (.function .kindOf)
  | _, _ => none

def Conversion.ofName? : String → Option Conversion
  | "identity" => some .identity
  | "list" => some .wrapInList
  | "upper" => some .upper
  | "value" => some .content
  | "first" => some .first
  | "negate" => some .negate
  | "len" => some .length
  | "copy" => some .toList
  | _ => none

inductive Operator where
  | list
  | tuple
  | dict
  | bytearray (content : List UInt8)
  | array (content : List UInt8)
  | window
  | part (first last : Int)
  | member (name : String)
  | setMember (name : String)
  | item
  | setItem
  | append
  | equal
  | differs
  | same
  | isA
  | requireKey
  | describe
  | next
  | drain
  | docs
  | clones
  | registerOwner (conversion : Conversion)
  | registerTarget (conversion : Conversion) (into? : Option Conversion)
  | enter (register : String) (name : Option String)
  | exit (register : String)
  deriving DecidableEq, Repr

/-- Expressions. A name leads from a kind, or from a unit, to a member. -/
inductive Expression where
  | plain (value : Value)
  | register (name : String)
  | named (path : List String)
  | apply (operator : Operator) (operands : List Expression)
  | call (callee : Expression) (inOrder : List Expression) (byName : List (String × Expression))
  deriving Inhabited

inductive Step where
  | evaluate (register : Option String) (expression : Expression)
  | load (register text : String) (settings : Settings)

/-- The state of a script: the store, the registers and the numbers of the loaded units, both the latest
first, and the scopes that were entered. -/
structure Session where
  store : Store := .initial
  registers : List (String × Value) := []
  units : List (String × Nat) := []
  entered : List (String × Value) := []
  deriving DecidableEq

def Session.roots (session : Session) : List Value :=
  (session.registers.filter fun entry => session.registers.lookup entry.1 = some entry.2).map (·.2)

abbrev Play := EStateM Failure Session

namespace Play

def onStore {α : Type} (run : Run α) : Play α := fun session =>
  match run session.store with
  | .ok result store => .ok result { session with store }
  | .error failure store => .error failure { session with store }

def found {α : Type} (entry : Option α) : Play α :=
  match entry with
  | some found => return found
  | none => throw (.misuse .unset)

def named (path : List String) : Play Value := do
  match path with
  | [] => throw (.misuse .unset)
  | [name] => return .kind (← found (Kind.ofName? name))
  | unit :: first :: rest =>
    let session ← get
    let number ← found (session.units.lookup unit)
    match session.store.unitMember? number first with
    | none => throw (.misuse .noMember)
    | some start => onStore (rest.foldlM Live.member start)

def pairs : List Value → List (Value × Value)
  | key :: value :: rest => (key, value) :: pairs rest
  | _ => []

def effect (run : Run Unit) : Play Value := do
  onStore run
  return .none

/-- Puts a value at the end of another one, which cannot grow while a window shows its bytes. -/
def append (target value : Value) : Play Value := do
  let session ← get
  if session.store.isExported session.roots target then
    let _ ← onStore (grown target value)
    throw (.misuse .exported)
  else effect (Live.append target value)

def appended? (callee : Value) (arguments : Arguments) : Option (Value × Value) :=
  match callee, arguments with
  | .bound target .append, ⟨[value], []⟩ => some (target, value)
  | .function (.method .append), ⟨[target, value], []⟩ => some (target, value)
  | _, _ => none

def operate (operator : Operator) (operands : List Value) : Play Value := do
  match operator, operands with
  | .list, items => onStore (create (.list items))
  | .tuple, items => onStore (create (.tuple items))
  | .dict, items => onStore (createDict (pairs items))
  | .bytearray content, [] => onStore (create (.bytearray content))
  | .array content, [] => onStore (create (.array content))
  | .window, [base] => onStore (createWindow base)
  | .part first last, [window] => onStore (slice window first last)
  | .member name, [holder] => onStore (Live.member holder name)
  | .setMember name, [target, value] => effect (Live.setMember target name value)
  | .item, [holder, index] => onStore (Live.item holder index)
  | .setItem, [target, index, value] => effect (Live.setItem target index value)
  | .append, [target, value] => append target value
  | .equal, [left, right] => return .bool (← onStore (Live.equal left right))
  | .differs, [left, right] => return .bool !(← onStore (Live.equal left right))
  | .same, [left, right] => return .bool (left = right)
  | .isA, [value, .kind kind] => return .bool ((← get).store.kindOf value |>.isA kind)
  | .requireKey, [value] => effect (Live.requireKey value)
  | .describe, [value] => return .text (← onStore (Live.describe value))
  | .next, [iterator] => onStore (advance iterator)
  | .drain, [iterator] => onStore do create (.list (← collect iterator))
  | .docs, [.kind kind] => return ((← get).store.docs? kind).elim .none .text
  | .clones, [] => return .int (← get).store.clones
  | .registerOwner conversion, [.kind kind] => effect (Live.registerOwner kind conversion)
  | .registerTarget conversion into?, [.kind kind] =>
    effect (Live.registerTarget kind conversion into?)
  | .enter register name, [value] =>
    let scope ← onStore (openScope name)
    modify fun session => { session with entered := (register, scope) :: session.entered }
    onStore (createBorrowed value scope)
  | .exit register, [] =>
    onStore (closeScope (← found ((← get).entered.lookup register)))
    return .bool false
  | _, _ => throw (.misuse .wrongType)

def evaluate : Expression → Play Value
  | .plain value => return value
  | .register name => do found ((← get).registers.lookup name)
  | .named path => named path
  | .apply operator operands => do operate operator (← evaluateAll operands)
  | .call callee inOrder byName => do
    let callee ← evaluate callee
    let inOrder ← evaluateAll inOrder
    let byName ← evaluateNamed byName
    match appended? callee ⟨inOrder, byName⟩ with
    | some (target, value) => append target value
    | none => onStore (Live.call callee ⟨inOrder, byName⟩)
where
  evaluateAll : List Expression → Play (List Value)
    | [] => return []
    | first :: rest => do
      let value ← evaluate first
      return value :: (← evaluateAll rest)
  evaluateNamed : List (String × Expression) → Play (List (String × Value))
    | [] => return []
    | (name, first) :: rest => do
      let value ← evaluate first
      return (name, value) :: (← evaluateNamed rest)

inductive Outcome where
  | value (snapshot : Snapshot)
  | unit (number : Nat)

def step : Step → Play Outcome
  | .evaluate register expression => do
    let value ← evaluate expression
    if let some name := register then
      modify fun session => { session with registers := (name, value) :: session.registers }
    return .value (← onStore (snapshot value))
  | .load register text settings => do
    let number ← onStore (load register text settings)
    modify fun session => { session with units := (register, number) :: session.units }
    return .unit number

end Play

def runScript : List Step → Session → List (Except Failure Play.Outcome × Session)
  | [], _ => []
  | step :: rest, session =>
    match Play.step step session with
    | .ok outcome session => (.ok outcome, session) :: runScript rest session
    | .error failure session => (.error failure, session) :: runScript rest session

end CowView.Live
