import CowView.Live.Store
import CowView.Text.Quoted

/-!
Values in listings.
-/

namespace CowView.Live

open Text (quoted quotedBytes join)

def Store.describeKind (store : Store) (kind : Kind) : String :=
  let home := match kind with
    | .record unit .. | .union unit .. | .variant unit .. =>
      (store.units[unit]?.map fun found => found.name ++ ".").getD ""
    | other => other.home
  "<class '" ++ home ++ store.units.qualifiedName kind ++ "'>"

def describeArray (content : List UInt8) : String :=
  if content.isEmpty then "array('B')"
  else "array('B', [" ++ join ", " (content.map fun byte => toString byte.toNat) ++ "])"

def describeScope (name : String) (isOpen : Bool) : String :=
  "<Scope " ++ name ++ " (" ++ (if isOpen then "open" else "closed") ++ ")>"

def isOpen (scope : Value) : Run Bool := do
  match ← object? scope with
  | some (.scope _ isOpen _) => return isOpen
  | _ => misuse .noMember

/-- An object in listings. The values that it holds are described by the given function. -/
def describeObject (describe : Value → Run String) : Object → Run String
  | .list items => return "[" ++ join ", " (← items.mapM describe) ++ "]"
  | .tuple [item] => return "(" ++ (← describe item) ++ ",)"
  | .tuple items => return "(" ++ join ", " (← items.mapM describe) ++ ")"
  | .dict entries => do
    let entries ← entries.mapM fun (key, value) => do
      return (← describe key) ++ ": " ++ (← describe value)
    return "\x7b" ++ join ", " entries ++ "\x7d"
  | .bytearray content => return "bytearray(" ++ quotedBytes content ++ ")"
  | .array content => return describeArray content
  | .window .. => return "<memory>"
  | .box content => return "Box(" ++ (← describe content) ++ ")"
  | .cow => return "<Cow>"
  | .owned value => return "Owned(" ++ (← describe value) ++ ")"
  | .borrowed referent scope => do
    if ← isOpen scope then return "Borrowed(" ++ (← describe referent) ++ ")"
    else return "Borrowed(<expired>)"
  | .scope name isOpen _ => return describeScope name isOpen
  | .iterator .. => return "<iterator>"
  | .cowIter .. => return "<CowIter>"
  | .entity kind attributes => do
    let units := (← get).units
    match kind with
    | .record .. | .variant .. =>
      let fields ← (units.slots kind).mapM fun slot => do
        return slot ++ "=" ++ (← describe ((attributes.lookup slot).getD .none))
      return units.qualifiedName kind ++ "(" ++ join ", " fields ++ ")"
    | .handle | .subHandle | .convert | .odd | .target | .counter =>
      return kind.fixedName ++ "(" ++ (← describe ((attributes.lookup "value").getD .none)) ++ ")"
    | _ => return "<" ++ units.qualifiedName kind ++ ">"

/-- What stands for an object inside itself. Other objects go on for ever. -/
def ellipsis? : Object → Option String
  | .list _ => some "[...]"
  | .tuple _ => some "(...)"
  | .dict _ => some "\x7b...\x7d"
  | .entity (.record ..) _ | .entity (.variant ..) _ => some "..."
  | _ => none

def describeWithin : Nat → List Value → Value → Run String
  | 0, _, _ => misuse .tooDeep
  | steps + 1, outer, value =>
    match value with
    | .none => return "None"
    | .bool true => return "True"
    | .bool false => return "False"
    | .int number => return toString number
    | .text content => return quoted content
    | .bytes content => return quotedBytes content
    | .kind kind => return (← get).describeKind kind
    | .function _ => return "<function>"
    | .bound .. => return "<bound method>"
    | .descriptor => return "<property>"
    | .object _ => do
      match ← object? value with
      | none => return "<nothing>"
      | some object =>
        match if value ∈ outer then ellipsis? object else none with
        | some short => return short
        | none => describeObject (describeWithin steps (value :: outer)) object

def describe (value : Value) : Run String := do
  describeWithin (← depth) [] value

end CowView.Live
