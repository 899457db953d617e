import CowView.Live.Describe
import CowView.Live.Passage

/-!
Calls. Calling a kind makes an instance of it, and the functions between the two sides of a declaration
are called as methods of its kinds. `call` bounds how deep calls may be nested.
-/

namespace CowView.Live

/-! ### Arguments -/

/-- What the parameters stand for: values given in order first, then those given by name, then presets. -/
def bindValues : List (String × Option Member) → List Value → List (String × Value) →
    Option (List Member)
  | [], [], _ => some []
  | [], _ :: _, _ => none
  | (name, _) :: parameters, value :: values, byName =>
    if (byName.lookup name).isSome then none
    else (bindValues parameters values byName).map (.constant value :: ·)
  | (name, preset) :: parameters, [], byName => do
    let chosen ← ((byName.lookup name).map .constant).or preset
    return chosen :: (← bindValues parameters [] byName)

def Arguments.bind (arguments : Arguments) (kind : Kind) (parameters : List (String × Option Member)) :
    Run (List Value) :=
  if arguments.byName.all fun entry => parameters.any (·.1 = entry.1) then
    match bindValues parameters arguments.inOrder arguments.byName with
    | some chosen => chosen.mapM (·.onKind kind)
    | none => misuse .wrongType
  else misuse .wrongType

/-! ### Instances -/

def bytesOf (value : Value) : Run (List UInt8) := do
  match value, value.number? with
  | .text _, _ => misuse .wrongType
  | _, some number =>
    if 0 ≤ number then return List.replicate number.toNat 0 else misuse .badValue
  | _, none => (← collect value).mapM (byteOf .badValue)

def createCollection (kind : Kind) (source : Option Value) : Run Value := do
  let items := fun (_ : Unit) => (source.map collect).getD (pure [])
  let content := fun (_ : Unit) => (source.map bytesOf).getD (pure [])
  match kind with
  | .list => create (.list (← items ()))
  | .tuple => create (.tuple (← items ()))
  | .bytes => return .bytes (← content ())
  | .bytearray => create (.bytearray (← content ()))
  | _ => misuse .wrongType

def construct (kind : Kind) (arguments : Arguments) : Run Value := do
  match kind with
  | .record .. | .variant .. =>
    let store ← get
    let slots := store.units.slots kind
    let values ← arguments.bind kind (store.units.parameters kind)
    if slots.any (store.isComputed kind) then misuse .noMember
    else create (.entity kind (slots.zip values))
  | .handle | .subHandle | .convert | .target | .odd | .counter =>
    let values ← arguments.bind kind [("value", none)]
    create (.entity kind (["value"].zip values))
  | .box => match ← arguments.bind kind [("value", none)] with
    | [content] => create (.box content)
    | _ => misuse .wrongType
  | .owned => match ← arguments.bind kind [("value", none)] with
    | [value] => create (.owned value)
    | _ => misuse .wrongType
  | .borrowed => match ← arguments.bind kind [("referent", none), ("scope", some (.constant .none))] with
    | [referent, scope] => createBorrowed referent scope
    | _ => misuse .wrongType
  | .scope => match ← arguments.bind kind [("name", some (.constant .none))] with
    | [.text name] => openScope name
    | [name] =>
      if (← get).isTrue name then openScope (← describe name) else openScope none
    | _ => misuse .wrongType
  | .cowIter => match ← arguments.bind kind [("elements", none), ("scope", some (.constant .none))] with
    | [elements, scope] => create (.cowIter elements scope)
    | _ => misuse .wrongType
  | .window => match ← arguments.bind kind [("object", none)] with
    | [base] => createWindow base
    | _ => misuse .wrongType
  | .type => match arguments with
    | ⟨[value], []⟩ => return .kind (← kindOf value)
    | _ => misuse .wrongType
  | .text => match arguments with
    | ⟨[], []⟩ => return .text ""
    | ⟨[.text content], []⟩ => return .text content
    | ⟨[value], []⟩ => return .text (← describe value)
    | _ => misuse .wrongType
  | .bool => match arguments with
    | ⟨[], []⟩ => return .bool false
    | ⟨[value], []⟩ => return .bool ((← get).isTrue value)
    | _ => misuse .wrongType
  | .int => match arguments with
    | ⟨[], []⟩ => return .int 0
    | ⟨[value], []⟩ => match value.number? with
      | some number => return .int number
      | none => misuse .wrongType
    | _ => misuse .wrongType
  | .list | .tuple | .bytes | .bytearray => match arguments with
    | ⟨[], []⟩ => createCollection kind none
    | ⟨[value], []⟩ => createCollection kind value
    | _ => misuse .wrongType
  | .dict => match arguments with
    | ⟨[], []⟩ => create (.dict [])
    | _ => misuse .wrongType
  | .absence | .cow | .object | .viewable | .view | .tagged | .strategy _ | .union .. =>
    match kind, arguments with
    | .absence, ⟨[], []⟩ => return .none
    | .cow, ⟨[], []⟩ => create .cow
    | _, ⟨[], []⟩ => create (.entity kind [])
    | _, _ => misuse .wrongType
  | _ => misuse .wrongType

/-! ### Taking values apart and putting them together -/

/-- What the name of a class stands for in a function of a unit: a variable of the function itself hides
what the unit defines, and of classes of one name the last one is meant. -/
def nameIn (locals : List (String × Value)) (units : Units) (unit : Nat) (name : String) (own : Kind) :
    Value :=
  (locals.lookup name).getD (.kind ((units.classNamed? unit name).getD own))

def viewArguments (call : Call) (owned : Bool) (pointer value : Value) (fields : List FieldView) :
    Run (List (String × Value)) :=
  fields.mapM fun field => do
    let content ← member value field.slot
    let strategy := field.field.strategy
    if owned then return (field.slot, ← viewOwned call strategy content)
    else return (field.slot, ← viewBorrowed call strategy content (← member pointer "scope"))

def sourceArguments (call : Call) (view : Value) (fields : List FieldView) :
    Run (List (String × Value)) :=
  fields.mapM fun field => do
    return (field.slot, ← giveBack call field.field.strategy (← member view field.slot))

def variantOf (discriminant : Value) : List VariantView → Run (Option VariantView)
  | [] => return none
  | variant :: rest => do
    if ← equal discriminant (.text variant.variant.name) then return some variant
    else variantOf discriminant rest

def takeApart (call : Call) (unit position : Nat) (receiver pointer : Value) : Run Value := do
  let units := (← get).units
  match units.loaded? unit position with
  | none => misuse .noMember
  | some ⟨view, _⟩ =>
    let owned ← isOwned pointer
    let value ← if owned then ask call pointer "into_owned" else member pointer "referent"
    let locals := [("cls", receiver), ("this", pointer), ("value", value)]
    match view.body with
    | .record fields =>
      let maker := nameIn locals units unit (view.nameOn .view) (.record unit position .view)
      call maker ⟨[], ← viewArguments call owned pointer value fields⟩
    | .union variants =>
      let discriminant ← member value "discriminant"
      let locals := locals ++ [("discriminant", discriminant)]
      match ← variantOf discriminant variants with
      | none => unsatisfied value view.name
      | some variant =>
        let base := nameIn locals units unit (view.nameOn .view) (.union unit position .view)
        let maker ← member base (Text.identifier variant.variant.name)
        call maker ⟨[], ← viewArguments call owned pointer value variant.fields⟩

def putTogether (call : Call) (unit position : Nat) (receiver output : Value) : Run Value := do
  let units := (← get).units
  match units.loaded? unit position with
  | none => misuse .noMember
  | some ⟨view, _⟩ =>
    match view.body with
    | .record fields => call receiver ⟨[], ← sourceArguments call output fields⟩
    | .union variants =>
      let discriminant ← member output "discriminant"
      let locals := [("cls", receiver), ("view", output), ("discriminant", discriminant)]
      match ← variantOf discriminant variants with
      | none => unsatisfied output view.viewName
      | some variant =>
        let base := nameIn locals units unit (view.nameOn .source) (.union unit position .source)
        let maker ← member base (Text.identifier variant.variant.name)
        call maker ⟨[], ← sourceArguments call output variant.fields⟩

def rebuild (call : Call) (output : Value) : Run Value := do
  let source ← member output "SOURCE"
  if source = .none then unsatisfied output "Butcher"
  else call.on (← member source "unbutcher") [output]

/-! ### Calls -/

def Kind.place? : Kind → Option (Nat × Nat)
  | .record unit position _ | .union unit position _ | .variant unit position _ _ =>
    some (unit, position)
  | _ => none

def findEntry (receiver key other : Value) : Run Value := do
  match ← object? receiver with
  | some (.dict entries) =>
    requireKey key
    return ((← get).valueAt? entries key).getD other
  | _ => misuse .wrongType

def callMethod (call : Call) (method : Method) (receiver : Value) (arguments : List Value) :
    Run Value := do
  let place? := match receiver with
    | .kind kind => kind.place?
    | _ => none
  match method, arguments with
  | .cow form request, [] => answerCow form request receiver
  | .check, [] =>
    checkScope receiver
    return .none
  | .close, [] =>
    closeScope receiver
    return .none
  | .stayOpen, [] => return .none
  | .refuseParts, [_] => misuse .notImplemented
  | .takeApart, [pointer] => match place? with
    | some (unit, position) => takeApart call unit position receiver pointer
    | none => misuse .noMember
  | .putTogether, [output] => match place? with
    | some (unit, position) => putTogether call unit position receiver output
    | none => misuse .noMember
  | .rebuild, [] => rebuild call receiver
  | .content, [] => member receiver "value"
  | .contentList, [] => create (.list [← member receiver "value"])
  | .iterate, [pointer] => cowIter call pointer
  | .itself, [] => return receiver
  | .advance, [] => advance receiver
  | .append, [value] =>
    append receiver value
    return .none
  | .copyBytes, [] => match (← get).buffer? receiver with
    | some content => return .bytes content
    | none => misuse .wrongType
  | .find, [key] => findEntry receiver key .none
  | .find, [key, other] => findEntry receiver key other
  | .lineage, [] => match receiver with
    | .kind kind => create (.list (kind.ancestors.map .kind))
    | _ => misuse .wrongType
  | _, _ => misuse .wrongType

def callFunction (call : Call) (function : Function) (arguments : List Value) : Run Value := do
  match function, arguments with
  | .unnest, [pointer] => unnest call pointer
  | .asDeref, [pointer] => asDeref call pointer
  | .cowIter, [pointer] => cowIter call pointer
  | .clone, [value] => clone value
  | .toOwned, [value] => toOwned value
  | .deref, [value] => deref call value
  | .intoTarget, [value] => intoTarget call value
  | .isFlattenable, [value] => return .bool (← isFlattenable value)
  | .isViewable, [value] => return .bool (← isViewable value)
  | .kindOf, [value] => return .kind (← kindOf value)
  | .strategy none .fromBorrowed, [_, _] => misuse .notImplemented
  | .strategy none _, [_] => misuse .notImplemented
  | .strategy (some strategy) .fromOwned, [value] => viewOwned call strategy value
  | .strategy (some strategy) .fromBorrowed, [value] => viewBorrowed call strategy value .none
  | .strategy (some strategy) .fromBorrowed, [value, scope] =>
    viewBorrowed call strategy value scope
  | .strategy (some strategy) .toOwned, [output] => giveBack call strategy output
  | .method method, receiver :: arguments => callMethod call method receiver arguments
  | _, _ => misuse .wrongType

def callOnce (call : Call) (callee : Value) (arguments : Arguments) : Run Value :=
  match callee with
  | .kind kind => construct kind arguments
  | .function function =>
    if arguments.byName.isEmpty then callFunction call function arguments.inOrder
    else misuse .wrongType
  | .bound receiver method =>
    if arguments.byName.isEmpty then callMethod call method receiver arguments.inOrder
    else misuse .wrongType
  | _ => misuse .wrongType

def callWithin : Nat → Call
  | 0 => fun _ _ => misuse .tooDeep
  | steps + 1 => callOnce (callWithin steps)

/-- A call. Each of the values met on the way is the receiver of at most two calls inside each other. -/
def call (callee : Value) (arguments : Arguments) : Run Value := do
  callWithin (2 * (← depth)) callee arguments

end CowView.Live
