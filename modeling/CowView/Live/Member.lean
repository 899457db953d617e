import CowView.Live.Definition
import CowView.Live.Describe
import CowView.Live.Equality

/-!
Members. A value has the members of its kinds and, if it is an object, attributes of its own. What a
member reads as depends on what it is read from: a method is bound to a value, and stands alone on a
kind.
-/

namespace CowView.Live

namespace Store

def ownMember? (store : Store) (kind : Kind) (name : String) : Option Member :=
  match kind with
  | .record unit position side =>
    (store.units.loaded? unit position).bind fun loaded =>
      declaredMember? loaded (.record unit position .source) side name
  | .union unit position side =>
    (store.units.loaded? unit position).bind fun loaded =>
      match variantKind? loaded.view unit position side name with
      | some variant => some (.constant (.kind variant))
      | none =>
        if name = "VARIANTS" then some (variantNames loaded.view)
        else declaredMember? loaded (.union unit position .source) side name
  | .variant unit position _ index =>
    if name = "DISCRIMINANT" then
      (store.units.variant? unit position index).map fun found =>
        .constant (.text found.variant.name)
    else none
  | other => fixedMember? other name

def kindMember? (store : Store) (kind : Kind) (name : String) : Option Member :=
  kind.ancestors.findSome? (store.ownMember? · name)

def isComputed (store : Store) (kind : Kind) (name : String) : Bool :=
  match store.kindMember? kind name with
  | some (.property _) => true
  | _ => false

def docs? (store : Store) (kind : Kind) : Option String :=
  let literal := fun (lines : List String) =>
    "\n" ++ String.join (lines.map fun line => "    " ++ line ++ "\n") ++ "    "
  let written := fun (docs : String) =>
    (Text.splitLines docs.toList).map String.ofList
  let preset := fun (slot : String) => match store.units.preset? kind slot with
    | some (.constant (.kind found)) => " = " ++ store.describeKind found
    | some (.constant (.text content)) => " = " ++ Text.quoted content
    | some (.constant .none) => " = None"
    | some (.texts [content]) => " = (" ++ Text.quoted content ++ ",)"
    | some (.texts contents) => " = (" ++ Text.join ", " (contents.map Text.quoted) ++ ")"
    | _ => ""
  let listing := fun (name : String) =>
    name ++ "(" ++ Text.join ", " ((store.units.fields kind).map fun field =>
      field.slot ++ ": " ++ Text.quoted field.source.render ++ preset field.slot) ++ ")"
  match kind with
  | .record unit position side | .union unit position side =>
    (store.units.loaded? unit position).bind fun loaded =>
      match side with
      | .view => some (literal ["Butchered view of " ++ loaded.view.signature.render])
      | .source =>
        let lines := written loaded.view.declaration.docs
        if !lines.isEmpty then some (literal lines)
        else if kind = .record unit position side then some (listing (loaded.view.nameOn .source))
        else none
  | .variant unit position side index =>
    (store.units.loaded? unit position).bind fun loaded =>
      (store.units.variant? unit position index).map fun found =>
        match side with
        | .view => literal ["Butchered view of " ++ loaded.view.name ++ "." ++ found.variant.name]
        | .source =>
          let lines := written found.variant.docs
          if !lines.isEmpty then literal lines else listing (Text.identifier (loaded.view.variantClass found))
  | other => other.fixedDocs?

def unitMember? (store : Store) (unit : Nat) (name : String) : Option Value :=
  (store.units.classNamed? unit name).map .kind

end Store

def Object.attribute? : Object → String → Option Value
  | .box content, "value" => some content
  | .owned value, "_value" => some value
  | .borrowed lent _, "_referent" => some lent
  | .borrowed _ duration, "scope" => some duration
  | .scope name _ _, "name" => some (.text name)
  | .scope _ open_ _, "_open" => some (.bool open_)
  | .cowIter elements _, "_elements" => some elements
  | .cowIter _ duration, "_scope" => some duration
  | .entity _ attributes, name => attributes.lookup name
  | _, _ => none

def Property.read (property : Property) (value : Value) : Run Value := do
  let store ← get
  match property, store.object? value with
  | .discriminant, some (.entity kind attributes) =>
    match attributes.lookup "DISCRIMINANT", store.kindMember? kind "DISCRIMINANT" with
    | some own, _ => return own
    | none, some (.constant common) => return common
    | none, _ => misuse .noMember
  | .content, some (.owned value) => return value
  | .referent, some (.borrowed lent duration) =>
    checkScope duration
    return lent
  | .isOpen, some (.scope _ open_ _) => return .bool open_
  | .isOwned, some (.cowIter _ duration) => return .bool (duration = .none)
  | .base, some (.window whole _ _) => return whole
  | _, _ => misuse .noMember

def Member.onKind (member : Member) (kind : Kind) : Run Value :=
  match member with
  | .constant value => return value
  | .texts values => create (.tuple (values.map .text))
  | .method found => return .function (.method found)
  | .kindMethod found => return .bound (.kind kind) found
  | .slot | .property _ => return .descriptor

def Member.onValue (member : Member) (value : Value) (kind : Kind) : Run Value :=
  match member with
  | .method found => return .bound value found
  | .property computed => computed.read value
  | .slot => misuse .noMember
  | member => member.onKind kind

def commonMember? (store : Store) (kind : Kind) : String → Option Value
  | "__name__" => some (.text (store.units.kindName kind))
  | "__qualname__" => some (.text (store.units.qualifiedName kind))
  | "__doc__" => some ((store.docs? kind).elim .none .text)
  | "__class__" => some (.kind .type)
  | "mro" => some (.bound (.kind kind) .lineage)
  | _ => none

def member? (value : Value) (name : String) : Run (Option Value) := do
  let store ← get
  match value with
  | .kind kind =>
    match store.kindMember? kind name with
    | some member => return some (← member.onKind kind)
    | none => return commonMember? store kind name
  | _ =>
    let kind := store.kindOf value
    let own := (store.object? value).bind (·.attribute? name)
    match store.kindMember? kind name, own with
    | some (.property property), _ => return some (← property.read value)
    | _, some own => return some own
    | some member, none => return some (← member.onValue value kind)
    | none, none => return if name = "__class__" then some (.kind kind) else none

def member (value : Value) (name : String) : Run Value := do
  match ← member? value name with
  | some found => return found
  | none => misuse .noMember

def callable? (value : Value) (name : String) : Run (Option Value) :=
  return (← member? value name).filter (·.isCallable)

def setMember (target : Value) (name : String) (value : Value) : Run Unit := do
  let store ← get
  match store.object? target with
  | some (.entity kind attributes) =>
    match store.kindMember? kind name with
    | some (.property _) => misuse .noMember
    | _ => write target (.entity kind (setEntry attributes name value))
  | some (.box _) =>
    if name = "value" then write target (.box value) else misuse .noMember
  | some (.owned _) =>
    if name = "_value" then write target (.owned value) else misuse .noMember
  | some (.borrowed referent scope) =>
    if name = "_referent" then write target (.borrowed value scope)
    else if name = "scope" then write target (.borrowed referent value)
    else misuse .noMember
  | some (.scope title isOpen isStatic) =>
    match name, value with
    | "name", .text title => write target (.scope title isOpen isStatic)
    | "_open", value => write target (.scope title (store.isTrue value) isStatic)
    | _, _ => misuse .noMember
  | some (.cowIter elements scope) =>
    if name = "_elements" then write target (.cowIter value scope)
    else if name = "_scope" then write target (.cowIter elements value)
    else misuse .noMember
  | _ => misuse .noMember

end CowView.Live
