import CowView.Live.Loaded

/-!
What kinds define. `fixedMember?` lists the members of the kinds of the library, `declaredMember?` those that
come with a declaration, and `Units.parameters` says how instances of a generated kind are made.
-/

namespace CowView.Live

inductive Property where
  | discriminant
  | content
  | referent
  | isOpen
  | isOwned
  | base
  deriving DecidableEq, Repr

inductive Member where
  | constant (value : Value)
  | texts (values : List String)
  | method (method : Method)
  | kindMethod (method : Method)
  | slot
  | property (property : Property)
  deriving DecidableEq, Repr

def cowMember? (form : CowForm) : String → Option Member
  | "get" => some (.method (.cow form .get))
  | "into_owned" => some (.method (.cow form .intoOwned))
  | "owned" => some (.method (.cow form .owned))
  | _ => none

def fixedMember? : Kind → String → Option Member
  | .cow, "is_owned" | .cow, "is_borrowed" => some (.constant (.bool false))
  | .cow, name => cowMember? .base name
  | .owned, "is_owned" => some (.constant (.bool true))
  | .owned, "_value" => some .slot
  | .owned, "value" => some (.property .content)
  | .owned, name => cowMember? .owned name
  | .borrowed, "is_borrowed" => some (.constant (.bool true))
  | .borrowed, "_referent" | .borrowed, "scope" => some .slot
  | .borrowed, "referent" => some (.property .referent)
  | .borrowed, name => cowMember? .borrowed name
  | .scope, "is_open" => some (.property .isOpen)
  | .scope, "check" => some (.method .check)
  | .scope, "close" => some (.method .close)
  | .staticScope, "close" => some (.method .stayOpen)
  | .cowIter, "from_cow" => some (.kindMethod .iterate)
  | .cowIter, "is_owned" => some (.property .isOwned)
  | .cowIter, "__iter__" => some (.method .itself)
  | .cowIter, "__next__" => some (.method .advance)
  | .box, "value" => some .slot
  | .box, "deref" | .handle, "deref" => some (.method .content)
  | .odd, "deref" => some (.constant (.int 5))
  | .convert, "into_target" | .target, "into_target" => some (.method .contentList)
  | .viewable, "butcher" | .viewable, "unbutcher" => some (.kindMethod .refuseParts)
  | .view, "SOURCE" => some (.constant .none)
  | .view, "unbutcher" => some (.method .rebuild)
  | .tagged, "VARIANTS" => some (.texts [])
  | .tagged, "DISCRIMINANT" => some (.constant .none)
  | .tagged, "discriminant" => some (.property .discriminant)
  | .window, "obj" => some (.property .base)
  | .window, "tobytes" => some (.method .copyBytes)
  | .dict, "get" => some (.method .find)
  | .list, "append" | .bytearray, "append" | .array, "append" => some (.method .append)
  | .strategy chosen, "from_owned" =>
    some (.constant (.function (.strategy chosen .fromOwned)))
  | .strategy chosen, "from_borrowed" =>
    some (.constant (.function (.strategy chosen .fromBorrowed)))
  | .strategy chosen, "to_owned" => some (.constant (.function (.strategy chosen .toOwned)))
  | _, _ => none

def variantKind? (view : View) (unit position : Nat) (side : Side) (name : String) : Option Kind :=
  (view.body.variants.findIdx? (·.variant.name = name)).map (.variant unit position side ·)

def declaredMember? (loaded : Loaded) (source : Kind) : Side → String → Option Member
  | .source, "SIGNATURE" => some (.constant (.text loaded.view.signature.render))
  | .source, "BOUNDS" => some (.texts loaded.view.clauses)
  | .source, "butcher" => some (match loaded.inPlace with
      | some (first, _) => .constant first
      | none => .kindMethod .takeApart)
  | .source, "unbutcher" => some (match loaded.inPlace with
      | some (_, second) => .constant second
      | none => .kindMethod .putTogether)
  | .view, "SOURCE" => some (.constant (.kind source))
  | _, _ => none

def variantNames (view : View) : Member := .texts (view.body.variants.map (·.variant.name))

def lineage? (name : String) : Option Member :=
  if name = "mro" then some (.kindMethod .lineage) else none

namespace Units

def variantBefore? (units : Units) (unit position index : Nat) (name : String) : Option Nat :=
  (List.range index).find? fun other =>
    (units.variant? unit position other).any fun found => found.variant.name = name

/-- What the class of a declaration finds under the name of a field while its constructor is made. Such a
field need not be given. A variant finds the variants in front of it, which its union has by then. -/
def preset? (units : Units) : Kind → String → Option Member
  | .record unit position side, slot => (units.loaded? unit position).bind fun loaded =>
    (declaredMember? loaded (.record unit position .source) side slot).or
      ((fixedMember? (.ofSide side) slot).or (lineage? slot))
  | .variant unit position side index, slot => (units.loaded? unit position).bind fun loaded =>
    let earlier? := (units.variantBefore? unit position index slot).map fun other =>
      Member.constant (.kind (.variant unit position side other))
    let union? := if slot = "VARIANTS" then some (variantNames loaded.view)
      else declaredMember? loaded (.union unit position .source) side slot
    earlier?.or (union?.or
      ((fixedMember? (.ofSide side) slot).or ((fixedMember? .tagged slot).or (lineage? slot))))
  | _, _ => none

def parameters (units : Units) (kind : Kind) : List (String × Option Member) :=
  (units.slots kind).map fun slot => (slot, units.preset? kind slot)

end Units

def areOrdered : List (String × Option Member) → Bool
  | [] => true
  | (_, none) :: rest => areOrdered rest
  | (_, some _) :: rest => rest.all (·.2.isSome)

end CowView.Live
