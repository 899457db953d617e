import CowView.Live.Dispatch
import CowView.Text.Identifier

/-!
Loading a unit: its declarations are read and resolved, and each of them gives its kinds. A unit can be
generated and yet not be loaded, when a name of its text is none of the generated language, when a class
takes the name of a type variable, or when a constructor would have parameters out of order.
-/

namespace CowView.Live

def isWritable (name : String) : Bool :=
  Text.isIdentifier name.toList && name ∉ keywords

def writtenNames (view : View) : List String :=
  view.definedNames ++ view.body.variants.map (·.variant.name) ++ view.body.fields.map (·.field.slot)

def writtenDocs (view : View) : List String :=
  view.declaration.docs :: view.body.variants.map (·.variant.docs)

def attributeLists (view : View) : List (List String) :=
  match view.body with
  | .record fields => [fields.map (·.slot)]
  | .union variants => variants.map (·.fields.map (·.slot))

/-- Why the generated text of declarations would not be read back, if it would not. No argument may be
passed twice by one name. -/
def unwritable? (views : List View) : Option Misuse :=
  if (views.flatMap writtenDocs).any (·.toList.contains '\x00') then some .badValue
  else if (views.flatMap writtenNames).all isWritable &&
    (views.flatMap attributeLists).all (fun slots => decide slots.Nodup) then none
  else some .badText

/-- Can a declaration be generic over its type variables? They have to differ, and to stand for themselves:
all type variables of a unit are bound first, and a class of an earlier declaration may take the name of
one; `taken` are the names of those classes. -/
def keepsVariables (taken : List String) (view : View) : Bool :=
  (view.typeVariables.map Text.identifier).all (· ∉ taken) &&
    decide (view.typeVariables.map Text.identifier).Nodup

def constructedKinds (view : View) (unit position : Nat) (side : Side) : List Kind :=
  match view.body with
  | .record _ => [.record unit position side]
  | .union variants => (List.range variants.length).map (.variant unit position side ·)

/-- The one name outside of a unit that its generated text takes for granted. -/
def takenForGranted : String := "classmethod"

def hidingKind? (views : List View) (unit position : Nat) : Option Kind :=
  (List.range position).reverse.findSome? fun earlier =>
    views[earlier]?.bind fun view =>
      [Side.view, Side.source].findSome? fun side =>
        if view.nameOn side = takenForGranted then some (view.kindAt unit earlier side) else none

def wrapped (kind : Kind) (method : Method) : Run Value :=
  construct kind ⟨[.function (.method method)], []⟩

def loadOne (views : List View) (unit position : Nat) (view : View) : Run Loaded := do
  match hidingKind? views unit position with
  | none => return ⟨view, none⟩
  | some kind =>
    let first ← wrapped kind .takeApart
    let second ← wrapped kind .putTogether
    return ⟨view, some (first, second)⟩

def LoadedUnit.ofViews (name : String) (views : List View) : LoadedUnit := ⟨name, views.map (⟨·, none⟩)⟩

def constructorProblem? (parameters : List (String × Option Member)) : Option Misuse :=
  if !areOrdered parameters then some .wrongType
  else if parameters.any (·.1 ∈ keywords) then some .badText
  else none

/-- Why the classes of declarations cannot be made, if they cannot; `taken` are the names of classes that
are bound already. -/
def classProblem? (units : Units) (unit : Nat) (taken : List String) : List (View × Nat) → Option Misuse
  | [] => none
  | (view, position) :: rest =>
    let kinds := constructedKinds view unit position .source ++ constructedKinds view unit position .view
    if !keepsVariables taken view then some .wrongType
    else (kinds.findSome? fun kind => constructorProblem? (units.parameters kind)).or
      (classProblem? units unit (taken ++ view.classNames.map Text.identifier) rest)

def loadProblem? (units : Units) (unit : Nat) (views : List View) : Option Misuse :=
  (unwritable? views).or (classProblem? units unit [] views.zipIdx)

def loadViews (name : String) (views : List View) : Run Nat := do
  let store ← get
  let unit := store.units.length
  let units := store.units ++ [.ofViews name views]
  match loadProblem? units unit views with
  | some problem => misuse problem
  | none =>
    set { store with units }
    let declarations ← views.zipIdx.mapM fun (view, position) => loadOne views unit position view
    modify fun store => { store with units := store.units.dropLast ++ [⟨name, declarations⟩] }
    return unit

/-- Loads the declarations of a text as a unit; its number is the result. -/
def load (name text : String) (settings : Settings) : Run Nat := do
  match (Context.ofSettings settings).resolve text with
  | .ok views => loadViews name views
  | .error fault => throw (.generation (.unit fault))

end CowView.Live
