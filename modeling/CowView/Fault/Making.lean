import CowView.Fault.Category
import CowView.Text.Quoted

/-!
Faults made of data. `FaultCategory.make` makes a fault of a category of what it is told, in the order of
the parameters or by their names, and may charge it afterwards.
-/

namespace CowView

open Text (join quoted)

/-- Data that a fault can be told. A decimal keeps its digits. -/
inductive Datum where
  | absent
  | truth (value : Bool)
  | number (value : Int)
  | decimal (digits : String)
  | text (value : String)
  | list (items : List Datum)
  | entries (pairs : List (String × Datum))
  deriving Repr, Inhabited

namespace Datum

def kindName : Datum → String
  | absent => "NoneType"
  | truth _ => "bool"
  | number _ => "int"
  | decimal _ => "float"
  | text _ => "str"
  | list _ => "list"
  | entries _ => "dict"

def describe : Datum → String
  | absent => "None"
  | truth true => "True"
  | truth false => "False"
  | number value => toString value
  | decimal digits => digits
  | text value => quoted value
  | list items => "[" ++ join ", " (describeAll items) ++ "]"
  | entries pairs => "\x7b" ++ join ", " (describeEntries pairs) ++ "\x7d"
where
  describeAll : List Datum → List String
    | [] => []
    | item :: rest => describe item :: describeAll rest
  describeEntries : List (String × Datum) → List String
    | [] => []
    | (key, value) :: rest => (quoted key ++ ": " ++ describe value) :: describeEntries rest

def shown : Datum → String
  | text value => value
  | other => other.describe

def text? : Datum → Option String
  | text value => some value
  | _ => none

end Datum

/-- Why no fault can be made: the data do not fit the parameters, or a datum lacks what is asked of
it. -/
inductive MakingProblem where
  | wrongData
  | noMember
  deriving DecidableEq, Repr

inductive MadeFault where
  | fault (fault : Fault)
  | lacking (kindName capability : String)
  | bare (category : FaultCategory) (message : String)
  deriving DecidableEq, Repr

structure Telling where
  inOrder : List Datum
  byName : List (String × Datum)

namespace FaultCategory

def accepts (category : FaultCategory) (telling : Telling) : Bool :=
  let (names, required) := category.parameters
  let toldInOrder := names.take telling.inOrder.length
  let told := toldInOrder ++ telling.byName.map (·.1)
  (category = .unexpectedToken || telling.inOrder.length ≤ names.length) &&
    telling.byName.all (fun (name, _) => name ∈ names && name ∉ toldInOrder) &&
    (names.take required).all (· ∈ told)

def told (category : FaultCategory) (telling : Telling) (name : String) : Datum :=
  ((category.parameters.1.zip telling.inOrder ++ telling.byName).lookup name).getD .absent

def place : Datum → Except MakingProblem Int
  | .number value => .ok value
  | .truth value => .ok (if value then 1 else 0)
  | _ => .error .wrongData

def placeOf (line column : Datum) : Except MakingProblem (Option Int × Option Int) :=
  match line, column with
  | .absent, .absent => .ok (none, none)
  | .absent, column => do return (none, some (← place column))
  | line, column => do return (some (← place line), some (← place column))

def make (category : FaultCategory) (telling : Telling) (charge : Option Attribution) :
    Except MakingProblem MadeFault := do
  if !category.accepts telling then throw .wrongData
  let datum := category.told telling
  let attribution : Attribution := ⟨(datum "declaration").text?, (datum "field").text?⟩
  let charged := fun (problem : GenerationProblem) =>
    let fault := Fault.generation attribution problem
    MadeFault.fault (charge.elim fault fault.chargeTo)
  let uncharged := fun (made : MadeFault) =>
    if charge.isSome then throw MakingProblem.noMember else return made
  match category with
  | .generation => return charged (.other (datum "msg").shown)
  | .misannotated =>
    let (line, column) ← placeOf (datum "line") (datum "column")
    return charged (.misannotated (.other (datum "msg").shown) line column)
  | .unknownStrategy => return charged (.unknownStrategy (datum "strategy").shown)
  | .unsupportedShape => return charged (.unsupportedShape (datum "shape").shown)
  | .notFound =>
    uncharged (.fault (.notFound (datum "entity_type").shown (datum "value").shown))
  | .source =>
    let line ← place (datum "line")
    let column ← place (datum "col")
    uncharged (.fault (.source line column (.other (datum "msg").shown)))
  | .unsatisfied => uncharged (.lacking (datum "value").kindName (datum "capability").shown)
  | .unexpectedToken | .expired => throw .noMember
  | .fault | .capability => uncharged (.bare category (datum "msg").shown)

end FaultCategory

end CowView
