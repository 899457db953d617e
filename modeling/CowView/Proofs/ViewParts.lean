import CowView.Proofs.Crossing

/-!
What views hold. A field of a view holds a pointer where the strategy is the regular, the flattening or the
unboxing one; every owned form that is made of the view is that of the referent of such a pointer. A copied field
holds its content, and a nested one a view of its own.
-/

namespace CowView.Live

namespace Store

def Holds (store : Store) (scope? : Option Value) (nested : Value → List Value → Prop) (strategy : Strategy)
    (output : Value) (referents : List Value) : Prop :=
  match strategy with
  | .copy => referents = []
  | .nested => nested output referents
  | .regular | .flatten | .unbox => ∃ referent, store.object? output = some (.pointing scope? referent) ∧
      referents = [referent]

inductive ShowsLayer (store : Store) (scope? : Option Value) (nested : Value → List Value → Prop) (kind : Kind)
    (view : Value) : List Value → Prop
  | intro {loaded : Loaded} {fields : List FieldView} {viewed : List (String × Value)}
    {parts : FieldView → List Value} (forms : store.units.Forms kind loaded fields)
    (ordinary : store.units.Ordinary kind loaded)
    (shown : store.object? view = some (.entity (kind.onSide .view) viewed))
    (slots : viewed.map (·.1) = fields.map (·.slot))
    (each : ∀ field ∈ fields, ∃ output, viewed.lookup field.slot = some output ∧
      store.Holds scope? nested field.field.strategy output (parts field)) :
    ShowsLayer store scope? nested kind view (fields.flatMap parts)

def Shows (store : Store) (scope? : Option Value) : Nat → Value → List Value → Prop
  | 0, _, _ => False
  | layers + 1, view, referents => ∃ kind, store.ShowsLayer scope? (store.Shows scope? layers) kind view referents

variable {store later : Store} {scope? : Option Value} {kind : Kind} {view output : Value} {referents : List Value}

theorem Holds.grows {nested wider : Value → List Value → Prop} {strategy : Strategy} (grows : store.Grows later)
    (inner : ∀ output referents, nested output referents → wider output referents)
    (holds : store.Holds scope? nested strategy output referents) :
    later.Holds scope? wider strategy output referents := by
  cases strategy with
  | copy => exact holds
  | nested => exact inner _ _ holds
  | regular | flatten | unbox => exact holds.imp fun _ => And.imp_left grows.object?

theorem ShowsLayer.grows {nested wider : Value → List Value → Prop} (grows : store.Grows later)
    (inner : ∀ output referents, nested output referents → wider output referents)
    (shows_ : store.ShowsLayer scope? nested kind view referents) :
    later.ShowsLayer scope? wider kind view referents := by
  obtain ⟨forms, ordinary, shown, slots, each⟩ := shows_
  refine .intro (grows.units ▸ forms) (grows.units ▸ ordinary) (grows.object? shown) slots fun field member => ?_
  exact (each field member).imp fun _ => And.imp_right (Holds.grows grows inner)

theorem Shows.grows {layers : Nat} (grows : store.Grows later) (shows_ : store.Shows scope? layers view referents) :
    later.Shows scope? layers view referents := by
  induction layers generalizing view referents with
  | zero => exact shows_
  | succ layers ih => exact shows_.imp fun _ layer => layer.grows grows fun _ _ => ih

end Store

end CowView.Live
