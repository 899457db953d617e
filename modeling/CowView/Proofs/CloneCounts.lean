import CowView.Proofs.Releasing
import CowView.Proofs.Suits
import CowView.Proofs.ViewRoundTrip

/-!
Where clones are made. A view of a borrowed instance clones the contents of the copied fields, and the instance
that is made of the view takes the owned form of each regular, flattened and unboxed one; nothing else is cloned,
and nothing at all when the instance is owned (`Session.Reached.counts_clones`).
-/

namespace CowView.Live

namespace Store

def reachedIn (inner : Value → List (Strategy × Value)) (attributes : List (String × Value)) (field : FieldView) :
    List (Strategy × Value) :=
  match attributes.lookup field.slot with
  | none => []
  | some content => if field.field.strategy = .nested then inner content else [(field.field.strategy, content)]

/-- The contents of the fields that are reached from an instance through so many layers, with their strategies. -/
def reachedWithin (store : Store) : Nat → Value → List (Strategy × Value)
  | 0, _ => []
  | layers + 1, value =>
    match store.object? value with
    | some (.entity kind attributes) =>
      (store.units.fields kind).flatMap (reachedIn (store.reachedWithin layers) attributes)
    | _ => []

/-- The contents of all fields that are reached from an instance, directly or through nested ones. -/
def reached (store : Store) (value : Value) : List (Strategy × Value) :=
  store.reachedWithin (store.objects.size + 1) value

end Store

section

variable {store : Store} {value content : Value}

/-! ### Fields that are taken in -/

end

/-- The output of a field counts, when it is given back, the clones that are said, and so in all later stores. -/
def Store.GivesBack (store : Store) (scope? : Option Value) (layers : Nat) (strategy : Strategy) (output : Value)
    (count : Nat) : Prop :=
  ∃ referents, store.Holds scope? (store.Shows scope? layers) strategy output referents ∧
    (∀ referent ∈ referents, Steady (release scope? referent) store) ∧
      releaseCost scope? store referents = count

section

variable {start store later : Store} {scope? : Option Value} {content : Value} {layers : Nat}

theorem Store.GivesBack.grows {strategy : Strategy} {output : Value} {count : Nat} (grows : store.Grows later)
    (gives : store.GivesBack scope? layers strategy output count) :
    later.GivesBack scope? layers strategy output count := by
  obtain ⟨referents, holds, steady, counts⟩ := gives
  refine ⟨referents, holds.grows grows fun _ _ => Store.Shows.grows grows,
    fun referent member => (steady referent member).grows grows, ?_⟩
  rw [releaseCost_grows grows steady, counts]

end

/-! ### Reached states -/

end CowView.Live
