import CowView.Live.Value
import Mathlib.Data.Fin.Pigeonhole

/-!
Values that are built in layers. The parts of a value are a layer further in, and the innermost layer has none.
Where all values with parts are objects of a store, no more layers are needed than there are objects, and one of
values without parts; this is what the bounds on calls, copies and comparisons count on.
-/

namespace CowView.Live

def Layered (layer : (Value → Prop) → Value → Prop) : Nat → Value → Prop
  | 0, _ => False
  | layers + 1, value => layer (Layered layer layers) value

/-- A layer holds over more parts if it holds over some, and values with parts are among so many objects. -/
structure Layering (layer : (Value → Prop) → Value → Prop) (objects : Nat) : Prop where
  mono : ∀ {part wider : Value → Prop} {value : Value}, (∀ value, part value → wider value) → layer part value →
    layer wider value
  place : ∀ {part : Value → Prop} {value : Value}, layer part value → ¬ layer (fun _ => False) value →
    ∃ address, value = .object address ∧ address < objects

section

variable {layer : (Value → Prop) → Value → Prop} {objects : Nat} {value : Value}

namespace Layered

theorem succ (layering : Layering layer objects) {layers : Nat} (layered : Layered layer layers value) :
    Layered layer (layers + 1) value := by
  induction layers generalizing value with
  | zero => exact layered.elim
  | succ layers ih => exact layering.mono (fun _ inner => ih inner) layered

theorem mono (layering : Layering layer objects) {few many : Nat} (fewer : few ≤ many)
    (layered : Layered layer few value) : Layered layer many value := by
  induction fewer with
  | refl => exact layered
  | step _ ih => exact succ layering ih

end Layered

def LayeredIn (layer : (Value → Prop) → Value → Prop) (layers : Nat) (value : Value) : Prop :=
  Layered layer layers value ∧ ∀ fewer < layers, ¬ Layered layer fewer value

namespace LayeredIn

theorem unique {layers others : Nat} (first : LayeredIn layer layers value)
    (second : LayeredIn layer others value) : layers = others := by
  rcases Nat.lt_trichotomy layers others with less | same | less
  · exact absurd first.1 (second.2 _ less)
  · exact same
  · exact absurd second.1 (first.2 _ less)

theorem part (layering : Layering layer objects) {layers : Nat} (layered : LayeredIn layer (layers + 2) value) :
    ∃ part, LayeredIn layer (layers + 1) part := by
  have thinner : ¬ ∀ part, Layered layer (layers + 1) part → Layered layer layers part :=
    fun parts => layered.2 (layers + 1) (by omega) (layering.mono parts layered.1)
  simp only [not_forall] at thinner
  obtain ⟨part, within, deep⟩ := thinner
  exact ⟨part, within, fun fewer less shallow => deep (shallow.mono layering (by omega))⟩

theorem below (layering : Layering layer objects) {layers : Nat} (layered : LayeredIn layer (layers + 1) value) :
    ∀ fewer ≤ layers, ∃ part, LayeredIn layer (fewer + 1) part := by
  induction layers generalizing value with
  | zero =>
    intro fewer le
    obtain rfl : fewer = 0 := by omega
    exact ⟨value, layered⟩
  | succ layers ih =>
    intro fewer le
    by_cases whole : fewer = layers + 1
    · exact ⟨value, whole ▸ layered⟩
    · obtain ⟨part, inner⟩ := layered.part layering
      exact ih inner fewer (by omega)

end LayeredIn

theorem Layered.within (layering : Layering layer objects) {layers : Nat} (layered : Layered layer layers value) :
    Layered layer (objects + 1) value := by
  classical
  have some_ : ∃ layers, Layered layer layers value := ⟨layers, layered⟩
  have least : LayeredIn layer (Nat.find some_) value :=
    ⟨Nat.find_spec some_, fun fewer less => Nat.find_min some_ less⟩
  refine least.1.mono layering ?_
  generalize Nat.find some_ = layers at least
  cases layers with
  | zero => exact least.1.elim
  | succ layers =>
    have places : ∀ depth : Fin layers, ∃ address : Fin objects, LayeredIn layer (depth + 2) (.object address) := by
      intro depth
      obtain ⟨part, inner⟩ := least.below layering (depth + 1) (by omega)
      obtain ⟨address, rfl, inside⟩ := layering.place inner.1 (inner.2 1 (by omega))
      exact ⟨⟨address, inside⟩, inner⟩
    choose place at_ using places
    have injective : Function.Injective place := by
      intro depth other same
      have first := at_ depth
      rw [same] at first
      have equal := first.unique (at_ other)
      omega
    have le := Fin.le_of_injective place injective
    omega

end

end CowView.Live
