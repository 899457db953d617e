import CowView.Proofs.Ties

/-!
What conversions make. They make collections, windows, bytes and pointers, but no scopes (`Scopeless.conversion`): only
clones and what is asked to open a scope do.
-/

namespace CowView.Live

def Store.NoNewScope (before after : Store) : Prop :=
  ∀ (value : Value) (name : String) (isOpen isStatic : Bool),
    after.object? value = some (.scope name isOpen isStatic) → before.object? value = some (.scope name isOpen isStatic)

def Scopeless {α : Type} (run : Run α) : Prop :=
  ∀ store, Ends run store (fun _ after => store.NoNewScope after) fun _ _ => True

def Object.isScope : Object → Bool
  | scope .. => true
  | _ => false

namespace Scopeless

variable {α β : Type} {run : Run α} {next : α → Run β} {object : Object}

theorem bind (first : Scopeless run) (rest : ∀ found, Scopeless (next found)) : Scopeless (run >>= next) := by
  refine fun store => Ends.bind ((first store).mono (fun found between kept => ?_) fun _ _ => id)
  exact (rest found between).mono (fun _ _ kept' value name isOpen isStatic held =>
    kept value name isOpen isStatic (kept' value name isOpen isStatic held)) fun _ _ => id

theorem pure (value : α) : Scopeless (pure value : Run α) := fun _ _ _ _ _ => id

theorem misuse (problem : Misuse) : Scopeless (misuse problem : Run α) := fun _ => trivial

theorem throw (failure : Failure) : Scopeless (throw failure : Run α) := fun _ => trivial

theorem get : Scopeless (get : Run Store) := fun _ _ _ _ _ => id

theorem depth : Scopeless depth := fun _ _ _ _ _ => id

theorem object? (value : Value) : Scopeless (object? value) := fun _ _ _ _ _ => id

theorem ite {condition : Prop} [Decidable condition] {other : Run α} (yes : Scopeless run) (no : Scopeless other) :
    Scopeless (if condition then run else other) := by
  split
  · exact yes
  · exact no

theorem forM {step : α → Run PUnit} (each : ∀ item, Scopeless (step item)) (items : List α) :
    Scopeless (items.forM step) := by
  induction items with
  | nil => exact .pure _
  | cons first rest ih => exact (each first).bind fun _ => ih

theorem create (other : object.isScope = false) : Scopeless (create object) := by
  intro store value name isOpen isStatic held
  cases value with
  | object address =>
    change (store.objects.push object)[address]? = _ at held
    rw [Array.getElem?_push] at held
    split at held
    · cases held
      cases other
    · exact held
  | _ => cases held

theorem write (value : Value) (other : object.isScope = false) : Scopeless (write value object) := by
  intro store
  cases value with
  | object place =>
    intro value name isOpen isStatic held
    cases value with
    | object address =>
      change (store.objects.setIfInBounds place object)[address]? = _ at held
      rw [Array.getElem?_setIfInBounds] at held
      split at held
      · split at held
        · cases held
          cases other
        · cases held
      · exact held
    | _ => cases held
  | _ => exact fun _ _ _ _ => id

/-- A run whose new pointers are tied to some scope makes no scope. -/
theorem of_ties {gives : α → Store → Prop} (ties : ∀ store, Ties .none run store gives) : Scopeless run := by
  refine fun store => Ends.mono (ties store) (fun found after both value name isOpen isStatic held => ?_) fun _ _ _ => trivial
  obtain ⟨place, rfl, inside⟩ := Store.address_of_object? held
  by_cases known : place < store.objects.size
  · have kept := both.1.grows.objects place _ (Array.getElem?_eq_getElem known)
    exact (Array.getElem?_eq_getElem known).trans (kept.symm.trans held)
  · rcases both.1.new place _ (Nat.le_of_not_lt known) held rfl with ⟨_, same⟩ | ⟨_, same⟩ <;> cases same

/-! ### Items and elements -/

theorem position (size : Nat) (index : Value) : Scopeless (Live.position size index) := by
  unfold Live.position
  split
  · exact .misuse _
  · exact .ite (.pure _) (.misuse _)

theorem requireKeyWithin (steps : Nat) (value : Value) : Scopeless (Live.requireKeyWithin steps value) := by
  induction steps generalizing value with
  | zero => exact .misuse _
  | succ steps ih =>
    refine (Scopeless.object? value).bind fun found => ?_
    cases found with
    | none => exact .pure _
    | some object =>
      cases object with
      | tuple items => exact .forM ih items
      | window base start length => cases base <;> first | exact .pure _ | exact .misuse _
      | entity kind attributes => cases kind <;> first | exact .pure _ | exact .misuse _
      | _ => first | exact .pure _ | exact .misuse _

theorem item (value index : Value) : Scopeless (Live.item value index) := by
  refine Scopeless.get.bind fun store => ?_
  split
  · refine (Scopeless.depth.bind fun steps => requireKeyWithin steps index).bind fun _ => ?_
    split
    · exact .pure _
    · exact .misuse _
  · split
    · exact (position _ _).bind fun _ => .pure _
    · exact .misuse _

theorem iterate (value : Value) : Scopeless (Live.iterate value) := by
  refine Scopeless.get.bind fun store => ?_
  split
  · exact .create rfl
  · split
    · exact .pure _
    · exact .pure _
    · exact .misuse _

theorem checkScope (scope : Value) : Scopeless (Live.checkScope scope) := by
  refine (Scopeless.object? scope).bind fun found => ?_
  split
  · exact .ite (.pure _) (.throw _)
  · exact .misuse _

/-- The pointers that an iterator of pointers makes are tied to its own scope. -/
theorem advanceWithin (steps : Nat) (value : Value) : Scopeless (Live.advanceWithin steps value) := by
  induction steps generalizing value with
  | zero => exact .misuse _
  | succ steps ih =>
    refine Scopeless.get.bind fun store => ?_
    split
    · refine .ite (.misuse _) ?_
      split
      · exact (write _ rfl).bind fun _ => .pure _
      · exact (write _ rfl).bind fun _ => .pure _
    · exact .pure _
    · refine (ih _).bind fun found => ?_
      split
      · exact .pure _
      · split
        · exact (create rfl).bind fun _ => .pure _
        · exact (checkScope _).bind fun _ => (create rfl).bind fun _ => .pure _
    · exact .misuse _

theorem drainWithin (count : Nat) (value : Value) : Scopeless (Live.drainWithin count value) := by
  induction count with
  | zero => exact .pure []
  | succ count ih =>
    refine (Scopeless.depth.bind fun steps => advanceWithin steps value).bind fun found => ?_
    split
    · exact .pure []
    · exact ih.bind fun _ => .pure _

theorem collect (value : Value) : Scopeless (Live.collect value) := by
  refine Scopeless.get.bind fun store => ?_
  split
  · exact .pure _
  · exact (iterate value).bind fun iterator => Scopeless.get.bind fun _ => Scopeless.depth.bind fun _ =>
      drainWithin _ iterator

/-! ### Conversions -/

theorem ownedFromWindow (window : Value) : Scopeless (Live.ownedFromWindow window) := by
  refine Scopeless.get.bind fun store => ?_
  split
  · exact .ite (.create rfl) (.pure _)
  · exact .misuse _

/-- No conversion makes a scope, whatever it is applied to. -/
theorem conversion (conversion : Conversion) (value : Value) : Scopeless (conversion.apply value) := by
  cases conversion with
  | identity => exact .pure _
  | wrapInList => exact .create rfl
  | upper =>
    refine (Scopeless.object? value).bind fun found => ?_
    split
    · exact .pure _
    · exact .pure _
    · exact .create rfl
    · exact .misuse _
  | content => exact .of_ties fun _ => .member (by decide)
  | first => exact item value _
  | negate =>
    rw [Conversion.apply]
    split
    · exact .pure _
    · exact .misuse _
  | length =>
    refine Scopeless.get.bind fun store => ?_
    split
    · exact .pure _
    · exact .misuse _
  | toList => exact (collect value).bind fun _ => .create rfl
  | window => exact .of_ties fun _ => .createWindow value
  | viewed => exact ownedFromWindow value

end Scopeless

end CowView.Live
