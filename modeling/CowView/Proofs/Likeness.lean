import CowView.Proofs.Contents

/-!
Copies that are like what they are copies of: the same simple contents in the same places, whether
objects are shared or not. A copy that is alike is equal.
-/

namespace CowView.Live

namespace Store

def Entrywise {α : Type} (related : Value → Value → Prop) (copies entries : List (α × Value)) : Prop :=
  List.Forall₂ (fun copy entry => copy.1 = entry.1 ∧ related copy.2 entry.2) copies entries

theorem Entrywise.source {α : Type} {related : Value → Value → Prop} {copies entries : List (α × Value)}
    (each : Entrywise related copies entries) :
    ∀ copy ∈ copies, ∃ entry ∈ entries, copy.1 = entry.1 := by
  induction each with
  | nil => exact fun _ member => nomatch member
  | cons both _ ih =>
    intro copy member
    rcases List.mem_cons.mp member with rfl | later
    · exact ⟨_, List.mem_cons_self, both.1⟩
    · obtain ⟨entry, present, same⟩ := ih copy later
      exact ⟨entry, List.mem_cons_of_mem _ present, same⟩

theorem Entrywise.names {α : Type} {related : Value → Value → Prop} {copies entries : List (α × Value)}
    (each : Entrywise related copies entries) : copies.map (·.1) = entries.map (·.1) := by
  induction each with
  | nil => rfl
  | cons both _ ih => rw [List.map_cons, List.map_cons, both.1, ih]

theorem Entrywise.values {α : Type} {related : Value → Value → Prop}
    {copies entries : List (α × Value)} (each : Entrywise related copies entries) :
    List.Forall₂ related (copies.map (·.2)) (entries.map (·.2)) := by
  rw [List.forall₂_map_left_iff, List.forall₂_map_right_iff]
  exact each.imp fun _ _ => And.right

inductive AlikeBy (store : Store) (part : Value → Value → Prop) : Value → Value → Prop
  | simple {value : Value} (simple : value.isSimple) : AlikeBy store part value value
  | bytearray {copy value : Value} {content : List UInt8}
    (held : store.object? copy = some (.bytearray content))
    (held' : store.object? value = some (.bytearray content)) : AlikeBy store part copy value
  | list {copy value : Value} {copies items : List Value}
    (held : store.object? copy = some (.list copies)) (held' : store.object? value = some (.list items))
    (each : List.Forall₂ part copies items) : AlikeBy store part copy value
  | tuple {copy value : Value} {copies items : List Value}
    (held : store.object? copy = some (.tuple copies))
    (held' : store.object? value = some (.tuple items)) (each : List.Forall₂ part copies items) :
    AlikeBy store part copy value
  | dict {copy value : Value} {copies entries : List (Value × Value)}
    (held : store.object? copy = some (.dict copies))
    (held' : store.object? value = some (.dict entries)) (keys : ∀ entry ∈ entries, store.Key entry.1)
    (distinct : entries.Pairwise fun entry other => store.sameKey entry.1 other.1 = false)
    (each : Entrywise part copies entries) : AlikeBy store part copy value
  | box {copy value inner content : Value} (held : store.object? copy = some (.box inner))
    (held' : store.object? value = some (.box content)) (inside : part inner content) :
    AlikeBy store part copy value
  | entity {copy value : Value} {kind : Kind} {copies attributes : List (String × Value)}
    {loaded : Loaded} {fields : List FieldView} (forms : store.units.Forms kind loaded fields)
    (held : store.object? copy = some (.entity (kind.onSide .source) copies))
    (held' : store.object? value = some (.entity (kind.onSide .source) attributes))
    (slots : attributes.map (·.1) = fields.map (·.slot)) (each : Entrywise part copies attributes) :
    AlikeBy store part copy value

def AlikeWithin (store : Store) : Nat → Value → Value → Prop
  | 0, _, _ => False
  | layers + 1, copy, value => store.AlikeBy (store.AlikeWithin layers) copy value

section

variable {store after : Store} {copy value : Value}

theorem AlikeBy.mono {part part' : Value → Value → Prop} (alike : store.AlikeBy part copy value)
    (parts : ∀ copy value, part copy value → part' copy value) : store.AlikeBy part' copy value := by
  cases alike with
  | simple simple => exact .simple simple
  | bytearray held held' => exact .bytearray held held'
  | list held held' each => exact .list held held' (each.imp parts)
  | tuple held held' each => exact .tuple held held' (each.imp parts)
  | dict held held' keys distinct each =>
    exact .dict held held' keys distinct (each.imp fun _ _ both => both.imp_right (parts _ _))
  | box held held' inside => exact .box held held' (parts _ _ inside)
  | entity forms held held' slots each =>
    exact .entity forms held held' slots (each.imp fun _ _ both => both.imp_right (parts _ _))

theorem AlikeBy.grows {part : Value → Value → Prop} (grows : store.Grows after)
    (alike : store.AlikeBy part copy value) : after.AlikeBy part copy value := by
  cases alike with
  | simple simple => exact .simple simple
  | bytearray held held' => exact .bytearray (grows.object? held) (grows.object? held')
  | list held held' each => exact .list (grows.object? held) (grows.object? held') each
  | tuple held held' each => exact .tuple (grows.object? held) (grows.object? held') each
  | dict held held' keys distinct each =>
    refine .dict (grows.object? held) (grows.object? held')
      (fun entry member => (keys entry member).grows grows) ?_ each
    refine distinct.imp_of_mem fun left right different => ?_
    rw [(keys _ left).sameKey (keys _ right) grows, different]
  | box held held' inside => exact .box (grows.object? held) (grows.object? held') inside
  | entity forms held held' slots each =>
    exact .entity (grows.units ▸ forms) (grows.object? held) (grows.object? held') slots each

theorem AlikeWithin.grows {layers : Nat} (grows : store.Grows after)
    (alike : store.AlikeWithin layers copy value) : after.AlikeWithin layers copy value := by
  induction layers generalizing copy value with
  | zero => exact alike
  | succ layers ih => exact AlikeBy.mono (AlikeBy.grows grows alike) fun _ _ => ih

theorem AlikeWithin.kindOf {layers : Nat} (alike : store.AlikeWithin layers copy value) :
    store.kindOf copy = store.kindOf value := by
  cases layers with
  | zero => exact alike.elim
  | succ layers =>
    cases alike with
    | simple => rfl
    | bytearray held held' | list held held' | tuple held held' | dict held held' | box held held'
    | entity forms held held' => exact (kindOf_of_object? held).trans (kindOf_of_object? held').symm

theorem BuiltWithin.alike {layers : Nat} (built : store.BuiltWithin layers value) :
    store.AlikeWithin layers value value := by
  induction layers generalizing value with
  | zero => exact built.elim
  | succ layers ih =>
    cases built with
    | simple simple => exact .simple simple
    | bytearray held => exact .bytearray held held
    | list held each => exact .list held held (List.forall₂_same.mpr fun item member => ih (each item member))
    | tuple held each =>
      exact .tuple held held (List.forall₂_same.mpr fun item member => ih (each item member))
    | dict held keys distinct each =>
      exact .dict held held keys distinct
        (List.forall₂_same.mpr fun entry member => ⟨rfl, ih (each entry member).2⟩)
    | box held inside => exact .box held held (ih inside)
    | entity forms held slots each =>
      exact .entity forms held held slots
        (List.forall₂_same.mpr fun entry member => ⟨rfl, ih (each entry member)⟩)

end

end Store

/-! ### Equality -/

section

theorem plainEqual_bytearray {store : Store} {copy value : Value} {content : List UInt8}
    (held : store.object? copy = some (.bytearray content))
    (held' : store.object? value = some (.bytearray content)) :
    store.plainEqual copy value = true := by
  cases copy with
  | object place =>
    cases value with
    | object address =>
      simp [Store.plainEqual, Value.number?, Store.buffer?, held, held', Store.kindOf_of_object? held,
        Store.kindOf_of_object? held', Object.kind]
    | _ => cases held'
  | _ => cases held

variable {store : Store} {equal : Value → Value → Run Bool}

theorem itemsEqual_of_alike {copies items : List Value}
    (each : List.Forall₂ (fun copy item => equal copy item store = .ok true store) copies items) :
    itemsEqual equal copies items store = .ok true store := by
  induction each with
  | nil => rfl
  | cons same rest ih =>
    rw [itemsEqual]
    split
    · exact ih
    · rw [bind_of_ok same]
      exact ih

theorem valueAt?_of_entrywise {related : Value → Value → Prop} {copies entries : List (Value × Value)}
    (keys : ∀ entry ∈ entries, store.Key entry.1)
    (distinct : entries.Pairwise fun entry other => store.sameKey entry.1 other.1 = false)
    (each : Store.Entrywise related copies entries) : ∀ copy ∈ copies,
      ∃ value, store.valueAt? entries copy.1 = some value ∧ related copy.2 value := by
  unfold Store.valueAt?
  induction each with
  | nil => exact fun _ member => nomatch member
  | @cons first entry copies entries both rest ih =>
    intro copy member
    rw [List.pairwise_cons] at distinct
    rcases List.mem_cons.mp member with rfl | later
    · have same : store.sameKey entry.1 copy.1 = true := by
        rw [both.1]
        exact (keys entry List.mem_cons_self).sameKey_self
      exact ⟨entry.2, by simp [same], both.2⟩
    · obtain ⟨value, found, alike⟩ := ih (fun entry member => keys entry (List.mem_cons_of_mem _ member))
        distinct.2 copy later
      refine ⟨value, ?_, alike⟩
      have different : store.sameKey entry.1 copy.1 = false := by
        obtain ⟨other, present, same⟩ := Store.Entrywise.source rest copy later
        rw [same]
        exact distinct.1 other present
      simpa [different] using found

theorem entriesEqual_of_alike {copies entries : List (Value × Value)}
    (each : ∀ copy ∈ copies, ∃ value, store.valueAt? entries copy.1 = some value ∧
      equal copy.2 value store = .ok true store) :
    entriesEqual equal entries copies store = .ok true store := by
  induction copies with
  | nil => rfl
  | cons first rest ih =>
    obtain ⟨key, content⟩ := first
    obtain ⟨value, found, same⟩ := each (key, content) List.mem_cons_self
    have others := ih fun copy member => each copy (List.mem_cons_of_mem _ member)
    rw [entriesEqual, get_bind]
    simp only [found]
    split
    · exact others
    · rw [bind_of_ok same]
      exact others

theorem attributeValues_self {attributes : List (String × Value)}
    (distinct : (attributes.map (·.1)).Nodup) :
    attributeValues (attributes.map (·.1)) attributes = attributes.map (·.2) := by
  unfold attributeValues
  induction attributes with
  | nil => rfl
  | cons first rest ih =>
    rw [List.map_cons, List.nodup_cons] at distinct
    have others : ∀ name ∈ rest.map (·.1), ((first :: rest).lookup name).getD .none =
        (rest.lookup name).getD .none := by
      intro name member
      have different : name ≠ first.1 := by
        rintro rfl
        exact distinct.1 member
      rw [List.lookup_cons, beq_eq_false_iff_ne.mpr different]
    rw [List.map_cons, List.map_cons, List.map_cons, List.lookup_cons_self, Option.getD_some,
      List.map_congr_left others, ih distinct.2]

theorem equalWithin_of_alike (named : store.units.WellNamed) {layers steps : Nat} {copy value : Value}
    (alike : store.AlikeWithin layers copy value) (enough : layers ≤ steps) :
    equalWithin steps copy value store = .ok true store := by
  induction layers generalizing steps copy value with
  | zero => exact alike.elim
  | succ layers ih =>
    obtain ⟨steps, rfl⟩ : ∃ less, steps = less + 1 := ⟨steps - 1, by omega⟩
    have parts {copy value : Value} (alike : store.AlikeWithin layers copy value) :
        equalWithin steps copy value store = .ok true store := ih alike (by omega)
    rw [equalWithin, get_bind]
    cases alike with
    | simple simple =>
      simp only [Store.object?_simple simple, Store.plainEqual_self simple]
      rfl
    | bytearray held held' =>
      simp only [held, held', Object.isCow, Bool.false_and]
      rw [plainEqual_bytearray held held']
      rfl
    | list held held' each =>
      simp only [held, held', each.length_eq, if_true]
      exact itemsEqual_of_alike (each.imp fun _ _ => parts)
    | tuple held held' each =>
      simp only [held, held']
      exact itemsEqual_of_alike (each.imp fun _ _ => parts)
    | dict held held' keys distinct each =>
      simp only [held, held', each.length_eq, if_true]
      refine entriesEqual_of_alike fun copy member => ?_
      obtain ⟨value, found, alike⟩ := valueAt?_of_entrywise keys distinct each copy member
      exact ⟨value, found, parts alike⟩
    | box held held' inside =>
      simp only [held, held']
      exact parts inside
    | @entity _ kind copies attributes loaded fields forms held held' slots each =>
      have distinct : (attributes.map (·.1)).Nodup := by
        rw [slots]
        exact forms.distinct (forms.named named)
      have own : store.units.slots (kind.onSide .source) = attributes.map (·.1) := by
        rw [Units.slots, (forms.onSide .source).fields_eq, slots]
      have copied : attributeValues (attributes.map (·.1)) copies = copies.map (·.2) := by
        rw [← each.names, attributeValues_self (each.names ▸ distinct)]
      have equal : itemsEqual (equalWithin steps)
          (attributeValues (store.units.slots (kind.onSide .source)) copies)
          (attributeValues (store.units.slots (kind.onSide .source)) attributes) store =
            .ok true store := by
        rw [own, copied, attributeValues_self distinct]
        exact itemsEqual_of_alike (each.values.imp fun _ _ => parts)
      simp only [held, held', ne_eq, not_true_eq_false, if_false]
      cases forms with
      | record => exact equal
      | variant => exact equal

end

end CowView.Live
