import CowView.Proofs.Likeness
import CowView.Proofs.Passages

/-!
Making instances. An instance whose attributes are all given by name has just these attributes, and the
variant of a discriminant is the one with its name.
-/

namespace CowView.Live

/-! ### Attributes by name -/

section

variable {entries : List (String × Value)}

theorem lookup_of_mem (distinct : (entries.map (·.1)).Nodup) :
    ∀ entry ∈ entries, entries.lookup entry.1 = some entry.2 := by
  induction entries with
  | nil => exact fun _ member => nomatch member
  | cons first rest ih =>
    rw [List.map_cons, List.nodup_cons] at distinct
    intro entry member
    rcases List.mem_cons.mp member with rfl | later
    · exact List.lookup_cons_self
    · have different : entry.1 ≠ first.1 := by
        intro same
        exact distinct.1 (same ▸ List.mem_map_of_mem later)
      rw [List.lookup_cons, beq_eq_false_iff_ne.mpr different]
      exact ih distinct.2 entry later

/-- Every parameter finds its value among the arguments by name. -/
theorem bindValues_named (named : List (String × Value)) :
    ∀ parameters : List (String × Option Member),
      (∀ parameter ∈ parameters, (named.lookup parameter.1).isSome) →
        bindValues parameters [] named =
          some ((attributeValues (parameters.map (·.1)) named).map .constant) := by
  intro parameters
  induction parameters with
  | nil => exact fun _ => rfl
  | cons first rest ih =>
    intro all
    obtain ⟨name, preset⟩ := first
    obtain ⟨value, found⟩ := Option.isSome_iff_exists.mp (all (name, preset) List.mem_cons_self)
    have others := ih fun parameter member => all parameter (List.mem_cons_of_mem _ member)
    simp [bindValues, found, others, attributeValues]

theorem bind_named {parameters : List (String × Option Member)} (kind : Kind) (distinct : (entries.map (·.1)).Nodup)
    (same : entries.map (·.1) = parameters.map (·.1)) (store : Store) :
    Arguments.bind ⟨[], entries⟩ kind parameters store = .ok (entries.map (·.2)) store := by
  have known : entries.all fun entry => parameters.any (·.1 = entry.1) := by
    rw [List.all_eq_true]
    intro entry member
    have inside : entry.1 ∈ parameters.map (·.1) := same ▸ List.mem_map_of_mem member
    obtain ⟨parameter, present, name⟩ := List.mem_map.mp inside
    exact List.any_eq_true.mpr ⟨parameter, present, by simpa using name⟩
  have all : ∀ parameter ∈ parameters, (entries.lookup parameter.1).isSome := by
    intro parameter member
    have inside : parameter.1 ∈ entries.map (·.1) := same ▸ List.mem_map_of_mem member
    obtain ⟨entry, present, name⟩ := List.mem_map.mp inside
    rw [← name, lookup_of_mem distinct entry present]
    rfl
  have read (values : List Value) :
      (values.map Member.constant).mapM (·.onKind kind) store = .ok values store := by
    induction values with
    | nil => rfl
    | cons first rest ih =>
      rw [List.map_cons, mapM_cons_apply, bind_of_ok (show (Member.constant first).onKind kind store = _ from rfl),
        bind_of_ok ih]
      rfl
  unfold Arguments.bind
  rw [if_pos known, bindValues_named entries parameters all, ← same, attributeValues_self distinct]
  exact read _

/-! ### Attributes, field by field -/

variable {fields : List FieldView}

theorem slots_of_each {related : FieldView → String × Value → Prop}
    (each : List.Forall₂ (fun field entry => entry.1 = field.slot ∧ related field entry) fields entries) :
    entries.map (·.1) = fields.map (·.slot) := by
  induction each with
  | nil => rfl
  | cons both _ ih => rw [List.map_cons, List.map_cons, both.1, ih]

/-- The attribute of a field, among attributes that are one for each field. -/
theorem lookup_of_each {related : FieldView → String × Value → Prop}
    (each : List.Forall₂ (fun field entry => entry.1 = field.slot ∧ related field entry) fields entries)
    (distinct : (fields.map (·.slot)).Nodup) : ∀ field ∈ fields,
      ∃ output, entries.lookup field.slot = some output ∧ related field (field.slot, output) := by
  have names : (entries.map (·.1)).Nodup := by rwa [slots_of_each each]
  intro field member
  obtain ⟨entry, present, name, holds⟩ : ∃ entry ∈ entries, entry.1 = field.slot ∧ related field entry := by
    clear names distinct
    induction each with
    | nil => cases member
    | cons both _ ih =>
      rcases List.mem_cons.mp member with rfl | later
      · exact ⟨_, List.mem_cons_self, both⟩
      · obtain ⟨entry, present, both'⟩ := ih later
        exact ⟨entry, List.mem_cons_of_mem _ present, both'⟩
  refine ⟨entry.2, ?_, name ▸ holds⟩
  rw [← name]
  exact lookup_of_mem names entry present

end

section

variable {store : Store} {kind : Kind} {loaded : Loaded} {fields : List FieldView}

/-- A new instance, on either side, with all its attributes given by name. -/
theorem construct_declared (forms : store.units.Forms kind loaded fields) (named : store.units.WellNamed)
    (free : ∀ field ∈ fields, field.slot ∉ kind.asked) (side : Side) {entries : List (String × Value)}
    (slots : entries.map (·.1) = fields.map (·.slot)) :
    construct (kind.onSide side) ⟨[], entries⟩ store =
      .ok store.next (store.put (.entity (kind.onSide side) entries)) := by
  have distinct : (entries.map (·.1)).Nodup := by
    rw [slots]
    exact forms.distinct (forms.named named)
  have own : store.units.slots (kind.onSide side) = fields.map (·.slot) := by
    rw [Units.slots, (forms.onSide side).fields_eq]
  have parameters : entries.map (·.1) = (store.units.parameters (kind.onSide side)).map (·.1) := by
    rw [Units.parameters, own, List.map_map, slots]
    exact (List.map_id' _).symm
  have uncomputed : ¬ (fields.map (·.slot)).any (store.isComputed (kind.onSide side)) := by
    intro computed
    obtain ⟨slot, member, computed⟩ := List.any_eq_true.mp computed
    obtain ⟨field, present, rfl⟩ := List.mem_map.mp member
    unfold Store.isComputed at computed
    split at computed
    next property known => exact kindMember?_ne_property forms (free field present) side property known
    · cases computed
  have whole : (entries.map (·.1)).zip (entries.map (·.2)) = entries := by
    rw [List.zip_map']
    exact List.map_id' _
  have made : (do
      let values ← Arguments.bind ⟨[], entries⟩ (kind.onSide side) (store.units.parameters (kind.onSide side))
      if (store.units.slots (kind.onSide side)).any (store.isComputed (kind.onSide side)) then misuse .noMember
      else create (.entity (kind.onSide side) ((store.units.slots (kind.onSide side)).zip values))) store =
        .ok store.next (store.put (.entity (kind.onSide side) entries)) := by
    rw [bind_of_ok (bind_named _ distinct parameters store), own, if_neg uncomputed, ← slots, whole]
    rfl
  cases forms with
  | record => exact made
  | variant => exact made

theorem variantOf_apply {variants : List VariantView} (distinct : (variants.map (·.variant.name)).Nodup)
    {variant : VariantView} (member : variant ∈ variants) (store : Store) :
    variantOf (.text variant.variant.name) variants store = .ok (some variant) store := by
  have equal (name : String) : equal (.text variant.variant.name) (.text name) store =
      .ok (decide (variant.variant.name = name)) store := by
    show EStateM.Result.ok (store.plainEqual (.text variant.variant.name) (.text name)) store = _
    simp [Store.plainEqual, Value.number?, Store.buffer?, Store.object?]
  induction variants with
  | nil => cases member
  | cons first rest ih =>
    rw [List.map_cons, List.nodup_cons] at distinct
    rw [variantOf, bind_of_ok (equal first.variant.name)]
    rcases List.mem_cons.mp member with rfl | later
    · simp only [decide_true, if_true]
      rfl
    · have different : variant.variant.name ≠ first.variant.name := by
        intro same
        exact distinct.1 (same ▸ List.mem_map_of_mem later)
      simp only [different, decide_false]
      exact ih distinct.2 later

end

/-! ### Instances in instances -/

inductive Store.InstanceLayer (store : Store) (fits : Strategy → Value → Prop) (part : Value → Prop) (value : Value) :
    Prop
  | intro {kind : Kind} {loaded : Loaded} {fields : List FieldView} {attributes : List (String × Value)}
    (forms : store.units.Forms kind loaded fields)
    (held : store.object? value = some (.entity (kind.onSide .source) attributes))
    (slots : attributes.map (·.1) = fields.map (·.slot))
    (nested : ∀ field ∈ fields, ∀ content, attributes.lookup field.slot = some content →
      field.field.strategy = .nested → part content)
    (flat : ∀ field ∈ fields, ∀ content, attributes.lookup field.slot = some content →
      field.field.strategy ≠ .nested → fits field.field.strategy content)

namespace Store.InstanceLayer

variable {store : Store} {fits : Strategy → Value → Prop} {part : Value → Prop} {value : Value}

theorem layering (store : Store) (fits : Strategy → Value → Prop) :
    Layering (store.InstanceLayer fits) store.objects.size := by
  refine ⟨fun parts layer => ?_, fun layer _ => ?_⟩
  · obtain ⟨forms, held, slots, nested, flat⟩ := layer
    exact ⟨forms, held, slots, fun field member content own is => parts _ (nested field member content own is), flat⟩
  · obtain ⟨-, held⟩ := layer
    exact address_of_object? held

theorem within (layered : ∃ layers, Layered (store.InstanceLayer fits) layers value) :
    Layered (store.InstanceLayer fits) (store.objects.size + 1) value := by
  obtain ⟨layers, layered⟩ := layered
  exact layered.within (layering store fits)

theorem parts {kind : Kind} {loaded : Loaded} {fields : List FieldView} {attributes : List (String × Value)}
    (layer : store.InstanceLayer fits part value) (forms : store.units.Forms kind loaded fields)
    (held : store.object? value = some (.entity (kind.onSide .source) attributes)) :
    attributes.map (·.1) = fields.map (·.slot) ∧
      (∀ field ∈ fields, ∀ content, attributes.lookup field.slot = some content →
        field.field.strategy = .nested → part content) ∧
      ∀ field ∈ fields, ∀ content, attributes.lookup field.slot = some content →
        field.field.strategy ≠ .nested → fits field.field.strategy content := by
  obtain @⟨kind', _, fields', _, forms', held', slots, nested, flat⟩ := layer
  rw [held] at held'
  obtain ⟨same, rfl⟩ : kind.onSide .source = kind'.onSide .source ∧ attributes = _ := by simpa using held'
  obtain rfl : fields = fields' := by
    rw [← (forms.onSide .source).fields_eq, ← (forms'.onSide .source).fields_eq, same]
  exact ⟨slots, nested, flat⟩

end Store.InstanceLayer

end CowView.Live
