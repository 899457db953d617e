import CowView.Proofs.Layers
import CowView.Proofs.Members

/-!
Values that are built in finitely many layers of plain contents: simple values, bytes that can change,
lists, tuples, dictionaries, boxes and instances of declared kinds.
-/

namespace CowView.Live

def Value.isSimple : Value → Bool
  | none | bool _ | int _ | text _ | bytes _ => true
  | _ => false

namespace Store

inductive Key (store : Store) : Value → Prop
  | simple {value : Value} (simple : value.isSimple) : Key store value
  | tuple {value : Value} {items : List Value} (held : store.object? value = some (.tuple items))
    (each : ∀ item ∈ items, Key store item) : Key store value

def Meets (store : Store) (strategy : Strategy) (content : Value) : Prop :=
  match strategy with
  | .regular | .copy => True
  | .flatten => (∃ letters, content = .text letters) ∨ (∃ held, content = .bytes held) ∨
      ∃ held, store.object? content = some (.bytearray held)
  | .unbox => ∃ inner, store.object? content = some (.box inner)
  | .nested => ∃ kind attributes, store.object? content = some (.entity kind attributes)

/-- A layer of plain contents over the parts that a value has. The keys of a dictionary differ, and the
contents of the fields of an instance suit their strategies. -/
inductive Built (store : Store) (part : Value → Prop) : Value → Prop
  | simple {value : Value} (simple : value.isSimple) : Built store part value
  | bytearray {value : Value} {content : List UInt8}
    (held : store.object? value = some (.bytearray content)) : Built store part value
  | list {value : Value} {items : List Value} (held : store.object? value = some (.list items))
    (each : ∀ item ∈ items, part item) : Built store part value
  | tuple {value : Value} {items : List Value} (held : store.object? value = some (.tuple items))
    (each : ∀ item ∈ items, part item) : Built store part value
  | dict {value : Value} {entries : List (Value × Value)}
    (held : store.object? value = some (.dict entries))
    (keys : ∀ entry ∈ entries, store.Key entry.1)
    (distinct : entries.Pairwise fun entry other => store.sameKey entry.1 other.1 = false)
    (each : ∀ entry ∈ entries, part entry.1 ∧ part entry.2) : Built store part value
  | box {value content : Value} (held : store.object? value = some (.box content))
    (inside : part content) : Built store part value
  | entity {value : Value} {kind : Kind} {attributes : List (String × Value)} {loaded : Loaded}
    {fields : List FieldView} (forms : store.units.Forms kind loaded fields)
    (held : store.object? value = some (.entity (kind.onSide .source) attributes))
    (slots : attributes.map (·.1) = fields.map (·.slot))
    (each : ∀ entry ∈ attributes, part entry.2)
    (meets : ∀ field ∈ fields, ∀ content, attributes.lookup field.slot = some content →
      store.Meets field.field.strategy content) : Built store part value

def BuiltWithin (store : Store) : Nat → Value → Prop
  | 0, _ => False
  | layers + 1, value => store.Built (store.BuiltWithin layers) value

/-- Values that are built of plain contents, in any number of layers. -/
def Plain (store : Store) (value : Value) : Prop := ∃ layers, store.BuiltWithin layers value

section

variable {store after : Store} {value : Value}

theorem Built.mono {part part' : Value → Prop} (built : store.Built part value)
    (parts : ∀ value, part value → part' value) : store.Built part' value := by
  cases built with
  | simple simple => exact .simple simple
  | bytearray held => exact .bytearray held
  | list held each => exact .list held fun item member => parts _ (each item member)
  | tuple held each => exact .tuple held fun item member => parts _ (each item member)
  | dict held keys distinct each =>
    exact .dict held keys distinct fun entry member => (each entry member).imp (parts _) (parts _)
  | box held inside => exact .box held (parts _ inside)
  | entity forms held slots each meets =>
    exact .entity forms held slots (fun entry member => parts _ (each entry member)) meets

/-! ### The number of layers -/

theorem builtWithin_eq (store : Store) (layers : Nat) (value : Value) :
    store.BuiltWithin layers value = Layered store.Built layers value := by
  induction layers generalizing value with
  | zero => rfl
  | succ layers ih =>
    have parts : store.BuiltWithin layers = Layered store.Built layers := funext ih
    rw [BuiltWithin, Layered, parts]

theorem layering (store : Store) : Layering store.Built store.objects.size := by
  refine ⟨fun parts built => built.mono parts, fun built thick => ?_⟩
  cases built with
  | simple simple => exact absurd (Built.simple simple) thick
  | bytearray held => exact address_of_object? held
  | list held => exact address_of_object? held
  | tuple held => exact address_of_object? held
  | dict held => exact address_of_object? held
  | box held => exact address_of_object? held
  | entity _ held => exact address_of_object? held

theorem BuiltWithin.mono {few many : Nat} (fewer : few ≤ many) (built : store.BuiltWithin few value) :
    store.BuiltWithin many value := by
  rw [builtWithin_eq] at built ⊢
  exact Layered.mono store.layering fewer built

theorem Plain.within (plain : store.Plain value) :
    store.BuiltWithin (store.objects.size + 1) value := by
  obtain ⟨layers, built⟩ := plain
  rw [builtWithin_eq] at built ⊢
  exact built.within store.layering

/-! ### Keys -/

theorem object?_simple (simple : value.isSimple) : store.object? value = none := by
  cases value <;> first | rfl | cases simple

theorem Meets.grows {strategy : Strategy} (grows : store.Grows after)
    (meets : store.Meets strategy value) : after.Meets strategy value := by
  cases strategy with
  | regular => exact trivial
  | copy => exact trivial
  | flatten =>
    exact meets.imp_right (Or.imp_right fun held => held.imp fun _ found => grows.object? found)
  | unbox => exact meets.imp fun _ found => grows.object? found
  | nested => exact meets.imp fun _ held => held.imp fun _ found => grows.object? found

/-- Whatever object a plain value is, all that it holds is a layer further in. -/
theorem Built.parts {part : Value → Prop} {object : Object} (built : store.Built part value)
    (held : store.object? value = some object) : ∀ inner ∈ object.parts, part inner := by
  have same {found : Object} (held' : store.object? value = some found) : object = found := by
    rw [held] at held'
    exact Option.some.inj held'
  cases built with
  | simple simple =>
    rw [object?_simple simple] at held
    cases held
  | bytearray held' =>
    obtain rfl := same held'
    exact fun inner member => nomatch member
  | list held' each | tuple held' each =>
    obtain rfl := same held'
    exact each
  | dict held' _ _ each =>
    obtain rfl := same held'
    intro inner member
    obtain ⟨entry, present, inside⟩ := List.mem_flatMap.mp member
    rcases List.mem_pair.mp inside with rfl | rfl
    · exact (each entry present).1
    · exact (each entry present).2
  | box held' inside =>
    obtain rfl := same held'
    intro inner member
    obtain rfl := List.mem_singleton.mp member
    exact inside
  | entity _ held' _ each =>
    obtain rfl := same held'
    intro inner member
    obtain ⟨entry, present, rfl⟩ := List.mem_map.mp member
    exact each entry present

theorem Key.not_object {address : Address} {object : Object}
    (held : store.object? (.object address) = some object) (other : ∀ items, object ≠ .tuple items) :
    ¬ store.Key (.object address) := by
  intro key
  cases key with
  | simple simple => cases simple
  | tuple held' =>
    rw [held] at held'
    cases held'
    exact other _ rfl

theorem Key.items {items : List Value} (key : store.Key value)
    (held : store.object? value = some (.tuple items)) : ∀ item ∈ items, store.Key item := by
  cases key with
  | simple simple =>
    rw [object?_simple simple] at held
    cases held
  | tuple held' each =>
    rw [held] at held'
    cases held'
    exact each

theorem Key.built (key : store.Key value) : store.Plain value := by
  induction key with
  | simple simple => exact ⟨1, .simple simple⟩
  | @tuple value items held each ih =>
    have bound : ∀ some_ : List Value, (∀ item ∈ some_, store.Plain item) →
        ∃ layers, ∀ item ∈ some_, store.BuiltWithin layers item := by
      intro some_
      induction some_ with
      | nil => exact fun _ => ⟨0, fun _ member => nomatch member⟩
      | cons first rest more =>
        intro plain
        obtain ⟨layers, built⟩ := plain first List.mem_cons_self
        obtain ⟨others, rest'⟩ := more fun item member => plain item (List.mem_cons_of_mem first member)
        refine ⟨max layers others, fun item member => ?_⟩
        rcases List.mem_cons.mp member with rfl | later
        · exact built.mono (Nat.le_max_left _ _)
        · exact (rest' item later).mono (Nat.le_max_right _ _)
    obtain ⟨layers, parts⟩ := bound items ih
    exact ⟨layers + 1, .tuple held parts⟩

theorem Key.grows (grows : store.Grows after) (key : store.Key value) : after.Key value := by
  induction key with
  | simple simple => exact .simple simple
  | tuple held _ ih => exact .tuple (grows.object? held) ih

theorem Key.buffer? (key : store.Key value) : store.buffer? value = match value with
    | .bytes content => some content
    | _ => none := by
  cases key with
  | simple simple => cases value <;> first | rfl | cases simple
  | tuple held =>
    cases value with
    | object address => simp [Store.buffer?, held]
    | _ => cases held

/-- Whether two keys are equal as plain values can be seen from the keys themselves. -/
theorem Key.plainEqual {other : Value} (key : store.Key value) (key' : store.Key other)
    (grows : store.Grows after) : after.plainEqual value other = store.plainEqual value other := by
  have kinds (content : List UInt8) : after.kindOf (.bytes content) = store.kindOf (.bytes content) := rfl
  unfold Store.plainEqual
  rw [key.buffer?, key'.buffer?, (key.grows grows).buffer?, (key'.grows grows).buffer?]
  cases value with
  | bytes content => cases other with
    | bytes => rw [kinds, kinds]
    | _ => rfl
  | _ => rfl

theorem plainEqual_self (simple : value.isSimple) : store.plainEqual value value = true := by
  cases value with
  | bytes content => simp [Store.plainEqual, Value.number?, Store.buffer?, Store.object?, Store.kindOf]
  | none | bool _ | int _ | text _ => simp [Store.plainEqual, Value.number?, Store.buffer?, Store.object?]
  | _ => cases simple

/-- Two keys count as the same in all later stores, or in none. -/
theorem Key.sameKeyWithin (grows : store.Grows after) {layers many few : Nat} {other : Value}
    (built : store.BuiltWithin layers value) (key : store.Key value) (key' : store.Key other)
    (le : layers ≤ many) (le' : layers ≤ few) :
    after.sameKeyWithin many value other = store.sameKeyWithin few value other := by
  induction layers generalizing value other many few with
  | zero => exact built.elim
  | succ layers ih =>
    obtain ⟨many, rfl⟩ : ∃ less, many = less + 1 := ⟨many - 1, by omega⟩
    obtain ⟨few, rfl⟩ : ∃ less, few = less + 1 := ⟨few - 1, by omega⟩
    have plain := key.plainEqual key' grows
    cases key with
    | simple simple =>
      rw [Store.sameKeyWithin, Store.sameKeyWithin, object?_simple simple, object?_simple simple]
      exact plain
    | @tuple _ items held each =>
      have parts := Built.parts built held
      cases key' with
      | simple simple =>
        rw [Store.sameKeyWithin, Store.sameKeyWithin, object?_simple simple, object?_simple simple, held,
          grows.object? held]
        exact plain
      | @tuple _ others held' each' =>
        rw [Store.sameKeyWithin, Store.sameKeyWithin, held, held', grows.object? held,
          grows.object? held']
        dsimp only
        congr 1
        rw [Bool.eq_iff_iff, List.all_eq_true, List.all_eq_true]
        have same : ∀ pair ∈ items.zip others, after.sameKeyWithin many pair.1 pair.2 =
            store.sameKeyWithin few pair.1 pair.2 := by
          rintro ⟨item, other⟩ member
          obtain ⟨left, right⟩ := List.of_mem_zip member
          exact ih (parts item left) (each item left) (each' other right) (by omega) (by omega)
        exact forall₂_congr fun pair member => by rw [same pair member]

theorem Key.sameKey {other : Value} (key : store.Key value) (key' : store.Key other)
    (grows : store.Grows after) : after.sameKey value other = store.sameKey value other := by
  have le := grows.size_le
  exact sameKeyWithin grows key.built.within key key' (by omega) (Nat.le_refl _)

theorem Key.sameKeyWithin_self {layers : Nat} (built : store.BuiltWithin layers value)
    (key : store.Key value) : store.sameKeyWithin layers value value = true := by
  induction layers generalizing value with
  | zero => exact built.elim
  | succ layers ih =>
    cases key with
    | simple simple =>
      rw [Store.sameKeyWithin, object?_simple simple]
      exact plainEqual_self simple
    | @tuple _ items held each =>
      have parts := Built.parts built held
      rw [Store.sameKeyWithin, held]
      dsimp only
      rw [decide_eq_true rfl, Bool.true_and, List.all_eq_true]
      rintro ⟨item, other⟩ member
      obtain ⟨left, -⟩ := List.of_mem_zip member
      obtain rfl : item = other := by
        obtain ⟨index, inside, at_⟩ := List.mem_iff_getElem.mp member
        simp only [List.getElem_zip, Prod.mk.injEq] at at_
        exact at_.1.symm.trans at_.2
      exact ih (parts item left) (each item left)

theorem Key.sameKey_self (key : store.Key value) : store.sameKey value value = true :=
  sameKeyWithin_self key.built.within key

/-! ### Later stores -/

theorem Built.grows {part part' : Value → Prop} (grows : store.Grows after)
    (built : store.Built part value) (parts : ∀ value, part value → part' value) :
    after.Built part' value := by
  cases built with
  | simple simple => exact .simple simple
  | bytearray held => exact .bytearray (grows.object? held)
  | list held each => exact .list (grows.object? held) fun item member => parts _ (each item member)
  | tuple held each => exact .tuple (grows.object? held) fun item member => parts _ (each item member)
  | dict held keys distinct each =>
    refine .dict (grows.object? held) (fun entry member => (keys entry member).grows grows) ?_
      fun entry member => (each entry member).imp (parts _) (parts _)
    refine distinct.imp_of_mem fun left right different => ?_
    rw [(keys _ left).sameKey (keys _ right) grows, different]
  | box held inside => exact .box (grows.object? held) (parts _ inside)
  | entity forms held slots each meets =>
    refine .entity (grows.units ▸ forms) (grows.object? held) slots
      (fun entry member => parts _ (each entry member)) fun field member content found => ?_
    exact (meets field member content found).grows grows

theorem Built.held {part : Value → Prop} {object : Object} (built : store.Built part value)
    (grows : store.Grows after) (later : after.object? value = some object) :
    store.object? value = some object := by
  cases built with
  | simple simple =>
    rw [object?_simple simple] at later
    cases later
  | bytearray held | list held | tuple held | dict held | box held | entity _ held =>
    rw [held, ← grows.object? held, later]

theorem BuiltWithin.grows {layers : Nat} (grows : store.Grows after)
    (built : store.BuiltWithin layers value) : after.BuiltWithin layers value := by
  induction layers generalizing value with
  | zero => exact built
  | succ layers ih => exact Built.grows grows built fun _ inner => ih inner

theorem Plain.grows (grows : store.Grows after) (plain : store.Plain value) : after.Plain value :=
  plain.imp fun _ built => built.grows grows

end

end Store

end CowView.Live
