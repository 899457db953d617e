import CowView.Live.Dispatch
import Mathlib.Data.List.Forall2

/-!
Runs that only add objects to the store. `Grows` relates the stores before and after such a run: what
was known of the objects there stays true. A run is taken apart with `bind_eq_ok`, and put together
with `bind_of_ok`.
-/

namespace CowView.Live

/-! ### Sequences of runs -/

section

variable {α β : Type} {run : Run α} {next : α → Run β} {store between after : Store}

theorem bind_of_ok {found : α} (first : run store = .ok found between) :
    (run >>= next) store = next found between := by
  show EStateM.bind run next store = _
  rw [EStateM.bind, first]

theorem bind_of_error {failure : Failure} (first : run store = .error failure between) :
    (run >>= next) store = .error failure between := by
  show EStateM.bind run next store = _
  rw [EStateM.bind, first]

theorem bind_eq_ok {value : β} (ran : (run >>= next) store = .ok value after) :
    ∃ found between, run store = .ok found between ∧ next found between = .ok value after := by
  change EStateM.bind run next store = _ at ran
  unfold EStateM.bind at ran
  split at ran
  next found between first => exact ⟨found, between, first, ran⟩
  · cases ran

theorem get_bind {next : Store → Run β} : ((get : Run Store) >>= next) store = next store store := rfl

end

/-! ### Stores that grow -/

def Object.isPointer : Object → Bool
  | cow | owned _ | borrowed .. | cowIter .. | scope .. => true
  | _ => false

namespace Store

def put (store : Store) (object : Object) : Store :=
  { store with objects := store.objects.push object }

def next (store : Store) : Value := .object store.objects.size

/-- The later store has all objects of the earlier one, and the same units and conversions. -/
structure Grows (before after : Store) : Prop where
  objects : ∀ (address : Address) (object : Object),
    before.objects[address]? = some object → after.objects[address]? = some object
  units : after.units = before.units
  owners : after.owners = before.owners
  targets : after.targets = before.targets

namespace Grows

variable {before between after : Store}

theorem refl (store : Store) : store.Grows store := ⟨fun _ _ => id, rfl, rfl, rfl⟩

theorem trans (first : before.Grows between) (second : between.Grows after) :
    before.Grows after :=
  ⟨fun _ _ found => second.objects _ _ (first.objects _ _ found),
    second.units.trans first.units, second.owners.trans first.owners,
    second.targets.trans first.targets⟩

theorem put (store : Store) (object : Object) : store.Grows (store.put object) := by
  refine ⟨fun address other found => ?_, rfl, rfl, rfl⟩
  obtain ⟨inside, -⟩ := Array.getElem?_eq_some_iff.mp found
  rw [Store.put, Array.getElem?_push, if_neg (Nat.ne_of_lt inside), found]

theorem object? (grows : before.Grows after) {value : Value} {object : Object}
    (found : before.object? value = some object) : after.object? value = some object := by
  cases value with
  | object address => exact grows.objects _ _ found
  | _ => cases found

theorem kindOf (grows : before.Grows after) {value : Value} {object : Object}
    (found : before.object? value = some object) : after.kindOf value = before.kindOf value := by
  cases value with
  | object address =>
    have same : before.objects[address]? = some object := found
    rw [Store.kindOf, Store.kindOf, same, grows.objects _ _ same]
  | _ => cases found

theorem size_le (grows : before.Grows after) : before.objects.size ≤ after.objects.size := by
  by_cases empty : before.objects.size = 0
  · omega
  · have last : before.objects.size - 1 < before.objects.size := by omega
    have found := grows.objects _ _ (Array.getElem?_eq_getElem last)
    obtain ⟨inside, -⟩ := Array.getElem?_eq_some_iff.mp found
    omega

theorem write {before after : Store} (grows : before.Grows after) {place : Address}
    (fresh : before.objects.size ≤ place) (object : Object) :
    before.Grows { after with objects := after.objects.setIfInBounds place object } := by
  refine ⟨fun address known found => ?_, grows.units, grows.owners, grows.targets⟩
  obtain ⟨inside, -⟩ := Array.getElem?_eq_some_iff.mp found
  have different : place ≠ address := by
    rintro rfl
    omega
  simpa [Array.getElem?_setIfInBounds, different] using grows.objects address known found

end Grows

def Creates (sort : Object → Prop) (before after : Store) : Prop :=
  ∀ (address : Address) (object : Object), before.objects.size ≤ address →
    after.objects[address]? = some object → sort object

structure Adds (sort : Object → Prop) (before after : Store) : Prop where
  grows : before.Grows after
  new : before.Creates sort after

namespace Adds

variable {sort : Object → Prop} {before between after : Store}

theorem of_same (grows : before.Grows after) (same : after.objects = before.objects) : before.Adds sort after := by
  refine ⟨grows, fun address object outside found => ?_⟩
  obtain ⟨inside, -⟩ := Array.getElem?_eq_some_iff.mp (same ▸ found)
  omega

theorem refl (store : Store) : store.Adds sort store := of_same (.refl store) rfl

theorem trans (first : before.Adds sort between) (second : between.Adds sort after) : before.Adds sort after := by
  refine ⟨first.grows.trans second.grows, fun address object outside found => ?_⟩
  by_cases inside : address < between.objects.size
  · have known := Array.getElem?_eq_getElem inside
    have kept := second.grows.objects _ _ known
    rw [found] at kept
    exact Option.some.inj kept ▸ first.new _ _ outside known
  · exact second.new address object (Nat.le_of_not_lt inside) found

theorem mono {wider : Object → Prop} (adds : before.Adds sort after) (wide : ∀ object, sort object → wider object) :
    before.Adds wider after :=
  ⟨adds.grows, fun address object outside found => wide _ (adds.new address object outside found)⟩

theorem put (store : Store) {object : Object} (own : sort object) : store.Adds sort (store.put object) := by
  refine ⟨.put store object, fun address other outside found => ?_⟩
  rw [Store.put, Array.getElem?_push] at found
  split at found
  · exact Option.some.inj found ▸ own
  · obtain ⟨inside, -⟩ := Array.getElem?_eq_some_iff.mp found
    omega

theorem write (adds : before.Adds sort after) {place : Address} (fresh : before.objects.size ≤ place)
    {object : Object} (own : sort object) :
    before.Adds sort { after with objects := after.objects.setIfInBounds place object } := by
  refine ⟨adds.grows.write fresh object, fun address other outside found => ?_⟩
  rw [Array.getElem?_setIfInBounds] at found
  split at found
  · split at found
    · exact Option.some.inj found ▸ own
    · cases found
  · exact adds.new address other outside found

end Adds

theorem address_of_object? {store : Store} {value : Value} {object : Object}
    (found : store.object? value = some object) : ∃ address, value = .object address ∧ address < store.objects.size := by
  cases value with
  | object address =>
    obtain ⟨inside, -⟩ := Array.getElem?_eq_some_iff.mp found
    exact ⟨address, rfl, inside⟩
  | _ => cases found

inductive Reaches (store : Store) : Value → Value → Prop
  | self (value : Value) : Reaches store value value
  | inside {value part other : Value} {object : Object} (held : store.object? value = some object)
    (member : part ∈ object.parts) (reaches : Reaches store part other) : Reaches store value other

def Clear (store : Store) (value : Value) : Prop :=
  ∀ address, store.Reaches value (.object address) →
    ∃ object, store.objects[address]? = some object ∧ object.isPointer = false

theorem Clear.own {store : Store} {value : Value} {object : Object} (clear : store.Clear value)
    (held : store.object? value = some object) : object.isPointer = false := by
  cases value with
  | object address =>
    obtain ⟨other, found, own⟩ := clear address (.self _)
    exact Option.some.inj (found.symm.trans held) ▸ own
  | _ => cases held

theorem Clear.part {store : Store} {value part : Value} {object : Object} (clear : store.Clear value)
    (held : store.object? value = some object) (member : part ∈ object.parts) : store.Clear part :=
  fun address reaches => clear address (.inside held member reaches)

/-- An instance whose contents refer to no objects. -/
theorem Clear.entity {store : Store} {value : Value} {kind : Kind} {attributes : List (String × Value)}
    (held : store.object? value = some (.entity kind attributes))
    (plain : ∀ entry ∈ attributes, ∀ address, entry.2 ≠ .object address) : store.Clear value := by
  intro address reaches
  cases reaches with
  | self => exact ⟨_, held, rfl⟩
  | inside held' member reaches =>
    obtain rfl := Option.some.inj (held.symm.trans held')
    obtain ⟨entry, present, same⟩ := List.mem_map.mp member
    cases reaches with
    | self => exact absurd same (plain entry present address)
    | inside inner =>
      obtain ⟨place, content, -⟩ := address_of_object? inner
      exact absurd (same.trans content) (plain entry present place)

theorem Clear.grows {before after : Store} {value : Value} (grows : before.Grows after)
    (clear : before.Clear value) : after.Clear value := by
  have back {value other : Value} (reaches : after.Reaches value other) (clear : before.Clear value) :
      before.Reaches value other := by
    induction reaches with
    | self => exact .self _
    | @inside value part other object held member _ ih =>
      cases value with
      | object address =>
        obtain ⟨known, found, -⟩ := clear address (.self _)
        obtain rfl : known = object := Option.some.inj ((grows.objects _ _ found).symm.trans held)
        have held : before.object? (.object address) = some known := found
        exact .inside held member (ih (clear.part held member))
      | _ => cases held
  intro address reaches
  obtain ⟨object, found, own⟩ := clear address (back reaches clear)
  exact ⟨object, grows.objects _ _ found, own⟩

theorem object?_put (store : Store) (object : Object) :
    (store.put object).object? store.next = some object := by
  show (store.objects.push object)[store.objects.size]? = _
  rw [Array.getElem?_push, if_pos rfl]

theorem kindOf_of_object? {store : Store} {value : Value} {object : Object}
    (found : store.object? value = some object) : store.kindOf value = object.kind := by
  cases value with
  | object address =>
    have same : store.objects[address]? = some object := found
    rw [kindOf, same]
    rfl
  | _ => cases found

end Store

theorem create_apply (object : Object) (store : Store) :
    create object store = .ok store.next (store.put object) := rfl

theorem object?_apply (value : Value) (store : Store) :
    object? value store = .ok (store.object? value) store := rfl

theorem kindOf_apply (value : Value) (store : Store) :
    kindOf value store = .ok (store.kindOf value) store := rfl

theorem clone_apply (value : Value) (store : Store) : clone value store =
    (Copying.value store (2 * (store.objects.size + 8)) value [] >>= fun copied => pure copied.1) store := by
  rw [clone, get_bind]
  rfl

/-! ### Lists of runs -/

theorem mem_of_lookup {κ α : Type} [BEq κ] [LawfulBEq κ] {entries : List (κ × α)} {name : κ} {value : α}
    (found : entries.lookup name = some value) : (name, value) ∈ entries := by
  obtain ⟨before, after, rfl, -⟩ := List.lookup_eq_some_iff.mp found
  simp

section

variable {α β : Type} {step : α → Run β}

theorem mapM_cons_apply (first : α) (rest : List α) :
    (first :: rest).mapM step = (do
      let head ← step first
      let tail ← rest.mapM step
      pure (head :: tail)) := List.mapM_cons

/-- Every item can be run from every later store, with a result that later stores keep. -/
theorem mapM_grows (related : Store → α → β → Prop) (start : Store)
    (keeps : ∀ {before after : Store} {item : α} {result : β}, before.Grows after →
      related before item result → related after item result) :
    ∀ (items : List α), (∀ item ∈ items, ∀ store, start.Grows store →
      ∃ result after, step item store = .ok result after ∧ store.Grows after ∧
        related after item result) → ∀ store, start.Grows store →
      ∃ results after, items.mapM step store = .ok results after ∧ store.Grows after ∧
        List.Forall₂ (related after) items results := by
  intro items
  induction items with
  | nil => exact fun _ store _ => ⟨[], store, rfl, .refl store, .nil⟩
  | cons first rest ih =>
    intro each store grown
    obtain ⟨head, between, ran, grows, held⟩ := each first List.mem_cons_self store grown
    obtain ⟨tail, after, others, grows', all⟩ :=
      ih (fun item member => each item (List.mem_cons_of_mem first member)) between
        (grown.trans grows)
    refine ⟨head :: tail, after, ?_, grows.trans grows', .cons (keeps grows' held) all⟩
    rw [mapM_cons_apply, bind_of_ok ran, bind_of_ok others]
    rfl

end

end CowView.Live
