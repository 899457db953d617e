import CowView.Proofs.Recloning

/-!
What a clone is made of. Whatever is cloned, cycles and shared objects included, each object of the clone mirrors the
object that it is a copy of: it has the same form, and its parts are the copies of the parts (`clone_counterpart`).
-/

namespace CowView.Live

/-! ### Objects and their copies -/

/-- The second object has the form of the first one, and what they hold is related part by part. A counter holds the
very same values, and a window mirrors nothing. -/
inductive Object.Mirrors (related : Value → Value → Prop) : Object → Object → Prop where
  | list {items others : List Value} (each : List.Forall₂ related items others) :
    Mirrors related (.list items) (.list others)
  | tuple {items others : List Value} (each : List.Forall₂ related items others) :
    Mirrors related (.tuple items) (.tuple others)
  | dict {entries others : List (Value × Value)}
    (each : List.Forall₂ (fun entry other => related entry.1 other.1 ∧ related entry.2 other.2) entries others) :
    Mirrors related (.dict entries) (.dict others)
  | box {content other : Value} (inner : related content other) : Mirrors related (.box content) (.box other)
  | owned {content other : Value} (inner : related content other) : Mirrors related (.owned content) (.owned other)
  | borrowed {referent scope referent' scope' : Value} (inner : related referent referent')
    (tied : related scope scope') : Mirrors related (.borrowed referent scope) (.borrowed referent' scope')
  | iterator {base other : Value} (position : Option Nat) (size : Nat) (inner : related base other) :
    Mirrors related (.iterator base position size) (.iterator other position size)
  | cowIter {elements scope elements' scope' : Value} (inner : related elements elements')
    (tied : related scope scope') : Mirrors related (.cowIter elements scope) (.cowIter elements' scope')
  | counter (attributes : List (String × Value)) :
    Mirrors related (.entity .counter attributes) (.entity .counter attributes)
  | entity {kind : Kind} {attributes others : List (String × Value)} (other : kind ≠ .counter)
    (each : List.Forall₂ (fun entry copy => entry.1 = copy.1 ∧ related entry.2 copy.2) attributes others) :
    Mirrors related (.entity kind attributes) (.entity kind others)
  | bytearray (content : List UInt8) : Mirrors related (.bytearray content) (.bytearray content)
  | array (content : List UInt8) : Mirrors related (.array content) (.array content)
  | cow : Mirrors related .cow .cow
  | scope (name : String) (isOpen isStatic : Bool) :
    Mirrors related (.scope name isOpen isStatic) (.scope name isOpen isStatic)

inductive Copied (start : Store) (copies : Copies) : Value → Value → Prop where
  | same {value : Value} (plain : ∀ address, value ≠ .object address) : Copied start copies value value
  | recorded {address : Address} {copy : Value} (member : (address, copy) ∈ copies) :
    Copied start copies (.object address) copy
  | fixed {value : Value} {items : List Value} (held : start.object? value = some (.tuple items))
    (each : ∀ item ∈ items, Copied start copies item item) : Copied start copies value value

theorem Object.Mirrors.mono {related wider : Value → Value → Prop} {object other : Object}
    (wide : ∀ value copy, related value copy → wider value copy) (mirrors : object.Mirrors related other) :
    object.Mirrors wider other := by
  cases mirrors with
  | list each => exact .list (each.imp wide)
  | tuple each => exact .tuple (each.imp wide)
  | dict each => exact .dict (each.imp fun _ _ both => ⟨wide _ _ both.1, wide _ _ both.2⟩)
  | box inner => exact .box (wide _ _ inner)
  | owned inner => exact .owned (wide _ _ inner)
  | borrowed inner tied => exact .borrowed (wide _ _ inner) (wide _ _ tied)
  | iterator position size inner => exact .iterator position size (wide _ _ inner)
  | cowIter inner tied => exact .cowIter (wide _ _ inner) (wide _ _ tied)
  | counter attributes => exact .counter attributes
  | entity other each => exact .entity other (each.imp fun _ _ both => ⟨both.1, wide _ _ both.2⟩)
  | bytearray content => exact .bytearray content
  | array content => exact .array content
  | cow => exact .cow
  | scope name isOpen isStatic => exact .scope name isOpen isStatic

theorem Copied.mono {start : Store} {copies later : Copies} {value copy : Value} (kept : copies ⊆ later)
    (copied : Copied start copies value copy) : Copied start later value copy := by
  induction copied with
  | same plain => exact .same plain
  | recorded member => exact .recorded (kept member)
  | fixed held each ih => exact .fixed held ih

/-! ### Stages of a clone -/

/-- A stage of a clone. Each recorded copy is a new object that mirrors the one it is a copy of, unless it is still to
be filled in. -/
structure Staged (start : Store) (pending : Value → Prop) (copies : Copies) (store : Store) : Prop where
  grows : start.Grows store
  recorded : ∀ entry ∈ copies, start.IsNew entry.2 ∧ ∃ object other,
    start.object? (.object entry.1) = some object ∧ store.object? entry.2 = some other ∧
      (pending entry.2 ∨ object.Mirrors (Copied start copies) other)

structure Records (copies : Copies) (store : Store) (later : Copies) (after : Store) : Prop where
  grows : store.Grows after
  kept : copies ⊆ later
  new : ∀ entry ∈ later, entry ∈ copies ∨ store.IsNew entry.2

/-- Where the run gives a result, it leads to another stage, and the result is as told. -/
def Builds {α : Type} (start : Store) (pending : Value → Prop) (copies : Copies) (store : Store) (run : Copying α)
    (related : Copies → α → Prop) : Prop :=
  ∀ (found : α) (later : Copies) (after : Store), run copies store = .ok (found, later) after →
    Staged start pending later after ∧ Records copies store later after ∧ related later found

def CopiesAll (start : Store) (copy : Value → Copying Value) : Prop :=
  ∀ {pending : Value → Prop} {copies : Copies} {store : Store}, Staged start pending copies store → ∀ value,
    Builds start pending copies store (copy value) fun later => Copied start later value

section

variable {α β : Type} {start store between after : Store} {pending : Value → Prop} {copies middle later : Copies}
  {address : Address} {source filled : Object}

theorem Store.IsNew.grows {value : Value} (grows : store.Grows after) (isNew : after.IsNew value) :
    store.IsNew value := by
  cases value with
  | object address =>
    have size := grows.size_le
    have outside : after.objects.size ≤ address := isNew
    exact Nat.le_trans size outside
  | _ => exact isNew.elim

theorem Records.refl (copies : Copies) (store : Store) : Records copies store copies store :=
  ⟨.refl store, fun _ => id, fun _ => .inl⟩

theorem Records.trans (first : Records copies store middle between) (second : Records middle between later after) :
    Records copies store later after := by
  refine ⟨first.grows.trans second.grows, fun _ member => second.kept (first.kept member), fun entry member => ?_⟩
  rcases second.new entry member with member | isNew
  · exact first.new entry member
  · exact .inr (isNew.grows first.grows)

theorem Staged.adds (staged : Staged start pending copies store) (grows : store.Grows after) :
    Staged start pending copies after := by
  refine ⟨staged.grows.trans grows, fun entry member => ?_⟩
  obtain ⟨isNew, object, other, held, there, state⟩ := staged.recorded entry member
  exact ⟨isNew, object, other, held, grows.object? there, state⟩

theorem Staged.record (staged : Staged start pending copies store) {copy : Value} {other : Object}
    (isNew : start.IsNew copy) (held : start.object? (.object address) = some source)
    (there : store.object? copy = some other)
    (state : pending copy ∨ source.Mirrors (Copied start ((address, copy) :: copies)) other) :
    Staged start pending ((address, copy) :: copies) store := by
  refine ⟨staged.grows, List.forall_mem_cons.mpr ⟨⟨isNew, source, other, held, there, state⟩, fun entry member => ?_⟩⟩
  obtain ⟨isNew, object, other, held, there, state⟩ := staged.recorded entry member
  refine ⟨isNew, object, other, held, there, state.imp_right fun mirrors => ?_⟩
  exact mirrors.mono fun _ _ => Copied.mono (List.subset_cons_self _ _)

theorem Staged.next_isNew (staged : Staged start pending copies store) : start.IsNew store.next :=
  staged.grows.size_le

theorem Staged.enter (staged : Staged start pending copies store)
    (held : start.object? (.object address) = some source) (empty : Object) :
    Staged start (fun copy => pending copy ∨ copy = store.next) ((address, store.next) :: copies)
      (store.put empty) := by
  have wider : Staged start (fun copy => pending copy ∨ copy = store.next) copies store := by
    refine ⟨staged.grows, fun entry member => ?_⟩
    obtain ⟨isNew, object, other, held, there, state⟩ := staged.recorded entry member
    exact ⟨isNew, object, other, held, there, state.imp_left .inl⟩
  exact (wider.adds (.put store empty)).record staged.next_isNew held (store.object?_put empty) (.inl (.inr rfl))

theorem Staged.ne_next (staged : Staged start pending copies store) {entry : Address × Value} (member : entry ∈ copies) :
    entry.2 ≠ store.next := by
  obtain ⟨-, -, other, -, there, -⟩ := staged.recorded entry member
  intro same
  obtain ⟨place, at_, inside⟩ := Store.address_of_object? there
  cases same.symm.trans at_
  exact Nat.lt_irrefl _ inside

theorem Staged.leave (staged : Staged start pending copies store)
    (held : start.object? (.object address) = some source) {empty : Object}
    (extended : Records ((address, store.next) :: copies) (store.put empty) later after)
    (last : Staged start (fun copy => pending copy ∨ copy = store.next) later after)
    (mirrors : source.Mirrors (Copied start later) filled) :
    Staged start pending later
      { after with objects := after.objects.setIfInBounds store.objects.size filled } := by
  have inside : store.objects.size < after.objects.size :=
    Nat.lt_of_lt_of_le (by simp [Store.put]) extended.grows.size_le
  refine ⟨last.grows.write staged.grows.size_le filled, fun entry member => ?_⟩
  obtain ⟨isNew, object, other, held', there, state⟩ := last.recorded entry member
  by_cases own : entry.2 = store.next
  · have whole : entry = (address, store.next) := by
      rcases extended.new entry member with known | beyond
      · rcases List.mem_cons.mp known with same | known
        · exact same
        · exact absurd own (staged.ne_next known)
      · rw [own] at beyond
        change (store.put empty).objects.size ≤ store.objects.size at beyond
        rw [Store.put, Array.size_push] at beyond
        omega
    subst whole
    obtain rfl : source = object := Option.some.inj (held.symm.trans held')
    refine ⟨isNew, source, filled, held, ?_, .inr mirrors⟩
    show (after.objects.setIfInBounds store.objects.size filled)[store.objects.size]? = some filled
    simp [inside]
  · refine ⟨isNew, object, other, held', ?_, state.imp_left (Or.resolve_right · own)⟩
    cases copy : entry.2 with
    | object place =>
      rw [copy] at there own
      have apart : store.objects.size ≠ place := fun same => own (same ▸ rfl)
      show (after.objects.setIfInBounds store.objects.size filled)[place]? = some other
      rw [Array.getElem?_setIfInBounds_ne apart]
      exact there
    | _ =>
      rw [copy] at there
      cases there

namespace Builds

variable {run : Copying α} {related : Copies → α → Prop} {related' : Copies → β → Prop}

theorem pure (staged : Staged start pending copies store) {found : α} (holds : related copies found) :
    Builds start pending copies store (pure found) related := by
  intro result later after ran
  cases ran
  exact ⟨staged, .refl copies store, holds⟩

theorem misuse (problem : Misuse) : Builds start pending copies store (misuse problem : Copying α) related := by
  intro result later after ran
  cases ran

theorem bind {next : α → Copying β} (first : Builds start pending copies store run related)
    (rest : ∀ found middle between, Staged start pending middle between → copies ⊆ middle → related middle found →
      Builds start pending middle between (next found) related') :
    Builds start pending copies store (run >>= next) related' := by
  intro result later after ran
  obtain ⟨⟨found, middle⟩, between, ran, others⟩ := Copying.bind_eq_ok ran
  obtain ⟨staged, extended, holds⟩ := first found middle between ran
  obtain ⟨staged', extended', holds'⟩ := rest found middle between staged extended.kept holds result later after others
  exact ⟨staged', extended.trans extended', holds'⟩

theorem mono {related' : Copies → α → Prop} (builds : Builds start pending copies store run related)
    (wider : ∀ later found, related later found → related' later found) :
    Builds start pending copies store run related' := by
  intro result later after ran
  obtain ⟨staged, extended, holds⟩ := builds result later after ran
  exact ⟨staged, extended, wider _ _ holds⟩

theorem get {next : Copies → Copying β} (rest : Builds start pending copies store (next copies) related') :
    Builds start pending copies store (MonadState.get >>= next) related' := rest

/-- What is built for each item from every stage, is built for all of them. -/
theorem mapM {step : α → Copying β} (related : Copies → α → β → Prop)
    (keeps : ∀ {copies later : Copies} {item : α} {found : β}, copies ⊆ later → related copies item found →
      related later item found) (items : List α)
    (each : ∀ item ∈ items, ∀ copies store, Staged start pending copies store →
      Builds start pending copies store (step item) fun later => related later item)
    (staged : Staged start pending copies store) :
    Builds start pending copies store (items.mapM step) fun later => List.Forall₂ (related later) items := by
  induction items generalizing copies store with
  | nil => exact pure staged .nil
  | cons first rest ih =>
    rw [List.mapM_cons]
    refine (each first List.mem_cons_self _ _ staged).bind fun head middle between staged _ holds => ?_
    refine (ih (fun item member => each item (List.mem_cons_of_mem first member)) staged).bind
      fun tail later after staged kept all => .pure staged (.cons (keeps kept holds) all)

theorem record (staged : Staged start pending copies store) {other : Object}
    (held : start.object? (.object address) = some source) (mirrors : source.Mirrors (Copied start copies) other) :
    Builds start pending copies store (do Copying.record address (← create other))
      fun later copy => (address, copy) ∈ later := by
  intro result known after ran
  cases ran
  have grows := Store.Grows.put store other
  refine ⟨(staged.adds grows).record staged.next_isNew held (store.object?_put other) (.inr ?_), ?_,
    List.mem_cons_self⟩
  · exact mirrors.mono fun _ _ => Copied.mono (List.subset_cons_self _ _)
  · exact ⟨grows, List.subset_cons_self _ _, List.forall_mem_cons.mpr ⟨.inr (Nat.le_refl _), fun _ => .inl⟩⟩

theorem fill (staged : Staged start pending copies store) {empty : Object} {content : Copying Object}
    (held : start.object? (.object address) = some source)
    (inner : ∀ pending copies store, Staged start pending copies store →
      Builds start pending copies store content fun later filled => source.Mirrors (Copied start later) filled) :
    Builds start pending copies store (Copying.fill address empty content)
      fun later copy => (address, copy) ∈ later := by
  intro result later after ran
  change (content >>= fun filled => do
    write store.next filled
    return store.next) ((address, store.next) :: copies) (store.put empty) = _ at ran
  obtain ⟨⟨filled, middle⟩, between, first, written⟩ := Copying.bind_eq_ok ran
  cases written
  obtain ⟨last, extended, mirrors⟩ := inner _ _ _ (staged.enter held empty) filled middle between first
  have grows : store.Grows between := (Store.Grows.put store empty).trans extended.grows
  refine ⟨staged.leave held extended last mirrors,
    ⟨grows.write (Nat.le_refl _) filled, fun _ member => extended.kept (List.mem_cons_of_mem _ member), ?_⟩,
    extended.kept List.mem_cons_self⟩
  intro entry member
  rcases extended.new entry member with known | isNew
  · rcases List.mem_cons.mp known with rfl | known
    · exact .inr (Nat.le_refl _)
    · exact .inl known
  · exact .inr (isNew.grows (.put store empty))

section

variable {copy : Value → Copying Value}

theorem values (each : CopiesAll start copy) (staged : Staged start pending copies store) (items : List Value) :
    Builds start pending copies store (items.mapM copy) fun later => List.Forall₂ (Copied start later) items :=
  mapM (fun later => Copied start later) Copied.mono items (fun item _ _ _ staged => each staged item) staged

theorem tuple (each : CopiesAll start copy) (staged : Staged start pending copies store) {items : List Value}
    (held : start.object? (.object address) = some (.tuple items)) :
    Builds start pending copies store (Copying.tuple copy address items)
      fun later => Copied start later (.object address) := by
  refine (values each staged items).bind fun found middle between staged _ all => .get ?_
  split
  next earlier known => exact .pure staged (.recorded (mem_of_lookup known))
  · split
    next same =>
      subst same
      exact .pure staged (.fixed held (List.forall₂_same.mp all))
    · exact (record staged held (.tuple all)).mono fun later copy => .recorded

theorem counted (staged : Staged start pending copies store) :
    Builds start pending copies store (modifyThe Store fun store => { store with clones := store.clones + 1 })
      fun _ _ => True := by
  intro result later after ran
  cases ran
  have grows : store.Grows { store with clones := store.clones + 1 } := ⟨fun _ _ => id, rfl, rfl, rfl⟩
  exact ⟨staged.adds grows, ⟨grows, fun _ => id, fun _ => .inl⟩, trivial⟩

theorem object (each : CopiesAll start copy) (staged : Staged start pending copies store)
    (held : start.object? (.object address) = some source) :
    Builds start pending copies store (Copying.object copy address source)
      fun later => Copied start later (.object address) := by
  -- what holds no values is recorded as a whole; what is filled in later is recorded before its parts are copied,
  -- since these may lead back to it
  have whole {other : Object} (mirrors : source.Mirrors (Copied start copies) other) :
      Builds start pending copies store (do Copying.record address (← create other))
        fun later => Copied start later (.object address) :=
    (record staged held mirrors).mono fun _ _ => .recorded
  have filled {empty : Object} {content : Copying Object}
      (inner : ∀ pending copies store, Staged start pending copies store →
        Builds start pending copies store content fun later filled => source.Mirrors (Copied start later) filled) :
      Builds start pending copies store (Copying.fill address empty content)
        fun later => Copied start later (.object address) :=
    (fill staged held inner).mono fun _ _ => .recorded
  cases source with
  | list items =>
    exact filled fun _ _ _ staged => (values each staged items).bind fun _ _ _ staged _ all =>
      .pure staged (.list all)
  | tuple items => exact tuple each staged held
  | dict entries =>
    let related (later : Copies) (entry copy : Value × Value) : Prop :=
      Copied start later entry.1 copy.1 ∧ Copied start later entry.2 copy.2
    have keeps {copies later : Copies} {entry copy : Value × Value} (kept : copies ⊆ later)
        (both : related copies entry copy) : related later entry copy := ⟨both.1.mono kept, both.2.mono kept⟩
    refine filled fun _ _ _ staged => (mapM related keeps entries (fun entry _ _ _ staged => ?_) staged).bind
      fun _ _ _ staged _ all => .pure staged (.dict all)
    exact (each staged entry.2).bind fun _ _ _ staged _ second => (each staged entry.1).bind
      fun _ _ _ staged kept first => .pure staged ⟨first, second.mono kept⟩
  | window base start length => exact .misuse _
  | box content =>
    exact filled fun _ _ _ staged => (each staged content).bind fun _ _ _ staged _ inner => .pure staged (.box inner)
  | owned content =>
    exact filled fun _ _ _ staged => (each staged content).bind fun _ _ _ staged _ inner =>
      .pure staged (.owned inner)
  | borrowed referent scope =>
    exact filled fun _ _ _ staged => (each staged referent).bind fun _ _ _ staged _ inner =>
      (each staged scope).bind fun _ _ _ staged kept tied => .pure staged (.borrowed (inner.mono kept) tied)
  | iterator base position size =>
    exact (each staged base).bind fun _ _ _ staged _ inner =>
      (record staged held (.iterator position size inner)).mono fun _ _ => .recorded
  | cowIter elements scope =>
    exact filled fun _ _ _ staged => (each staged elements).bind fun _ _ _ staged _ inner =>
      (each staged scope).bind fun _ _ _ staged kept tied => .pure staged (.cowIter (inner.mono kept) tied)
  | entity kind attributes =>
    cases kind with
    | counter =>
      exact (counted staged).bind fun _ _ _ staged _ _ =>
        (record staged held (.counter attributes)).mono fun _ _ => .recorded
    | _ =>
      let related (later : Copies) (entry copy : String × Value) : Prop :=
        entry.1 = copy.1 ∧ Copied start later entry.2 copy.2
      have keeps {copies later : Copies} {entry copy : String × Value} (kept : copies ⊆ later)
          (both : related copies entry copy) : related later entry copy := ⟨both.1, both.2.mono kept⟩
      refine filled fun _ _ _ staged => (mapM related keeps attributes (fun entry _ _ _ staged => ?_) staged).bind
        fun _ _ _ staged _ all => .pure staged (.entity nofun all)
      exact (each staged entry.2).bind fun _ _ _ staged _ inner => .pure staged ⟨rfl, inner⟩
  | bytearray content => exact whole (.bytearray content)
  | array content => exact whole (.array content)
  | cow => exact whole .cow
  | scope name isOpen isStatic => exact whole (.scope name isOpen isStatic)

/-- Whatever the number of steps, a copy that comes of them is the copy of the value. -/
theorem value (steps : Nat) : CopiesAll start (Copying.value start steps) := by
  induction steps with
  | zero => exact fun _ _ => .misuse _
  | succ steps ih =>
    intro pending copies store staged value
    cases value with
    | object address =>
      refine .get ?_
      split
      next copy known => exact .pure staged (.recorded (mem_of_lookup known))
      · split
        next found held => exact object ih staged held
        · exact .misuse _
    | _ => exact .pure staged (.same nofun)

end

end Builds

end

/-! ### Places -/

namespace Store

/-- The value at a place inside a value, which is given by the number of the part to take at each object on the way. -/
def inside? (store : Store) : List Nat → Value → Option Value
  | [], value => some value
  | part :: rest, value => (store.object? value).bind fun object => object.parts[part]?.bind (store.inside? rest)

def passesCounter (store : Store) : List Nat → Value → Bool
  | [], _ => false
  | part :: rest, value => store.kindOf value = .counter ||
    ((store.object? value).bind fun object => object.parts[part]?).any (store.passesCounter rest)

variable {store after : Store} {place : List Nat} {part : Nat} {value inner found : Value} {object : Object}

theorem inside?_cons (held : store.object? value = some object) (member : object.parts[part]? = some inner) :
    store.inside? (part :: place) value = store.inside? place inner := by
  rw [inside?, held, Option.bind_some, member, Option.bind_some]

theorem inside?_cons_eq_some (at_ : store.inside? (part :: place) value = some found) :
    ∃ object inner, store.object? value = some object ∧ object.parts[part]? = some inner ∧
      store.inside? place inner = some found := by
  obtain ⟨object, held, at_⟩ := Option.bind_eq_some_iff.mp at_
  obtain ⟨inner, member, at_⟩ := Option.bind_eq_some_iff.mp at_
  exact ⟨object, inner, held, member, at_⟩

theorem passesCounter_cons (held : store.object? value = some object) (member : object.parts[part]? = some inner) :
    store.passesCounter (part :: place) value = (decide (object.kind = .counter) || store.passesCounter place inner) := by
  rw [passesCounter, kindOf_of_object? held, held, Option.bind_some, member, Option.any_some]

/-- What a later store adds does not change what stands at a place. -/
theorem Grows.inside? (grows : store.Grows after) (at_ : store.inside? place value = some found) :
    after.inside? place value = some found := by
  induction place generalizing value with
  | nil => exact at_
  | cons part place ih =>
    obtain ⟨object, inner, held, member, at_⟩ := inside?_cons_eq_some at_
    rw [inside?_cons (grows.object? held) member]
    exact ih at_

end Store

theorem getElem?_of_forall₂ {α β : Type} {related : α → β → Prop} {items : List α} {others : List β}
    (each : List.Forall₂ related items others) {place : Nat} {item : α} (found : items[place]? = some item) :
    ∃ other, others[place]? = some other ∧ related item other := by
  obtain ⟨inside, rfl⟩ := List.getElem?_eq_some_iff.mp found
  have inside' : place < others.length := each.length_eq ▸ inside
  exact ⟨others[place], List.getElem?_eq_getElem inside', each.get inside inside'⟩

theorem Object.Mirrors.counter_eq {related : Value → Value → Prop} {object other : Object}
    (mirrors : object.Mirrors related other) (counter : object.kind = .counter) : other = object := by
  cases mirrors with
  | counter => rfl
  | entity different => exact absurd counter different
  | scope name isOpen isStatic => cases isStatic <;> cases counter
  | _ => cases counter

theorem Object.Mirrors.parts {related : Value → Value → Prop} {object other : Object}
    (mirrors : object.Mirrors related other) (plain : object.kind ≠ .counter) :
    List.Forall₂ related object.parts other.parts := by
  cases mirrors with
  | list each | tuple each => exact each
  | dict each =>
    induction each with
    | nil => exact .nil
    | cons both _ ih => exact .cons both.1 (.cons both.2 (ih plain))
  | box inner | owned inner | iterator _ _ inner => exact .cons inner .nil
  | borrowed inner tied | cowIter inner tied => exact .cons inner (.cons tied .nil)
  | counter => exact absurd rfl plain
  | entity _ each =>
    simp only [Object.parts, List.forall₂_map_left_iff, List.forall₂_map_right_iff]
    exact each.imp fun _ _ => And.right
  | bytearray | array | cow | scope => exact .nil

namespace Copied

variable {start after : Store} {copies : Copies} {value copy part : Value} {object : Object} {place : List Nat}

/-- The copy of an object, once nothing is left to be filled in. -/
theorem object? (staged : Staged start (fun _ => False) copies after) (copied : Copied start copies value copy)
    (held : start.object? value = some object) :
    (∃ items, object = .tuple items ∧ copy = value ∧ ∀ item ∈ items, Copied start copies item item) ∨
      start.IsNew copy ∧ ∃ other, after.object? copy = some other ∧ object.Mirrors (Copied start copies) other := by
  cases copied with
  | same plain =>
    obtain ⟨address, rfl, -⟩ := Store.address_of_object? held
    exact absurd rfl (plain address)
  | recorded member =>
    obtain ⟨isNew, object', other, held', there, state⟩ := staged.recorded _ member
    obtain rfl : object' = object := Option.some.inj (held'.symm.trans held)
    exact .inr ⟨isNew, other, there, state.resolve_left id⟩
  | fixed held' each => exact .inl ⟨_, Option.some.inj (held.symm.trans held'), rfl, each⟩

theorem inside? (staged : Staged start (fun _ => False) copies after) (copied : Copied start copies value copy)
    (at_ : start.inside? place value = some part) :
    (start.passesCounter place value = true ∧ after.inside? place copy = some part) ∨
      start.passesCounter place value = false ∧
        ∃ other, after.inside? place copy = some other ∧ Copied start copies part other := by
  induction place generalizing value copy with
  | nil =>
    cases at_
    exact .inr ⟨rfl, copy, rfl, copied⟩
  | cons number place ih =>
    obtain ⟨object, inner, held, member, below⟩ := Store.inside?_cons_eq_some at_
    rw [Store.passesCounter_cons held member]
    rcases copied.object? staged held with ⟨items, rfl, rfl, each⟩ | ⟨-, other, there, mirrors⟩
    · rw [Store.inside?_cons (staged.grows.object? held) member]
      exact ih (each inner (List.mem_of_getElem? member)) below
    by_cases counter : object.kind = .counter
    · obtain rfl := mirrors.counter_eq counter
      rw [Store.inside?_cons there member]
      exact .inl ⟨by simp [counter], staged.grows.inside? below⟩
    · obtain ⟨inner', member', copied'⟩ := getElem?_of_forall₂ (mirrors.parts counter) member
      rw [Store.inside?_cons there member', decide_eq_false counter, Bool.false_or]
      exact ih copied' below

end Copied

end CowView.Live
