import CowView.Proofs.Likeness

/-!
Clones of plain values: each can be made, and is alike. While a clone is made, some of the objects that it
consists of are still empty, and what is said of a copy holds whatever is put into them.
-/

namespace CowView.Live

/-! ### Copies in the making -/

namespace Store

structure KeptBut (pending : Address → Prop) (before after : Store) : Prop where
  objects : ∀ address object, ¬ pending address → before.objects[address]? = some object →
    after.objects[address]? = some object
  units : after.units = before.units
  owners : after.owners = before.owners
  targets : after.targets = before.targets

variable {start before between after : Store} {pending : Address → Prop}

theorem Grows.keptBut (grows : before.Grows between) (kept : between.KeptBut pending after) :
    before.KeptBut pending after :=
  ⟨fun address object settled found => kept.objects address object settled (grows.objects _ _ found),
    kept.units.trans grows.units, kept.owners.trans grows.owners, kept.targets.trans grows.targets⟩

def Fresh (start now : Store) (pending : Address → Prop) : Prop :=
  ∀ address, pending address → start.objects.size ≤ address ∧ address < now.objects.size

theorem Fresh.grows (fresh : Fresh start before pending) (grows : before.Grows after) :
    Fresh start after pending :=
  fun address waits => ⟨(fresh address waits).1, (fresh address waits).2.trans_le grows.size_le⟩

theorem KeptBut.grows (kept : between.KeptBut pending after) (grows : start.Grows between)
    (fresh : Fresh start between pending) : start.Grows after := by
  refine ⟨fun address object found => ?_, kept.units.trans grows.units,
    kept.owners.trans grows.owners, kept.targets.trans grows.targets⟩
  obtain ⟨inside, -⟩ := Array.getElem?_eq_some_iff.mp found
  refine kept.objects address object (fun waits => ?_) (grows.objects _ _ found)
  have later := (fresh address waits).1
  omega

/-- Whatever is put into the pending objects, the copy is like the value that it is a copy of. Keys are
their own copies. -/
structure Settled (start : Store) (pending : Address → Prop) (now : Store) (copy value : Value) :
    Prop where
  alike : ∀ after, now.KeptBut pending after → ∀ layers, start.BuiltWithin layers value →
    after.AlikeWithin layers copy value
  key : start.Key value → copy = value

theorem Settled.grows {copy value : Value} (grows : before.Grows after)
    (settled : Settled start pending before copy value) : Settled start pending after copy value :=
  ⟨fun _ kept => settled.alike _ (grows.keptBut kept), settled.key⟩

def andNext (pending : Address → Prop) (store : Store) : Address → Prop :=
  fun address => pending address ∨ address = store.objects.size

theorem Settled.pend {copy value : Value} (settled : Settled start pending before copy value)
    (object : Object) : Settled start (before.andNext pending) (before.put object) copy value := by
  refine ⟨fun after kept => settled.alike after ?_, settled.key⟩
  refine ⟨fun address known waits found => ?_, kept.units, kept.owners, kept.targets⟩
  obtain ⟨inside, -⟩ := Array.getElem?_eq_some_iff.mp found
  refine kept.objects address known ?_ ((Grows.put before object).objects _ _ found)
  rintro (waits' | rfl)
  · exact waits waits'
  · omega

def fill (store : Store) (place : Address) (object : Object) : Store :=
  { store with objects := store.objects.setIfInBounds place object }

theorem Settled.fill {copy value : Value} {place : Store} {filled : Object}
    (settled : Settled start (place.andNext pending) before copy value) :
    Settled start pending (before.fill place.objects.size filled) copy value := by
  refine ⟨fun after kept => settled.alike after ?_, settled.key⟩
  refine ⟨fun address known waits found => ?_, kept.units, kept.owners, kept.targets⟩
  refine kept.objects address known (fun waits' => waits (.inl waits')) ?_
  have different : place.objects.size ≠ address := fun same => waits (.inr same.symm)
  simpa [Store.fill, Array.getElem?_setIfInBounds, different] using found

end Store

open Store

def Copies.Known (start : Store) (pending : Address → Prop) (layers : Nat) (copies : Copies)
    (now : Store) : Prop :=
  ∀ address copy, copies.lookup address = some copy → start.BuiltWithin layers (.object address) →
    Settled start pending now copy (.object address)

structure Copies.Progress (start : Store) (pending : Address → Prop) (earlier later : Copies)
    (before after : Store) : Prop where
  grows : before.Grows after
  recorded : ∀ address copy, later.lookup address = some copy →
    earlier.lookup address = some copy ∨ Settled start pending after copy (.object address)

namespace Copies

variable {start before between after : Store} {pending : Address → Prop} {earlier known later : Copies}

theorem Progress.refl (copies : Copies) (store : Store) :
    Progress start pending copies copies store store := ⟨.refl store, fun _ _ => .inl⟩

theorem Progress.trans (first : Progress start pending earlier known before between)
    (second : Progress start pending known later between after) :
    Progress start pending earlier later before after := by
  refine ⟨first.grows.trans second.grows, fun address copy found => ?_⟩
  rcases second.recorded address copy found with found' | settled
  · rcases first.recorded address copy found' with found'' | settled
    · exact .inl found''
    · exact .inr (settled.grows second.grows)
  · exact .inr settled

theorem Known.progress {layers : Nat} (all : Known start pending layers earlier before)
    (progress : Progress start pending earlier later before after) :
    Known start pending layers later after := by
  intro address copy found built
  rcases progress.recorded address copy found with found' | settled
  · exact (all address copy found' built).grows progress.grows
  · exact settled

structure Ready (start : Store) (pending : Address → Prop) (layers : Nat) (copies : Copies)
    (now : Store) : Prop where
  grows : start.Grows now
  fresh : Fresh start now pending
  known : Known start pending layers copies now

theorem Ready.progress {layers : Nat} (ready : Ready start pending layers earlier before)
    (progress : Progress start pending earlier later before after) :
    Ready start pending layers later after :=
  ⟨ready.grows.trans progress.grows, ready.fresh.grows progress.grows, ready.known.progress progress⟩

theorem Ready.mono {few many : Nat} (fewer : few ≤ many) (ready : Ready start pending many earlier before) :
    Ready start pending few earlier before :=
  ⟨ready.grows, ready.fresh, fun address copy found built =>
    ready.known address copy found (built.mono fewer)⟩

/-- Inside a new object that is not yet filled in, which is that of a value with more layers. -/
theorem Ready.enter {layers : Nat} {address : Address}
    (ready : Ready start pending (layers + 1) earlier before)
    (thick : ¬ start.BuiltWithin layers (.object address)) (empty : Object) :
    Ready start (before.andNext pending) layers ((address, before.next) :: earlier)
      (before.put empty) := by
  have grows := Grows.put before empty
  refine ⟨ready.grows.trans grows, ?_, ?_⟩
  · rintro other (waits | rfl)
    · exact ready.fresh.grows grows other waits
    · exact ⟨ready.grows.size_le, by simp [Store.put]⟩
  · intro other copy found built
    by_cases same : other = address
    · subst same
      exact absurd built thick
    · rw [List.lookup_cons, beq_eq_false_iff_ne.mpr same] at found
      exact (ready.known other copy found (built.mono (Nat.le_succ _))).pend empty

end Copies

open Copies

/-! ### Runs on copies -/

/-- From a stage, a run on copies makes progress to a stage where its result is as said. -/
def Proceeds {α : Type} (start : Store) (pending : Address → Prop) (copies : Copies) (store : Store)
    (copying : Copying α) (related : Store → α → Prop) : Prop :=
  ∃ result later after, copying copies store = .ok (result, later) after ∧
    Progress start pending copies later store after ∧ related after result

section

variable {α β : Type} {start store : Store} {pending : Address → Prop} {copies : Copies} {layers : Nat}

theorem Proceeds.bind {copying : Copying α} {next : α → Copying β} {related : Store → α → Prop}
    {related' : Store → β → Prop} (first : Proceeds start pending copies store copying related)
    (rest : ∀ result later after, Progress start pending copies later store after →
      related after result → Proceeds start pending later after (next result) related') :
    Proceeds start pending copies store (copying >>= next) related' := by
  obtain ⟨result, later, after, ran, progress, holds⟩ := first
  obtain ⟨result', later', after', ran', progress', holds'⟩ := rest result later after progress holds
  refine ⟨result', later', after', ?_, progress.trans progress', holds'⟩
  show (copying copies >>= fun found => next found.1 found.2) store = _
  rw [bind_of_ok ran]
  exact ran'

theorem Proceeds.pure {related : Store → α → Prop} {result : α} (holds : related store result) :
    Proceeds start pending copies store (pure result) related :=
  ⟨result, copies, store, rfl, .refl copies store, holds⟩

theorem Proceeds.get {next : Copies → Copying β} {related : Store → β → Prop}
    (rest : Proceeds start pending copies store (next copies) related) :
    Proceeds start pending copies store (MonadState.get >>= next) related := rest

theorem Proceeds.mapM {step : α → Copying β} (related : Store → α → β → Prop)
    (keeps : ∀ {before after : Store} {item : α} {result : β}, before.Grows after →
      related before item result → related after item result) :
    ∀ (items : List α) (copies : Copies) (store : Store), Ready start pending layers copies store →
      (∀ item ∈ items, ∀ copies store, Ready start pending layers copies store →
        Proceeds start pending copies store (step item) fun after => related after item) →
      Proceeds start pending copies store (items.mapM step) fun after =>
        List.Forall₂ (related after) items := by
  intro items
  induction items with
  | nil => exact fun copies store _ _ => .pure .nil
  | cons first rest ih =>
    intro copies store ready each
    rw [List.mapM_cons]
    refine (each first List.mem_cons_self copies store ready).bind
      fun head later after progress holds => ?_
    refine (ih later after (ready.progress progress) fun item member =>
      each item (List.mem_cons_of_mem first member)).bind fun tail later' after' progress' all => ?_
    exact .pure (.cons (keeps progress'.grows holds) all)

theorem Proceeds.fill {address : Address} {empty : Object} {content : Copying Object}
    (ready : Ready start pending (layers + 1) copies store)
    (complex : ¬ start.Key (.object address))
    (filled : Proceeds start (store.andNext pending) ((address, store.next) :: copies) (store.put empty)
      content fun now filled => ∀ after, now.KeptBut (store.andNext pending) after →
        after.object? store.next = some filled → ∀ layers, start.BuiltWithin layers (.object address) →
          after.AlikeWithin layers store.next (.object address)) :
    Proceeds start pending copies store (Copying.fill address empty content) fun after copy =>
      Settled start pending after copy (.object address) := by
  obtain ⟨found, later, between, ran, progress, holds⟩ := filled
  have whole : store.Grows between := (Grows.put store empty).trans progress.grows
  have settled : Settled start pending (between.fill store.objects.size found) store.next
      (.object address) := by
    refine ⟨fun after kept layers built => ?_, fun key => absurd key complex⟩
    have inside : store.objects.size < between.objects.size :=
      Nat.lt_of_lt_of_le (by simp [Store.put]) progress.grows.size_le
    have there : (between.fill store.objects.size found).objects[store.objects.size]? = some found := by
      simp [Store.fill, inside]
    have settled : ¬ pending store.objects.size :=
      fun waits => Nat.lt_irrefl _ (ready.fresh store.objects.size waits).2
    refine holds after ?_ (kept.objects _ _ settled there) layers built
    refine ⟨fun other known waits at_ => ?_, kept.units, kept.owners, kept.targets⟩
    refine kept.objects other known (fun waits' => waits (.inl waits')) ?_
    have different : store.objects.size ≠ other := fun same => waits (.inr same.symm)
    simpa [Store.fill, Array.getElem?_setIfInBounds, different] using at_
  refine ⟨store.next, later, between.fill store.objects.size found, ?_,
    ⟨whole.write (Nat.le_refl _) found, fun other copy at_ => ?_⟩, settled⟩
  · show (content ((address, store.next) :: copies) >>= fun found => do
      write store.next found.1
      return (store.next, found.2)) (store.put empty) = _
    rw [bind_of_ok ran]
    rfl
  · rcases progress.recorded other copy at_ with at_' | settled'
    · by_cases same : other = address
      · subst same
        rw [List.lookup_cons_self] at at_'
        cases at_'
        exact .inr settled
      · rw [List.lookup_cons, beq_eq_false_iff_ne.mpr same] at at_'
        exact .inl at_'
    · exact .inr settled'.fill

/-! ### Clones of plain values -/

theorem settled_simple {value : Value} (simple : value.isSimple) :
    Settled start pending store value value := by
  refine ⟨fun after _ layers built => ?_, fun _ => rfl⟩
  cases layers with
  | zero => exact built.elim
  | succ layers => exact .simple simple

/-- Copies of the parts are alike, each a layer further in. -/
theorem Settled.all {after : Store} {items found : List Value}
    (each : List.Forall₂ (fun item copy => Settled start pending store copy item) items found)
    (kept : store.KeptBut pending after) (built : ∀ item ∈ items, start.BuiltWithin layers item) :
    List.Forall₂ (after.AlikeWithin layers) found items :=
  ((List.forall₂_and_left _ _).mpr ⟨built, each⟩).flip.imp fun _ _ both =>
    both.2.alike after kept layers both.1

theorem Settled.entrywise {γ : Type} {after : Store} {entries found : List (γ × Value)}
    (each : List.Forall₂ (fun entry copy => copy.1 = entry.1 ∧
      Settled start pending store copy.2 entry.2) entries found)
    (kept : store.KeptBut pending after)
    (built : ∀ entry ∈ entries, start.BuiltWithin layers entry.2) :
    Entrywise (after.AlikeWithin layers) found entries :=
  ((List.forall₂_and_left _ _).mpr ⟨built, each⟩).flip.imp fun _ _ both =>
    ⟨both.2.1, both.2.2.alike after kept layers both.1⟩

def CopiesParts (start : Store) (layers : Nat) (copy : Value → Copying Value) : Prop :=
  ∀ {pending : Address → Prop} {copies : Copies} {store : Store} {value : Value},
    Ready start pending layers copies store → start.BuiltWithin layers value →
      Proceeds start pending copies store (copy value) fun after copied =>
        Settled start pending after copied value

variable {copy : Value → Copying Value} {address : Address}

theorem proceeds_list {items : List Value} (inner : CopiesParts start layers copy)
    (ready : Ready start pending (layers + 1) copies store)
    (thick : ¬ start.BuiltWithin layers (.object address))
    (held : start.object? (.object address) = some (.list items))
    (built : start.BuiltWithin (layers + 1) (.object address)) :
    Proceeds start pending copies store (Copying.object copy address (.list items))
      fun after copied => Settled start pending after copied (.object address) := by
  have ready' := ready.enter thick (.list [])
  refine .fill ready (Key.not_object held nofun) ?_
  refine (Proceeds.mapM (fun now item copied => Settled start (store.andNext pending) now copied item)
    (fun grows => Settled.grows grows) items _ _ ready' fun item member _ _ stage =>
    inner stage (Built.parts built held item member)).bind fun found later now progress each => ?_
  refine .pure fun after kept filled layers' built' => ?_
  have ready'' := ready'.progress progress
  cases layers' with
  | zero => exact built'.elim
  | succ layers' =>
    exact .list filled ((kept.grows ready''.grows ready''.fresh).object? held)
      (Settled.all each kept (Built.parts built' held))

theorem proceeds_box {content : Value} (inner : CopiesParts start layers copy)
    (ready : Ready start pending (layers + 1) copies store)
    (thick : ¬ start.BuiltWithin layers (.object address))
    (held : start.object? (.object address) = some (.box content))
    (built : start.BuiltWithin (layers + 1) (.object address)) :
    Proceeds start pending copies store (Copying.object copy address (.box content))
      fun after copied => Settled start pending after copied (.object address) := by
  have ready' := ready.enter thick (.box .none)
  refine .fill ready (Key.not_object held nofun) ?_
  refine (inner ready' (Built.parts built held content List.mem_cons_self)).bind
    fun found later now progress settled => ?_
  refine .pure fun after kept filled layers' built' => ?_
  have ready'' := ready'.progress progress
  cases layers' with
  | zero => exact built'.elim
  | succ layers' =>
    exact .box filled ((kept.grows ready''.grows ready''.fresh).object? held)
      (settled.alike after kept layers' (Built.parts built' held content List.mem_cons_self))

theorem proceeds_dict {entries : List (Value × Value)} (inner : CopiesParts start layers copy)
    (ready : Ready start pending (layers + 1) copies store)
    (thick : ¬ start.BuiltWithin layers (.object address))
    (held : start.object? (.object address) = some (.dict entries))
    (keys : ∀ entry ∈ entries, start.Key entry.1)
    (distinct : entries.Pairwise fun entry other => start.sameKey entry.1 other.1 = false)
    (built : start.BuiltWithin (layers + 1) (.object address)) :
    Proceeds start pending copies store (Copying.object copy address (.dict entries))
      fun after copied => Settled start pending after copied (.object address) := by
  have parts {layers : Nat} (built : start.BuiltWithin (layers + 1) (.object address)) :
      ∀ entry ∈ entries, start.BuiltWithin layers entry.1 ∧ start.BuiltWithin layers entry.2 :=
    fun entry member => ⟨Built.parts built held _ (List.mem_flatMap.mpr ⟨entry, member, by simp⟩),
      Built.parts built held _ (List.mem_flatMap.mpr ⟨entry, member, by simp⟩)⟩
  have ready' := ready.enter thick (.dict [])
  refine .fill ready (Key.not_object held nofun) ?_
  refine (Proceeds.mapM (fun now entry copied => copied.1 = entry.1 ∧
    Settled start (store.andNext pending) now copied.2 entry.2)
    (fun grows => And.imp_right (Settled.grows grows)) entries _ _ ready'
    fun entry member _ _ stage => ?_).bind fun found later now progress each => ?_
  · refine (inner stage (parts built entry member).2).bind fun content _ _ progress settled => ?_
    refine (inner (stage.progress progress) (parts built entry member).1).bind
      fun key _ _ progress' settled' => ?_
    exact .pure ⟨settled'.key (keys entry member), settled.grows progress'.grows⟩
  · refine .pure fun after kept filled layers' built' => ?_
    have ready'' := ready'.progress progress
    have grows := kept.grows ready''.grows ready''.fresh
    cases layers' with
    | zero => exact built'.elim
    | succ layers' =>
      refine .dict filled (grows.object? held) (fun entry member => (keys entry member).grows grows) ?_
        (Settled.entrywise each kept fun entry member => (parts built' entry member).2)
      refine distinct.imp_of_mem fun left right different => ?_
      rw [(keys _ left).sameKey (keys _ right) grows, different]

theorem proceeds_entity {kind : Kind} {attributes : List (String × Value)} {loaded : Loaded}
    {fields : List FieldView} (inner : CopiesParts start layers copy)
    (ready : Ready start pending (layers + 1) copies store)
    (thick : ¬ start.BuiltWithin layers (.object address)) (forms : start.units.Forms kind loaded fields)
    (held : start.object? (.object address) = some (.entity (kind.onSide .source) attributes))
    (slots : attributes.map (·.1) = fields.map (·.slot))
    (built : start.BuiltWithin (layers + 1) (.object address)) :
    Proceeds start pending copies store
      (Copying.object copy address (.entity (kind.onSide .source) attributes))
      fun after copied => Settled start pending after copied (.object address) := by
  have parts {layers : Nat} (built : start.BuiltWithin (layers + 1) (.object address)) :
      ∀ entry ∈ attributes, start.BuiltWithin layers entry.2 :=
    fun entry member => Built.parts built held _ (List.mem_map_of_mem member)
  have ready' := ready.enter thick (.entity (kind.onSide .source) [])
  have content : Proceeds start pending copies store
      (Copying.fill address (.entity (kind.onSide .source) []) do
        return .entity (kind.onSide .source)
          (← attributes.mapM fun entry => return (entry.1, ← copy entry.2)))
      fun after copied => Settled start pending after copied (.object address) := by
    refine .fill ready (Key.not_object held nofun) ?_
    refine (Proceeds.mapM (fun now entry copied => copied.1 = entry.1 ∧
      Settled start (store.andNext pending) now copied.2 entry.2)
      (fun grows => And.imp_right (Settled.grows grows)) attributes _ _ ready'
      fun entry member _ _ stage => ?_).bind fun found later now progress each => ?_
    · refine (inner stage (parts built entry member)).bind fun content _ _ progress settled => ?_
      exact .pure ⟨rfl, settled⟩
    · refine .pure fun after kept filled layers' built' => ?_
      have ready'' := ready'.progress progress
      have grows := kept.grows ready''.grows ready''.fresh
      cases layers' with
      | zero => exact built'.elim
      | succ layers' =>
        exact .entity (grows.units ▸ forms) filled (grows.object? held) slots
          (Settled.entrywise each kept (parts built'))
  cases forms with
  | record => exact content
  | variant => exact content

theorem Proceeds.record {object : Object} (ready : Ready start pending layers copies store)
    (complex : ¬ start.Key (.object address))
    (alike : ∀ after, store.KeptBut pending after → after.object? store.next = some object →
      ∀ layers, start.BuiltWithin layers (.object address) →
        after.AlikeWithin layers store.next (.object address)) :
    Proceeds start pending copies store (do Copying.record address (← create object))
      fun after copied => Settled start pending after copied (.object address) := by
  have settled : Settled start pending (store.put object) store.next (.object address) := by
    refine ⟨fun after kept layers built => ?_, fun key => absurd key complex⟩
    have free : ¬ pending store.objects.size :=
      fun waits => Nat.lt_irrefl _ (ready.fresh store.objects.size waits).2
    exact alike after ((Grows.put store object).keptBut kept)
      (kept.objects _ _ free (store.object?_put object)) layers built
  refine ⟨store.next, (address, store.next) :: copies, store.put object, rfl,
    ⟨.put store object, fun other copied found => ?_⟩, settled⟩
  by_cases same : other = address
  · subst same
    rw [List.lookup_cons_self] at found
    cases found
    exact .inr settled
  · rw [List.lookup_cons, beq_eq_false_iff_ne.mpr same] at found
    exact .inl found

theorem proceeds_bytearray {content : List UInt8} (ready : Ready start pending layers copies store)
    (held : start.object? (.object address) = some (.bytearray content)) :
    Proceeds start pending copies store (Copying.object copy address (.bytearray content))
      fun after copied => Settled start pending after copied (.object address) := by
  refine .record ready (Key.not_object held nofun) fun after kept there layers built => ?_
  cases layers with
  | zero => exact built.elim
  | succ layers => exact .bytearray there ((kept.grows ready.grows ready.fresh).object? held)

theorem proceeds_tuple {items : List Value} (inner : CopiesParts start layers copy)
    (ready : Ready start pending (layers + 1) copies store)
    (unknown : copies.lookup address = none)
    (held : start.object? (.object address) = some (.tuple items))
    (built : start.BuiltWithin (layers + 1) (.object address)) :
    Proceeds start pending copies store (Copying.object copy address (.tuple items))
      fun after copied => Settled start pending after copied (.object address) := by
  refine (Proceeds.mapM (fun now item copied => Settled start pending now copied item)
    (fun grows => Settled.grows grows) items _ _ (ready.mono (Nat.le_succ _)) fun item member _ _ stage =>
    inner stage (Built.parts built held item member)).bind fun found later now progress each => ?_
  have ready' := ready.progress progress
  have alike : ∀ after, now.KeptBut pending after → ∀ copied, after.object? copied = some (.tuple found) →
      ∀ layers, start.BuiltWithin layers (.object address) →
        after.AlikeWithin layers copied (.object address) := by
    intro after kept copied there layers built
    cases layers with
    | zero => exact built.elim
    | succ layers =>
      exact .tuple there ((kept.grows ready'.grows ready'.fresh).object? held)
        (Settled.all each kept (Built.parts built held))
  apply Proceeds.get
  split
  next earlier at_ =>
    refine .pure ?_
    rcases progress.recorded address earlier at_ with old | settled
    · rw [unknown] at old
      cases old
    · exact settled
  · split
    next same =>
      subst same
      exact .pure ⟨fun after kept => alike after kept _
        ((kept.grows ready'.grows ready'.fresh).object? held), fun _ => rfl⟩
    next different =>
      refine .record ready' (fun key => different ?_) fun after kept there => alike after kept _ there
      have same : List.Forall₂ (· = ·) found items :=
        ((List.forall₂_and_left _ _).mpr ⟨key.items held, each⟩).flip.imp fun _ _ both =>
          both.2.key both.1
      rwa [List.forall₂_eq_eq_eq] at same

theorem proceeds_value {steps : Nat} (enough : layers ≤ steps) :
    CopiesParts start layers (Copying.value start steps) := by
  induction layers generalizing steps with
  | zero => exact fun _ built => built.elim
  | succ layers ih =>
    intro pending copies store value ready built
    -- a value with fewer layers is done: an object that is left has all of them, and none of its parts leads back to it
    by_cases thin : start.BuiltWithin layers value
    · exact ih (by omega) (ready.mono (Nat.le_succ _)) thin
    obtain ⟨steps, rfl⟩ : ∃ less, steps = less + 1 := ⟨steps - 1, by omega⟩
    have inner : CopiesParts start layers (Copying.value start steps) := ih (by omega)
    have object : ∀ {address : Address} {found : Object}, value = .object address →
        start.object? value = some found →
        (copies.lookup address = none → Proceeds start pending copies store
          (Copying.object (Copying.value start steps) address found)
          fun after copied => Settled start pending after copied value) →
        Proceeds start pending copies store (Copying.value start (steps + 1) value)
          fun after copied => Settled start pending after copied value := by
      rintro address found rfl held rest
      unfold Copying.value
      apply Proceeds.get
      split
      next copied known => exact .pure (ready.known address copied known built)
      next unknown =>
        simp only [held]
        exact rest unknown
    have address {found : Object} (held : start.object? value = some found) :
        ∃ address, value = .object address := by
      cases value with
      | object address => exact ⟨address, rfl⟩
      | _ => cases held
    have whole := built
    cases built with
    | simple simple =>
      unfold Copying.value
      split
      · cases simple
      · exact .pure (settled_simple simple)
    | bytearray held =>
      obtain ⟨address, rfl⟩ := address held
      exact object rfl held fun _ => proceeds_bytearray ready held
    | list held each =>
      obtain ⟨address, rfl⟩ := address held
      exact object rfl held fun _ => proceeds_list inner ready thin held whole
    | tuple held each =>
      obtain ⟨address, rfl⟩ := address held
      exact object rfl held fun unknown => proceeds_tuple inner ready unknown held whole
    | dict held keys distinct each =>
      obtain ⟨address, rfl⟩ := address held
      exact object rfl held fun _ => proceeds_dict inner ready thin held keys distinct whole
    | box held inside =>
      obtain ⟨address, rfl⟩ := address held
      exact object rfl held fun _ => proceeds_box inner ready thin held whole
    | entity forms held slots each meets =>
      obtain ⟨address, rfl⟩ := address held
      exact object rfl held fun _ => proceeds_entity inner ready thin forms held slots whole

theorem clone_plain {value : Value} (built : start.BuiltWithin layers value) :
    ∃ copy after, clone value start = .ok copy after ∧ start.Grows after ∧
      after.AlikeWithin layers copy value := by
  have within : start.BuiltWithin (start.objects.size + 1) value := Plain.within ⟨layers, built⟩
  have ready : Ready start (fun _ => False) (start.objects.size + 1) [] start :=
    ⟨.refl start, fun _ waits => waits.elim, fun _ _ found => nomatch found⟩
  have enough : start.objects.size + 1 ≤ 2 * (start.objects.size + 8) := by omega
  obtain ⟨copy, later, after, ran, progress, settled⟩ := proceeds_value enough ready within
  refine ⟨copy, after, ?_, progress.grows, ?_⟩
  · rw [clone_apply, bind_of_ok ran]
    rfl
  · exact settled.alike after ⟨fun _ _ _ => id, rfl, rfl, rfl⟩ layers built

end

end CowView.Live
