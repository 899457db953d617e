import CowView.Live.Load
import CowView.Proofs.Runs

/-!
What any run leaves of the objects in the store. Collections change their content, iterators move on and
scopes are closed; every other object stays as it is, and all objects stay of their kind. `Evolving`
says so of a run, whether it gives a result or fails.
-/

namespace CowView.Live

/-! ### Objects that change -/

inductive Object.Becomes : Object → Object → Prop
  | same (object : Object) : Becomes object object
  | list (items others : List Value) : Becomes (.list items) (.list others)
  | dict (entries others : List (Value × Value)) : Becomes (.dict entries) (.dict others)
  | bytearray (content other : List UInt8) : Becomes (.bytearray content) (.bytearray other)
  | array (content other : List UInt8) : Becomes (.array content) (.array other)
  | iterator (base : Value) (position other : Option Nat) (size : Nat) :
    Becomes (.iterator base position size) (.iterator base other size)
  | closed (name : String) (isOpen : Bool) : Becomes (.scope name isOpen false) (.scope name false false)

namespace Object.Becomes

variable {first second third : Object}

theorem trans (before : first.Becomes second) (after : second.Becomes third) :
    first.Becomes third := by
  cases before with
  | same => exact after
  | list => cases after <;> exact .list _ _
  | dict => cases after <;> exact .dict _ _
  | bytearray => cases after <;> exact .bytearray _ _
  | array => cases after <;> exact .array _ _
  | iterator => cases after <;> exact .iterator _ _ _ _
  | closed => cases after <;> exact .closed _ _

theorem kind_eq (becomes : first.Becomes second) : second.kind = first.kind := by
  cases becomes <;> rfl

end Object.Becomes

structure Store.Evolves (before after : Store) : Prop where
  objects : ∀ (address : Address) (object : Object), before.objects[address]? = some object →
    ∃ other, after.objects[address]? = some other ∧ object.Becomes other
  units : after.units = before.units
  owners : after.owners = before.owners
  targets : after.targets = before.targets

namespace Store.Evolves

variable {before between after : Store}

theorem refl (store : Store) : store.Evolves store :=
  ⟨fun _ object found => ⟨object, found, .same object⟩, rfl, rfl, rfl⟩

theorem of_grows (grows : before.Grows after) : before.Evolves after :=
  ⟨fun address object found => ⟨object, grows.objects address object found, .same object⟩,
    grows.units, grows.owners, grows.targets⟩

theorem trans (first : before.Evolves between) (second : between.Evolves after) :
    before.Evolves after := by
  refine ⟨fun address object found => ?_, second.units.trans first.units,
    second.owners.trans first.owners, second.targets.trans first.targets⟩
  obtain ⟨other, found', becomes⟩ := first.objects address object found
  obtain ⟨last, found'', becomes'⟩ := second.objects address other found'
  exact ⟨last, found'', becomes.trans becomes'⟩

theorem object? (evolves : before.Evolves after) {value : Value} {object : Object}
    (found : before.object? value = some object) :
    ∃ other, after.object? value = some other ∧ object.Becomes other := by
  cases value with
  | object address => exact evolves.objects _ _ found
  | _ => cases found

theorem kindOf (evolves : before.Evolves after) {value : Value} {object : Object}
    (found : before.object? value = some object) : after.kindOf value = before.kindOf value := by
  obtain ⟨other, found', becomes⟩ := evolves.object? found
  rw [kindOf_of_object? found, kindOf_of_object? found', becomes.kind_eq]

theorem size_le (evolves : before.Evolves after) : before.objects.size ≤ after.objects.size := by
  by_cases empty : before.objects.size = 0
  · omega
  · have last : before.objects.size - 1 < before.objects.size := by omega
    obtain ⟨other, found, -⟩ := evolves.objects _ _ (Array.getElem?_eq_getElem last)
    obtain ⟨inside, -⟩ := Array.getElem?_eq_some_iff.mp found
    omega

end Store.Evolves

/-! ### Runs that evolve the store -/

def Ends {α : Type} (run : Run α) (store : Store) (onResult : α → Store → Prop)
    (onFailure : Failure → Store → Prop) : Prop :=
  match run store with
  | .ok result after => onResult result after
  | .error failure after => onFailure failure after

section

variable {α β : Type} {run : Run α} {next : α → Run β} {store : Store}

namespace Ends

variable {onResult : α → Store → Prop} {onFailure : Failure → Store → Prop}

theorem mono {onResult' : α → Store → Prop} {onFailure' : Failure → Store → Prop}
    (ends : Ends run store onResult onFailure)
    (results : ∀ result after, onResult result after → onResult' result after)
    (failures : ∀ failure after, onFailure failure after → onFailure' failure after) :
    Ends run store onResult' onFailure' := by
  unfold Ends at ends ⊢
  split
  next shown => exact results _ _ (by simpa [shown] using ends)
  next shown => exact failures _ _ (by simpa [shown] using ends)

theorem bind {onResult : β → Store → Prop}
    (ends : Ends run store (fun found between => Ends (next found) between onResult onFailure)
      onFailure) : Ends (run >>= next) store onResult onFailure := by
  unfold Ends at ends
  show match EStateM.bind run next store with
    | .ok result after => onResult result after
    | .error failure after => onFailure failure after
  unfold EStateM.bind
  split at ends
  next shown =>
    rw [shown]
    exact ends
  next shown =>
    rw [shown]
    exact ends

theorem ofGet {next : Store → Run β} {onResult : β → Store → Prop}
    (ends : Ends (next store) store onResult onFailure) :
    Ends ((MonadState.get : Run Store) >>= next) store onResult onFailure := ends

theorem ofSet {next : Run β} {set_ : Store} {onResult : β → Store → Prop}
    (ends : Ends next set_ onResult onFailure) :
    Ends ((set set_ : Run Unit) >>= fun _ => next) store onResult onFailure := ends

theorem result {value : α} {after : Store} (ends : Ends run store onResult onFailure)
    (ran : run store = .ok value after) : onResult value after := by
  unfold Ends at ends
  rw [ran] at ends
  exact ends

theorem failure {failure : Failure} {after : Store} (ends : Ends run store onResult onFailure)
    (ran : run store = .error failure after) : onFailure failure after := by
  unfold Ends at ends
  rw [ran] at ends
  exact ends

end Ends

/-- A run whose start gives something without touching the store. -/
theorem Ends.then {found : α} {onResult : β → Store → Prop} {onFailure : Failure → Store → Prop}
    (first : run store = .ok found store)
    (rest : Ends (next found) store onResult onFailure) : Ends (run >>= next) store onResult onFailure := by
  refine .bind ?_
  unfold Ends
  rw [first]
  exact rest

theorem Ends.both {onResult onResult' : α → Store → Prop} {onFailure onFailure' : Failure → Store → Prop}
    (first : Ends run store onResult onFailure) (second : Ends run store onResult' onFailure') :
    Ends run store (fun result after => onResult result after ∧ onResult' result after)
      fun failure after => onFailure failure after ∧ onFailure' failure after := by
  unfold Ends at first second ⊢
  split
  next ran => exact ⟨by simpa [ran] using first, by simpa [ran] using second⟩
  next ran => exact ⟨by simpa [ran] using first, by simpa [ran] using second⟩

def EvolvesFrom (store : Store) (run : Run α) : Prop :=
  Ends run store (fun _ after => store.Evolves after) (fun _ after => store.Evolves after)

def Evolving (run : Run α) : Prop := ∀ store, EvolvesFrom store run

theorem EvolvesFrom.bind (first : EvolvesFrom store run)
    (rest : ∀ found between, run store = .ok found between → EvolvesFrom between (next found)) :
    EvolvesFrom store (run >>= next) := by
  refine Ends.bind ?_
  unfold EvolvesFrom Ends at first
  unfold Ends
  split at first
  next found between ran =>
    exact (rest found between ran).mono (fun _ _ => first.trans) (fun _ _ => first.trans)
  next => exact first

/-- A run whose start gives something without touching the store. -/
theorem EvolvesFrom.then {found : α} (first : run store = .ok found store)
    (rest : EvolvesFrom store (next found)) : EvolvesFrom store (run >>= next) := Ends.then first rest

theorem EvolvesFrom.ite {condition : Prop} [Decidable condition] {other : Run α}
    (yes : EvolvesFrom store run) (no : EvolvesFrom store other) :
    EvolvesFrom store (if condition then run else other) := by
  split
  · exact yes
  · exact no

namespace Evolving

theorem result (evolving : Evolving run) {value : α} {after : Store}
    (ran : run store = .ok value after) : store.Evolves after := by
  have ends := evolving store
  unfold EvolvesFrom at ends
  exact ends.result ran

theorem pure (value : α) : Evolving (pure value : Run α) := fun store => .refl store

theorem misuse (problem : Misuse) : Evolving (misuse problem : Run α) := fun store => .refl store

theorem throw (failure : Failure) : Evolving (throw failure : Run α) := fun store => .refl store

theorem get : Evolving (get : Run Store) := fun store => .refl store

theorem bind (first : Evolving run) (rest : ∀ found, Evolving (next found)) :
    Evolving (run >>= next) :=
  fun store => EvolvesFrom.bind (first store) fun found between _ => rest found between

theorem ofGet {next : Store → Run β} (rest : ∀ store, EvolvesFrom store (next store)) :
    Evolving ((MonadState.get : Run Store) >>= next) := fun store => .then rfl (rest store)

theorem ite {condition : Prop} [Decidable condition] {other : Run α} (yes : Evolving run)
    (no : Evolving other) : Evolving (if condition then run else other) := by
  split
  · exact yes
  · exact no

theorem mapM {step : α → Run β} (each : ∀ item, Evolving (step item)) (items : List α) :
    Evolving (items.mapM step) := by
  induction items with
  | nil => exact .pure []
  | cons first rest ih =>
    rw [mapM_cons_apply]
    exact (each first).bind fun _ => ih.bind fun _ => .pure _

theorem forM {step : α → Run PUnit} (each : ∀ item, Evolving (step item)) (items : List α) :
    Evolving (items.forM step) := by
  induction items with
  | nil => exact .pure _
  | cons first rest ih => exact (each first).bind fun _ => ih

theorem foldlM {step : β → α → Run β} (each : ∀ known item, Evolving (step known item))
    (items : List α) (start : β) : Evolving (items.foldlM step start) := by
  induction items generalizing start with
  | nil => exact .pure _
  | cons first rest ih => exact (each start first).bind fun found => ih found

end Evolving

end

/-! ### Objects and collections -/

namespace Evolving

theorem object? (value : Value) : Evolving (Live.object? value) := fun store => .refl store

theorem kindOf (value : Value) : Evolving (Live.kindOf value) := fun store => .refl store

theorem depth : Evolving Live.depth := fun store => .refl store

theorem create (object : Object) : Evolving (create object) :=
  fun store => .of_grows (.put store object)

theorem unsatisfied {α : Type} (value : Value) (capability : String) :
    Evolving (Live.unsatisfied value capability : Run α) := fun store => .refl store

end Evolving

theorem EvolvesFrom.write {store : Store} {value : Value} {object other : Object}
    (held : store.object? value = some object) (becomes : object.Becomes other) :
    EvolvesFrom store (write value other) := by
  cases value with
  | object place =>
    refine ⟨fun address known found => ?_, rfl, rfl, rfl⟩
    have held' : store.objects[place]? = some object := held
    obtain ⟨inside, -⟩ := Array.getElem?_eq_some_iff.mp held'
    by_cases same : place = address
    · subst same
      rw [held'] at found
      cases found
      exact ⟨other, by simp [inside], becomes⟩
    · refine ⟨known, ?_, .same known⟩
      simpa [Array.getElem?_setIfInBounds, same] using found
  | _ => cases held

theorem byteOf_ends (outside : Misuse) (value : Value) (store : Store) :
    Ends (byteOf outside value) store (fun _ after => after = store) fun _ after => after = store := by
  unfold byteOf
  split
  · rfl
  · split
    · rfl
    · rfl

namespace Evolving

theorem position (size : Nat) (index : Value) : Evolving (Live.position size index) := by
  unfold Live.position
  split
  · exact .misuse _
  · exact .ite (.pure _) (.misuse _)

theorem byteOf (outside : Misuse) (value : Value) : Evolving (Live.byteOf outside value) := by
  unfold Live.byteOf
  split
  · exact .misuse _
  · exact .ite (.pure _) (.misuse _)

theorem checkScope (scope : Value) : Evolving (Live.checkScope scope) := by
  refine (Evolving.object? scope).bind fun found => ?_
  split
  · exact .ite (.pure _) (.throw _)
  · exact .misuse _

theorem requireKeyWithin (steps : Nat) (value : Value) :
    Evolving (Live.requireKeyWithin steps value) := by
  induction steps generalizing value with
  | zero => exact .misuse _
  | succ steps ih =>
    refine (Evolving.object? value).bind fun found => ?_
    cases found with
    | none => exact .pure _
    | some object =>
      cases object with
      | tuple items => exact .forM ih items
      | window base start length => cases base <;> first | exact .pure _ | exact .misuse _
      | entity kind attributes => cases kind <;> first | exact .pure _ | exact .misuse _
      | _ => first | exact .pure _ | exact .misuse _

theorem requireKey (value : Value) : Evolving (Live.requireKey value) :=
  Evolving.depth.bind fun steps => requireKeyWithin steps value

theorem createDict (entries : List (Value × Value)) : Evolving (Live.createDict entries) := by
  have keys : Evolving (entries.forM fun entry => Live.requireKey entry.1) :=
    .forM (fun entry => requireKey entry.1) entries
  exact keys.bind fun _ => Evolving.get.bind fun _ => .create _

theorem createWindow (base : Value) : Evolving (Live.createWindow base) := by
  refine Evolving.get.bind fun store => ?_
  split
  · exact .create _
  · split
    · exact .create _
    · exact .misuse _

theorem item (value index : Value) : Evolving (Live.item value index) := by
  refine Evolving.get.bind fun store => ?_
  split
  · refine (requireKey index).bind fun _ => ?_
    split
    · exact .pure _
    · exact .misuse _
  · split
    · exact (position _ _).bind fun _ => .pure _
    · exact .misuse _

theorem iterate (value : Value) : Evolving (Live.iterate value) := by
  refine Evolving.get.bind fun store => ?_
  split
  · exact .create _
  · split
    · exact .pure _
    · exact .pure _
    · exact .misuse _

/-- An iterator moves on, and so does the one that it goes through. -/
theorem advanceWithin (steps : Nat) (value : Value) :
    Evolving (Live.advanceWithin steps value) := by
  induction steps generalizing value with
  | zero => exact .misuse _
  | succ steps ih =>
    refine .ofGet fun store => ?_
    split
    next held =>
      refine EvolvesFrom.ite (.refl store) ?_
      split
      · exact (EvolvesFrom.write held (.iterator _ _ _ _)).bind fun _ _ _ => .refl _
      · exact (EvolvesFrom.write held (.iterator _ _ _ _)).bind fun _ _ _ => .refl _
    · exact .refl store
    · refine (ih _ store).bind fun found between _ => ?_
      split
      · exact .refl _
      · split
        · exact (create _).bind (fun _ => .pure _) between
        · exact ((checkScope _).bind fun _ => (create _).bind fun _ => .pure _) between
    · exact .refl store

theorem advance? (value : Value) : Evolving (Live.advance? value) :=
  Evolving.depth.bind fun steps => advanceWithin steps value

theorem advance (value : Value) : Evolving (Live.advance value) := by
  refine (advance? value).bind fun found => ?_
  split
  · exact .pure _
  · exact .misuse _

theorem drainWithin (count : Nat) (value : Value) : Evolving (Live.drainWithin count value) := by
  induction count with
  | zero => exact .pure []
  | succ count ih =>
    refine (advance? value).bind fun found => ?_
    split
    · exact .pure []
    · exact ih.bind fun _ => .pure _

theorem collect (value : Value) : Evolving (Live.collect value) := by
  refine Evolving.get.bind fun store => ?_
  split
  · exact .pure _
  · exact (iterate value).bind fun iterator => Evolving.get.bind fun _ =>
      Evolving.depth.bind fun _ => drainWithin _ iterator

/-- What a value grows into may become of it, and the store stays as it is. -/
theorem grown_ends (target value : Value) (store : Store) : Ends (grown target value) store
    (fun object after => after = store ∧ ∃ held, store.object? target = some held ∧ held.Becomes object)
    fun _ after => after = store := by
  refine .then (object?_apply target store) ?_
  split
  next held => exact ⟨rfl, _, held, .list _ _⟩
  next held => exact .bind ((byteOf_ends _ value store).mono
    (fun _ _ same => ⟨same, _, held, .bytearray _ _⟩) fun _ _ same => same)
  next held => exact .bind ((byteOf_ends _ value store).mono
    (fun _ _ same => ⟨same, _, held, .array _ _⟩) fun _ _ same => same)
  · rfl

theorem grown (target value : Value) : Evolving (Live.grown target value) :=
  fun store => (grown_ends target value store).mono (fun _ _ both => both.1 ▸ .refl store) fun _ _ same => same ▸ .refl store

theorem append (target value : Value) : Evolving (Live.append target value) := by
  refine fun store => Ends.bind ((grown_ends target value store).mono ?_ ?_)
  · rintro object _ ⟨rfl, held, found, becomes⟩
    exact EvolvesFrom.write found becomes
  · rintro failure _ rfl
    exact .refl _

end Evolving

/-! ### Clones -/

def Adding (clear : Prop) {α : Type} (copying : Copying α) : Prop :=
  ∀ copies store, Ends (copying copies) store
    (fun _ after => store.Adds (fun object => clear → object.isPointer = false) after)
    fun failure after => (∃ problem, failure = .misuse problem) ∧
      store.Adds (fun object => clear → object.isPointer = false) after

namespace Adding

variable {α β : Type} {clear : Prop}

theorem pure (value : α) : Adding clear (pure value : Copying α) := fun _ store => .refl store

theorem get : Adding clear (get : Copying Copies) := fun _ store => .refl store

theorem misuse (problem : Misuse) : Adding clear (Live.misuse problem : Copying α) :=
  fun _ store => ⟨⟨problem, rfl⟩, .refl store⟩

theorem create {object : Object} (own : clear → object.isPointer = false) :
    Adding clear (Live.create object : Copying Value) := fun _ store => .put store own

theorem counted :
    Adding clear (modifyThe Store fun store => { store with clones := store.clones + 1 }) :=
  fun _ _ => .of_same ⟨fun _ _ => id, rfl, rfl, rfl⟩ rfl

theorem record (address : Address) (copy : Value) : Adding clear (Copying.record address copy) :=
  fun _ store => .refl store

theorem bind {copying : Copying α} {next : α → Copying β} (first : Adding clear copying)
    (rest : ∀ found, Adding clear (next found)) : Adding clear (copying >>= next) := by
  intro copies store
  refine Ends.bind ((first copies store).mono (fun found between adds => ?_) fun _ _ => id)
  exact (rest found.1 found.2 between).mono (fun _ _ => adds.trans) fun _ _ => And.imp_right adds.trans

theorem mapM {step : α → Copying β} (items : List α) (each : ∀ item ∈ items, Adding clear (step item)) :
    Adding clear (items.mapM step) := by
  induction items with
  | nil => exact .pure []
  | cons first rest ih =>
    rw [List.mapM_cons]
    exact (each first List.mem_cons_self).bind fun _ =>
      (ih fun item member => each item (List.mem_cons_of_mem first member)).bind fun _ => .pure _

end Adding

def Filling (clear : Prop) (content : Copying Object) : Prop :=
  ∀ copies store, Ends (content copies) store
    (fun found after => (clear → found.1.isPointer = false) ∧
      store.Adds (fun object => clear → object.isPointer = false) after)
    fun failure after => (∃ problem, failure = .misuse problem) ∧
      store.Adds (fun object => clear → object.isPointer = false) after

theorem Filling.pure {clear : Prop} {object : Object} (own : clear → object.isPointer = false) :
    Filling clear (pure object) := fun _ store => ⟨own, .refl store⟩

theorem Adding.filling {α : Type} {clear : Prop} {copying : Copying α} {next : α → Copying Object}
    (first : Adding clear copying) (rest : ∀ found, Filling clear (next found)) :
    Filling clear (copying >>= next) := by
  intro copies store
  refine Ends.bind ((first copies store).mono (fun found between adds => ?_) fun _ _ => id)
  exact (rest found.1 found.2 between).mono (fun _ _ => And.imp_right adds.trans)
    fun _ _ => And.imp_right adds.trans

namespace Adding

variable {clear : Prop}

theorem fill (address : Address) {empty : Object} {content : Copying Object}
    (own : clear → empty.isPointer = false) (filling : Filling clear content) :
    Adding clear (Copying.fill address empty content) := by
  intro copies store
  show Ends (content ((address, store.next) :: copies) >>= fun found => do
    Live.write store.next found.1
    return (store.next, found.2)) (store.put empty) _ _
  have first : store.Adds (fun object => clear → object.isPointer = false) (store.put empty) :=
    .put store own
  refine Ends.bind ((filling _ _).mono (fun found between both => ?_)
    fun _ _ => And.imp_right first.trans)
  exact (first.trans both.2).write (Nat.le_refl _) both.1

theorem tuple {copy : Value → Copying Value} (address : Address) (items : List Value)
    (each : ∀ item ∈ items, Adding clear (copy item)) :
    Adding clear (Copying.tuple copy address items) := by
  refine (mapM items each).bind fun copies => Adding.get.bind fun known => ?_
  split
  · exact .pure _
  · split
    · exact .pure _
    · exact (Adding.create fun _ => rfl).bind fun fresh => .record _ _

theorem dict {copy : Value → Copying Value} (entries : List (Value × Value))
    (each : ∀ value ∈ (Object.dict entries).parts, Adding clear (copy value)) :
    ∀ entry ∈ entries, Adding clear (do
      let value ← copy entry.2
      return (← copy entry.1, value)) := by
  intro entry member
  have inside : ∀ value ∈ [entry.1, entry.2], value ∈ (Object.dict entries).parts := fun value held =>
    List.mem_flatMap.mpr ⟨entry, member, held⟩
  exact (each _ (inside _ (by simp))).bind fun _ => (each _ (inside _ (by simp))).bind fun _ => .pure _

theorem object {copy : Value → Copying Value} (address : Address) (found : Object)
    (own : clear → found.isPointer = false) (each : ∀ value ∈ found.parts, Adding clear (copy value)) :
    Adding clear (Copying.object copy address found) := by
  have first {first second : Value} (parts : found.parts = [first, second]) :
      Adding clear (copy first) := each _ (by simp [parts])
  have second {first second : Value} (parts : found.parts = [first, second]) :
      Adding clear (copy second) := each _ (by simp [parts])
  unfold Copying.object
  split
  · exact fill _ own ((mapM _ each).filling fun _ => .pure own)
  · exact tuple _ _ each
  · exact fill _ own ((mapM _ (dict _ each)).filling fun _ => .pure own)
  · exact .misuse _
  · exact fill _ own ((each _ (by simp [Object.parts])).filling fun _ => .pure own)
  · exact fill _ own ((each _ (by simp [Object.parts])).filling fun _ => .pure own)
  · exact fill _ own ((first rfl).filling fun _ => (second rfl).filling fun _ => .pure own)
  · exact (each _ (by simp [Object.parts])).bind fun _ =>
      (Adding.create fun _ => rfl).bind fun _ => .record _ _
  · exact fill _ own ((first rfl).filling fun _ => (second rfl).filling fun _ => .pure own)
  · exact counted.bind fun _ => (Adding.create own).bind fun _ => .record _ _
  · refine fill _ own ((mapM _ fun entry member => ?_).filling fun _ => .pure own)
    exact (each _ (List.mem_map_of_mem member)).bind fun _ => .pure _
  all_goals exact (Adding.create own).bind fun _ => .record _ _

theorem value (start : Store) (steps : Nat) (source : Value) (clean : clear → start.Clear source) :
    Adding clear (Copying.value start steps source) := by
  induction steps generalizing source with
  | zero => exact .misuse _
  | succ steps ih =>
    unfold Copying.value
    split
    · refine Adding.get.bind fun known => ?_
      split
      · exact .pure _
      · split
        next found held =>
          refine object _ _ (fun holds => (clean holds).own held) fun part member => ?_
          exact ih part fun holds => (clean holds).part held member
        · exact .misuse _
    · exact .pure _

end Adding

/-- A clone leaves all objects as they are, and adds no pointers if what it copies leads to none. This holds also
of a clone that fails, which it does by a misuse only. -/
theorem clone_adds (value : Value) (store : Store) : Ends (clone value) store
    (fun _ after => store.Adds (fun object => store.Clear value → object.isPointer = false) after)
    fun failure after => (∃ problem, failure = .misuse problem) ∧
      store.Adds (fun object => store.Clear value → object.isPointer = false) after := by
  unfold Ends
  rw [clone_apply]
  exact Ends.bind ((Adding.value _ _ value id [] store).mono (fun _ _ => id) fun _ _ => id)

theorem clone_grows (value : Value) (store : Store) :
    Ends (clone value) store (fun _ after => store.Grows after) (fun _ after => store.Grows after) :=
  (clone_adds value store).mono (fun _ _ => Store.Adds.grows) fun _ _ failed => failed.2.grows

theorem Evolving.clone (value : Value) : Evolving (Live.clone value) := fun store =>
  (clone_grows value store).mono (fun _ _ => .of_grows) fun _ _ => .of_grows

end CowView.Live
