import CowView.Proofs.Costs
import CowView.Proofs.ViewParts

/-!
How views give back instances. All that can go wrong is that a value is released that a pointer of the view refers
to: where there are no pointers an instance is made, and else it is made or not made as these values are released or
not (`rebuild_releases`).
-/

namespace CowView.Live

structure Tracking (tracks : Store → List Value → Store → Prop) : Prop where
  refl : ∀ store, tracks store [] store
  put : ∀ store object, tracks store [] (store.put object)
  append : ∀ {before between after : Store} {first rest : List Value}, tracks before first between →
    tracks between rest after → tracks before (first ++ rest) after

/-- The run releases some values. With a result, it has only added objects, and what is said of the values is so; it
fails only if there are values, and for a reason. -/
def Releases (tracks : Store → List Value → Store → Prop) (reason : Failure → Prop) {α : Type} (run : Run α)
    (store : Store) (referents : List Value) (gives : α → Prop) : Prop :=
  Ends run store (fun result after => store.Grows after ∧ tracks store referents after ∧ gives result)
    fun failure _ => referents ≠ [] ∧ reason failure

def Releasable (tracks : Store → List Value → Store → Prop) (reason : Failure → Prop) (scope? : Option Value)
    (store : Store) (referent : Value) : Prop :=
  ∀ now, store.Grows now → Releases tracks reason (release scope? referent) now [referent] fun _ => True

section

variable {tracks : Store → List Value → Store → Prop} {reason : Failure → Prop} {α β : Type} {run : Run α}
  {store later : Store}

namespace Releases

variable {referents : List Value} {gives : α → Prop}

theorem of_ok {result : α} {after : Store} (ran : run store = .ok result after) (grows : store.Grows after)
    (track : tracks store [] after) (given : gives result) : Releases tracks reason run store [] gives := by
  unfold Releases Ends
  rw [ran]
  exact ⟨grows, track, given⟩

theorem congr {run' : Run α} (same : run' store = run store)
    (releases : Releases tracks reason run store referents gives) :
    Releases tracks reason run' store referents gives := by
  unfold Releases Ends at releases ⊢
  rw [same]
  exact releases

theorem bind (tracking : Tracking tracks) {next : α → Run β} {others : List Value} {gives' : β → Prop}
    (first : Releases tracks reason run store referents gives)
    (rest : ∀ found between, store.Grows between → gives found →
      Releases tracks reason (next found) between others gives') :
    Releases tracks reason (run >>= next) store (referents ++ others) gives' := by
  refine Ends.bind (Ends.mono first (fun found between both => ?_) fun failure _ held => ?_)
  · refine Ends.mono (rest found between both.1 both.2.2) (fun result after more => ?_) fun failure _ held => ?_
    · exact ⟨both.1.trans more.1, tracking.append both.2.1 more.2.1, more.2.2⟩
    · exact ⟨fun none => held.1 (List.append_eq_nil_iff.mp none).2, held.2⟩
  · exact ⟨fun none => held.1 (List.append_eq_nil_iff.mp none).1, held.2⟩

/-- What comes after the last release adds objects only. -/
theorem last (tracking : Tracking tracks) {next : α → Run β} {gives' : β → Prop}
    (first : Releases tracks reason run store referents gives)
    (rest : ∀ found between, store.Grows between → gives found →
      Releases tracks reason (next found) between [] gives') :
    Releases tracks reason (run >>= next) store referents gives' := by
  rw [← List.append_nil referents]
  exact first.bind tracking rest

theorem mapM (tracking : Tracking tracks) {step : α → Run β} (parts : α → List Value) (related : α → β → Prop)
    (start : Store) : ∀ (items : List α), (∀ item ∈ items, ∀ now, start.Grows now →
      Releases tracks reason (step item) now (parts item) (related item)) → ∀ now, start.Grows now →
        Releases tracks reason (items.mapM step) now (items.flatMap parts) (List.Forall₂ related items) := by
  intro items
  induction items with
  | nil => exact fun _ now _ => of_ok rfl (.refl now) (tracking.refl now) .nil
  | cons first rest ih =>
    intro each now grown
    rw [mapM_cons_apply, List.flatMap_cons]
    refine (each first List.mem_cons_self now grown).bind tracking fun head between grows held => ?_
    have others := ih (fun item member => each item (List.mem_cons_of_mem first member)) between (grown.trans grows)
    exact others.last tracking fun tail after _ all => of_ok rfl (.refl after) (tracking.refl after) (.cons held all)

end Releases

theorem Releasable.grows {scope? : Option Value} {referent : Value} (grows : store.Grows later)
    (able : Releasable tracks reason scope? store referent) : Releasable tracks reason scope? later referent :=
  fun now more => able now (grows.trans more)

end

section

variable {tracks : Store → List Value → Store → Prop} (tracking : Tracking tracks) {reason : Failure → Prop}
  {store : Store} {scope? : Option Value} {kind : Kind} {view output : Value} {referents : List Value}
  {layers steps : Nat}

include tracking

/-- A field of a view gives back what its referents are released as. -/
theorem giveBack_releases {strategy : Strategy} (named : store.units.WellNamed)
    (holds : store.Holds scope? (store.Shows scope? layers) strategy output referents)
    (able : ∀ referent ∈ referents, Releasable tracks reason scope? store referent)
    (inner : store.Shows scope? layers output referents →
      Releases tracks reason (callWithin steps (.bound output .rebuild) ⟨[], []⟩) store referents fun _ => True)
    (enough : 1 ≤ steps) :
    Releases tracks reason (giveBack (callWithin steps) strategy output) store referents fun _ => True := by
  obtain ⟨steps, rfl⟩ : ∃ less, steps = less + 1 := ⟨steps - 1, by omega⟩
  have given {referent : Value} (held : store.object? output = some (.pointing scope? referent))
      (only : referents = [referent]) :
      Releases tracks reason (ask (callWithin (steps + 1)) output "into_owned") store referents fun _ => True := by
    subst only
    exact (able referent List.mem_cons_self store (.refl store)).congr (ask_pointing held steps)
  cases strategy with
  | copy =>
    cases holds
    exact .of_ok rfl (.refl store) (tracking.refl store) trivial
  | regular | flatten =>
    obtain ⟨referent, held, only⟩ := holds
    exact given held only
  | unbox =>
    obtain ⟨referent, held, only⟩ := holds
    exact (given held only).last tracking fun _ after _ _ =>
      .of_ok (create_apply _ after) (.put after _) (tracking.put after _) trivial
  | nested =>
    cases layers with
    | zero => exact holds.elim
    | succ layers =>
      have made := inner holds
      obtain ⟨kind, forms, ordinary, shown, slots, -⟩ := holds
      exact made.congr (giveBack_nested_eq forms named (ordinary.slots forms) shown slots _)

/-- Each field of a view gives back an attribute of the instance. -/
theorem sourceArguments_releases {fields : List FieldView} {viewed : List (String × Value)}
    {parts : FieldView → List Value} {loaded : Loaded} (named : store.units.WellNamed)
    (forms : store.units.Forms kind loaded fields) (ordinary : store.units.Ordinary kind loaded)
    (shown : store.object? view = some (.entity (kind.onSide .view) viewed))
    (each : ∀ field ∈ fields, ∃ output, viewed.lookup field.slot = some output ∧
      store.Holds scope? (store.Shows scope? layers) field.field.strategy output (parts field))
    (able : ∀ referent ∈ fields.flatMap parts, Releasable tracks reason scope? store referent)
    (inner : ∀ {now : Store} {output : Value} {referents : List Value}, store.Grows now →
      now.Shows scope? layers output referents →
      (∀ referent ∈ referents, Releasable tracks reason scope? now referent) →
        Releases tracks reason (callWithin steps (.bound output .rebuild) ⟨[], []⟩) now referents fun _ => True)
    (enough : 1 ≤ steps) :
    Releases tracks reason (sourceArguments (callWithin steps) view fields) store (fields.flatMap parts)
      (List.Forall₂ (fun field entry => entry.1 = field.slot ∧ True) fields) := by
  refine Releases.mapM tracking parts (fun field (entry : String × Value) => entry.1 = field.slot ∧ True) store fields
    (fun field member now grows => ?_) store (.refl store)
  obtain ⟨output, found, holds⟩ := each field member
  have able' : ∀ referent ∈ parts field, Releasable tracks reason scope? now referent := fun referent inside =>
    (able referent (List.mem_flatMap.mpr ⟨field, member, inside⟩)).grows grows
  have read := member_of_member?
    (member?_slot (grows.units ▸ forms) (grows.object? shown) (ordinary.slots forms field member) found)
  have given := giveBack_releases tracking (grows.units ▸ named) (holds.grows grows fun _ _ => Store.Shows.grows grows) able'
    (fun shows_ => inner grows shows_ able') enough
  refine Releases.congr (bind_of_ok read) ?_
  exact given.last tracking fun _ after _ _ => .of_ok rfl (.refl after) (tracking.refl after) ⟨rfl, trivial⟩

theorem rebuild_releases (named : store.units.WellNamed) (shows_ : store.Shows scope? layers view referents)
    (able : ∀ referent ∈ referents, Releasable tracks reason scope? store referent)
    (enough : 2 * layers + 1 ≤ steps) :
    Releases tracks reason (callWithin steps (.bound view .rebuild) ⟨[], []⟩) store referents fun _ => True := by
  induction layers generalizing store view referents steps with
  | zero => exact shows_.elim
  | succ layers ih =>
    obtain ⟨steps, rfl⟩ : ∃ less, steps = less + 3 := ⟨steps - 3, by omega⟩
    obtain @⟨kind, loaded, fields, viewed, parts, forms, ordinary, shown, slots, each⟩ := shows_
    have given := sourceArguments_releases tracking named forms ordinary shown each able (fun grows shows_ able =>
      ih (grows.units ▸ named) shows_ able (show 2 * layers + 1 ≤ steps + 1 by omega)) (by omega)
    refine Releases.congr (rebuild_eq forms named ordinary shown slots _) ?_
    refine given.last tracking fun entries between grows each => ?_
    have made := construct_declared (grows.units ▸ forms) (grows.units ▸ named) (ordinary.slots forms) .source
      (slots_of_each each)
    exact .of_ok made (.put between _) (tracking.put between _) trivial

theorem putTogether_releases (named : store.units.WellNamed)
    (shows_ : store.ShowsLayer scope? (store.Shows scope? layers) kind view referents)
    (able : ∀ referent ∈ referents, Releasable tracks reason scope? store referent) {maker : Kind}
    (chosen : maker = kind.onSide .source ∨ maker = (kind.onSide .source).base) (enough : 2 * layers + 2 ≤ steps) :
    Releases tracks reason (callWithin steps (.bound (.kind maker) .putTogether) ⟨[view], []⟩) store referents
      fun _ => True := by
  obtain ⟨steps, rfl⟩ : ∃ less, steps = less + 2 := ⟨steps - 2, by omega⟩
  have whole : store.Shows scope? (layers + 1) view referents := ⟨kind, shows_⟩
  have rebuilt := rebuild_releases tracking named whole able (show 2 * (layers + 1) + 1 ≤ steps + 3 by omega)
  obtain ⟨forms, ordinary, shown, slots, each⟩ := shows_
  refine rebuilt.congr ?_
  rw [putTogether_eq forms named ordinary shown slots chosen, ← rebuild_eq forms named ordinary shown slots]

end

/-! ### The clones of what is released -/

/-- The clones that are counted when pointers to these values give up owned ones. -/
def releaseCost (scope? : Option Value) (store : Store) (referents : List Value) : Nat :=
  (referents.map fun referent => clonesOf (release scope? referent) store).sum

section

variable {store later : Store} {scope? : Option Value} {kind : Kind} {view output : Value}
  {referents : List Value} {layers steps : Nat}

theorem releaseCost_grows (grows : store.Grows later)
    (steady : ∀ referent ∈ referents, Steady (release scope? referent) store) :
    releaseCost scope? later referents = releaseCost scope? store referents := by
  unfold releaseCost
  congr 1
  exact List.map_congr_left fun referent member => (steady referent member).clonesOf_eq grows

theorem Releases.costs {run : Run Value} {count : List Value → Nat}
    (releases : Releases (fun before referents after => after.clones = before.clones + count referents)
      (fun _ => False) run store referents fun _ => True) : Costs run store (count referents) := by
  unfold Releases Ends at releases
  split at releases
  next ran => exact ⟨_, _, ran, releases.1, releases.2.1⟩
  · exact releases.2.elim

end

end CowView.Live
