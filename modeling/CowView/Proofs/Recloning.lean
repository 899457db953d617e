import CowView.Proofs.Evolution

/-!
Clones that are made again. A value that can be cloned can be cloned in every later store, and that counts as
many clones (`clone_again`). Two runs on copies are followed side by side: they have recorded copies of the same
objects, each in places of its own.
-/

namespace CowView.Live

section

variable {α β : Type} {run : Copying α} {next : α → Copying β} {copies between : Copies} {store middle : Store}

theorem Copying.bind_of_ok {found : α} (first : run copies store = .ok (found, between) middle) :
    (run >>= next) copies store = next found between middle :=
  Live.bind_of_ok first

theorem Copying.bind_eq_ok {result : β × Copies} {after : Store}
    (ran : (run >>= next) copies store = .ok result after) : ∃ found middle, run copies store = .ok found middle ∧
      next found.1 found.2 middle = .ok result after :=
  Live.bind_eq_ok ran

end

def Store.IsNew (store : Store) : Value → Prop
  | .object address => store.objects.size ≤ address
  | _ => False

/-- What two runs on copies have made of a value that was there at their starts: nothing but the value itself,
or a new object each. -/
def Recopied (start start' : Store) (source copy copy' : Value) : Prop :=
  ¬ start.IsNew source ∧ (copy = source ∧ copy' = source ∨ start.IsNew copy ∧ start'.IsNew copy')

/-- Two runs on copies have come equally far: they have copies of the same objects, and have counted as many
clones. -/
structure Abreast (start start' : Store) (copies : Copies) (store : Store) (copies' : Copies) (store' : Store) :
    Prop where
  grows : start.Grows store
  grows' : start'.Grows store'
  recorded : ∀ address, Option.Rel (Recopied start start' (.object address)) (copies.lookup address)
    (copies'.lookup address)
  counted : start.clones ≤ store.clones
  counts : store'.clones + start.clones = store.clones + start'.clones

/-- Where the first run gives a result, the second one gives one too, and comes as far. -/
def Follows (start start' : Store) {α : Type} (run run' : Copying α) (related : α → α → Prop) : Prop :=
  ∀ (copies copies' : Copies) (store store' : Store), Abreast start start' copies store copies' store' →
    ∀ (found : α) (later : Copies) (after : Store), run copies store = .ok (found, later) after →
      ∃ found' later' after', run' copies' store' = .ok (found', later') after' ∧
        Abreast start start' later after later' after' ∧ related found found'

section

variable {start start' : Store}

theorem Recopied.same_iff {source copy copy' : Value} (lasts : start.Grows start')
    (recopied : Recopied start start' source copy copy') : copy = source ↔ copy' = source := by
  obtain ⟨old, ⟨rfl, rfl⟩ | ⟨new, new'⟩⟩ := recopied
  · exact Iff.rfl
  · have larger := lasts.size_le
    constructor
    · rintro rfl
      exact absurd new old
    · rintro rfl
      cases copy' with
      | object address =>
        have more : start'.objects.size ≤ address := new'
        have fewer : ¬ start.objects.size ≤ address := old
        omega
      | _ => exact new'.elim

namespace Abreast

variable {copies copies' : Copies} {store store' : Store}

theorem put (abreast : Abreast start start' copies store copies' store') (object object' : Object) :
    Abreast start start' copies (store.put object) copies' (store'.put object') :=
  ⟨abreast.grows.trans (.put store object), abreast.grows'.trans (.put store' object'), abreast.recorded,
    abreast.counted, abreast.counts⟩

theorem record (abreast : Abreast start start' copies store copies' store') {address : Address}
    {copy copy' : Value} (recopied : Recopied start start' (.object address) copy copy') :
    Abreast start start' ((address, copy) :: copies) store ((address, copy') :: copies') store' := by
  refine { abreast with recorded := fun other => ?_ }
  by_cases same : other = address
  · subst same
    simpa only [List.lookup_cons_self] using Option.Rel.some recopied
  · simpa only [List.lookup_cons, beq_eq_false_iff_ne.mpr same] using abreast.recorded other

theorem next_new (abreast : Abreast start start' copies store copies' store') :
    start.IsNew store.next ∧ start'.IsNew store'.next :=
  ⟨abreast.grows.size_le, abreast.grows'.size_le⟩

end Abreast

namespace Follows

variable {α β : Type} {run run' : Copying α} {related : α → α → Prop}

theorem pure {found found' : α} (same : related found found') :
    Follows start start' (pure found : Copying α) (pure found') related := by
  intro copies copies' store store' abreast result later after ran
  cases ran
  exact ⟨found', copies', store', rfl, abreast, same⟩

theorem misuse (problem : Misuse) {run' : Copying α} :
    Follows start start' (misuse problem : Copying α) run' related := by
  intro copies copies' store store' _ result later after ran
  cases ran

theorem mono {related' : α → α → Prop} (follows : Follows start start' run run' related)
    (wider : ∀ found found', related found found' → related' found found') :
    Follows start start' run run' related' := by
  intro copies copies' store store' abreast result later after ran
  obtain ⟨found', later', after', ran', abreast', same⟩ := follows _ _ _ _ abreast _ _ _ ran
  exact ⟨found', later', after', ran', abreast', wider _ _ same⟩

theorem bind {next next' : α → Copying β} {related' : β → β → Prop}
    (first : Follows start start' run run' related)
    (rest : ∀ found found', related found found' →
      Follows start start' (next found) (next' found') related') :
    Follows start start' (run >>= next) (run' >>= next') related' := by
  intro copies copies' store store' abreast result later after ran
  obtain ⟨⟨found, between⟩, middle, ran, others⟩ := Copying.bind_eq_ok ran
  obtain ⟨found', between', middle', ran', abreast', same⟩ := first _ _ _ _ abreast _ _ _ ran
  obtain ⟨result', later', after', others', abreast'', same'⟩ := rest found found' same _ _ _ _ abreast' _ _ _ others
  exact ⟨result', later', after', (Copying.bind_of_ok ran').trans others', abreast'', same'⟩

theorem mapM {step step' : α → Copying α}
    (each : ∀ item, Follows start start' (step item) (step' item) fun copy copy' => copy = item ↔ copy' = item)
    (items : List α) :
    Follows start start' (items.mapM step) (items.mapM step') fun copies copies' =>
      copies = items ↔ copies' = items := by
  induction items with
  | nil => exact .pure Iff.rfl
  | cons first rest ih =>
    rw [List.mapM_cons, List.mapM_cons]
    refine (each first).bind fun copy copy' same => ih.bind fun copies copies' others => .pure ?_
    rw [List.cons.injEq, List.cons.injEq, same, others]

theorem record {address : Address} (old : ¬ start.IsNew (.object address)) (object object' : Object) :
    Follows start start' (do Copying.record address (← create object))
      (do Copying.record address (← create object')) (Recopied start start' (.object address)) := by
  intro copies copies' store store' abreast result later after ran
  cases ran
  have recopied : Recopied start start' (.object address) store.next store'.next := ⟨old, .inr abreast.next_new⟩
  exact ⟨store'.next, (address, store'.next) :: copies', store'.put object', rfl,
    (abreast.put object object').record recopied, recopied⟩

theorem fill {address : Address} (old : ¬ start.IsNew (.object address)) {empty : Object}
    {content content' : Copying Object} (filled : Follows start start' content content' fun _ _ => True) :
    Follows start start' (Copying.fill address empty content) (Copying.fill address empty content')
      (Recopied start start' (.object address)) := by
  intro copies copies' store store' abreast result later after ran
  have recopied : Recopied start start' (.object address) store.next store'.next := ⟨old, .inr abreast.next_new⟩
  change (content >>= fun filled => do
    write store.next filled
    return store.next) ((address, store.next) :: copies) (store.put empty) = _ at ran
  obtain ⟨⟨object, between⟩, middle, inner, written⟩ := Copying.bind_eq_ok ran
  cases written
  obtain ⟨object', between', middle', inner', abreast', -⟩ :=
    filled _ _ _ _ ((abreast.put empty empty).record recopied) _ _ _ inner
  have ran' : (content' >>= fun filled => do
      write store'.next filled
      return store'.next) ((address, store'.next) :: copies') (store'.put empty) = _ :=
    Copying.bind_of_ok inner'
  refine ⟨store'.next, between', _, ran', ?_, recopied⟩
  exact { abreast' with
    grows := abreast'.grows.write abreast.next_new.1 _
    grows' := abreast'.grows'.write abreast.next_new.2 _ }

/-- Both runs give back the copy that they have recorded, or none of them has one. -/
theorem known {address : Address} {rest rest' : Copying Value}
    (others : Follows start start' rest rest' (Recopied start start' (.object address))) :
    Follows start start'
      (do match (← get).lookup address with
        | some earlier => return earlier
        | none => rest)
      (do match (← get).lookup address with
        | some earlier => return earlier
        | none => rest') (Recopied start start' (.object address)) := by
  intro copies copies' store store' abreast
  have recorded := abreast.recorded address
  show ∀ found later after, (match copies.lookup address with
    | some earlier => (Pure.pure earlier : Copying Value)
    | none => rest) copies store = .ok (found, later) after → ∃ found' later' after',
      (match copies'.lookup address with
        | some earlier => (Pure.pure earlier : Copying Value)
        | none => rest') copies' store' = .ok (found', later') after' ∧ _
  generalize copies.lookup address = entry at recorded
  generalize copies'.lookup address = entry' at recorded
  cases recorded with
  | some recopied => exact pure recopied _ _ _ _ abreast
  | none => exact others _ _ _ _ abreast

theorem tuple {copy copy' : Value → Copying Value} (lasts : start.Grows start')
    (each : ∀ value, Follows start start' (copy value) (copy' value) (Recopied start start' value))
    {address : Address} (old : ¬ start.IsNew (.object address)) (items : List Value) :
    Follows start start' (Copying.tuple copy address items) (Copying.tuple copy' address items)
      (Recopied start start' (.object address)) := by
  refine (mapM (fun item => (each item).mono fun _ _ => Recopied.same_iff lasts) items).bind
    fun found found' same => .known ?_
  by_cases all : found = items
  · simp only [all, same.mp all, if_true]
    exact .pure ⟨old, .inl ⟨rfl, rfl⟩⟩
  · simp only [all, mt same.mpr all, if_false]
    exact record old _ _

theorem counted : Follows start start' (modifyThe Store fun store => { store with clones := store.clones + 1 })
    (modifyThe Store fun store => { store with clones := store.clones + 1 }) fun _ _ => True := by
  intro copies copies' store store' abreast result later after ran
  cases ran
  refine ⟨_, copies', { store' with clones := store'.clones + 1 }, rfl, ?_, trivial⟩
  have more := abreast.counted
  have counts := abreast.counts
  exact {
    grows := ⟨abreast.grows.objects, abreast.grows.units, abreast.grows.owners, abreast.grows.targets⟩
    grows' := ⟨abreast.grows'.objects, abreast.grows'.units, abreast.grows'.owners, abreast.grows'.targets⟩
    recorded := abreast.recorded
    counted := by show start.clones ≤ store.clones + 1; omega
    counts := by show store'.clones + 1 + start.clones = store.clones + 1 + start'.clones; omega }

theorem object {copy copy' : Value → Copying Value} (lasts : start.Grows start')
    (each : ∀ value, Follows start start' (copy value) (copy' value) (Recopied start start' value))
    {address : Address} (old : ¬ start.IsNew (.object address)) (found : Object) :
    Follows start start' (Copying.object copy address found) (Copying.object copy' address found)
      (Recopied start start' (.object address)) := by
  have same (value : Value) : Follows start start' (copy value) (copy' value)
      fun found found' => found = value ↔ found' = value := (each value).mono fun _ _ => Recopied.same_iff lasts
  unfold Copying.object
  split
  · exact fill old ((mapM same _).bind fun _ _ _ => .pure trivial)
  · exact tuple lasts each old _
  · refine fill old ((mapM (fun entry => ?_) _).bind fun _ _ _ => .pure trivial)
    refine (same entry.2).bind fun _ _ second => (same entry.1).bind fun _ _ first => .pure ?_
    rw [Prod.ext_iff, Prod.ext_iff, first, second]
  · exact .misuse _
  · exact fill old ((each _).bind fun _ _ _ => .pure trivial)
  · exact fill old ((each _).bind fun _ _ _ => .pure trivial)
  · exact fill old ((each _).bind fun _ _ _ => (each _).bind fun _ _ _ => .pure trivial)
  · exact (each _).bind fun _ _ _ => record old _ _
  · exact fill old ((each _).bind fun _ _ _ => (each _).bind fun _ _ _ => .pure trivial)
  · exact counted.bind fun _ _ _ => record old _ _
  · refine fill old ((mapM (fun entry => ?_) _).bind fun _ _ _ => .pure trivial)
    refine (same entry.2).bind fun _ _ second => .pure ?_
    rw [Prod.ext_iff, Prod.ext_iff, second]
  all_goals exact record old _ _

/-- Copies of a value are made of the same objects in a later store. -/
theorem value (lasts : start.Grows start') {steps steps' : Nat} (enough : steps ≤ steps') (source : Value) :
    Follows start start' (Copying.value start steps source) (Copying.value start' steps' source)
      (Recopied start start' source) := by
  induction steps generalizing steps' source with
  | zero => exact .misuse _
  | succ steps ih =>
    obtain ⟨steps', rfl⟩ : ∃ less, steps' = less + 1 := ⟨steps' - 1, by omega⟩
    cases source with
    | object address =>
      unfold Copying.value
      refine .known ?_
      cases held : start.object? (.object address) with
      | none => exact .misuse _
      | some found =>
        have old : ¬ start.IsNew (.object address) := by
          obtain ⟨inside, -⟩ := Array.getElem?_eq_some_iff.mp held
          exact Nat.not_le.mpr inside
        simp only [lasts.object? held]
        exact object lasts (fun value => ih (by omega) value) old found
    | _ => exact .pure ⟨id, .inl ⟨rfl, rfl⟩⟩

end Follows

end

theorem clone_again {store after later : Store} {value copy : Value} (ran : clone value store = .ok copy after)
    (grows : store.Grows later) : ∃ copy' after', clone value later = .ok copy' after' ∧
      store.clones ≤ after.clones ∧ after'.clones + store.clones = after.clones + later.clones := by
  rw [clone_apply] at ran
  obtain ⟨⟨found, copies⟩, between, first, rest⟩ := bind_eq_ok ran
  cases rest
  have start : Abreast store later [] store [] later :=
    ⟨.refl store, .refl later, fun _ => .none, Nat.le_refl _, Nat.add_comm _ _⟩
  have enough : 2 * (store.objects.size + 8) ≤ 2 * (later.objects.size + 8) := by
    have more := grows.size_le
    omega
  obtain ⟨found', copies', between', first', abreast, -⟩ :=
    Follows.value grows enough value _ _ _ _ start _ _ _ first
  refine ⟨found', between', ?_, abreast.counted, abreast.counts⟩
  rw [clone_apply, bind_of_ok first']
  rfl

end CowView.Live
