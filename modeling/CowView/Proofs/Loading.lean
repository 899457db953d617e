import CowView.Proofs.Calls
import CowView.Proofs.Members
import CowView.Proofs.Naming
import CowView.Proofs.Resolution

/-!
Units that are loaded. A unit holds the resolved declarations of a text, in their order, and only a name
that the generated text takes for granted can put other values in the place of their functions
(`LoadedUnit.From`). As the declarations are well named, so are the members of all kinds.
-/

namespace CowView

/-! ### Names of members -/

theorem toString_injective {first second : Nat} (same : toString first = toString second) :
    first = second := by
  rw [Nat.toString_eq_ofList_toDigits, Nat.toString_eq_ofList_toDigits] at same
  rw [← @Nat.ofDigitChars_ten_toDigits first, String.ofList_injective same, Nat.ofDigitChars_ten_toDigits]

theorem counted_unreserved (index : Nat) : "_" ++ toString index ∉ reservedMembers := by
  intro reserved
  have shown : ∀ name ∈ reservedMembers, name.toList.head? ≠ some '_' := by decide
  exact shown _ reserved (by simp [String.toList_append])

/-- Names of attributes made of different numbers differ, and are none of the reserved ones. -/
theorem memberNames_counted (count : Nat) :
    MemberNames ((List.range count).map fun index => "_" ++ toString index) := by
  constructor
  · refine List.pairwise_map.mpr (List.nodup_range.imp fun different same => different ?_)
    exact toString_injective ((String.append_right_inj "_").mp same)
  · intro name present
    obtain ⟨index, -, rfl⟩ := List.mem_map.mp present
    exact counted_unreserved index

theorem FieldList.WellNamed.memberNames {isWord : String → Prop} {list : FieldList}
    (named : list.WellNamed isWord) : MemberNames (list.fields.map (·.slot)) := by
  obtain ⟨counted, named⟩ := named
  split at named
  · have named' : ∀ field ∈ list.fields, field.name = some field.slot := by
      intro field member
      obtain ⟨name, shown, -⟩ := named.1 field member
      simp [Field.slot, shown]
    have slots : list.fields.filterMap (·.name) = list.fields.map (·.slot) := by
      rw [List.filterMap_congr named']
      exact congrFun List.filterMap_eq_map _
    refine ⟨slots ▸ named.2, fun name member => ?_⟩
    obtain ⟨field, present, rfl⟩ := List.mem_map.mp member
    obtain ⟨name, shown, public_, -⟩ := named.1 field present
    have same : field.slot = name := by simp [Field.slot, shown]
    exact same ▸ public_.unreserved rfl
  · have slots : list.fields.map (·.slot) =
        (list.fields.map (·.index)).map fun index => "_" ++ toString index := by
      rw [List.map_map]
      exact List.map_congr_left fun field member => by simp [Field.slot, named field member]
    rw [slots, counted]
    exact memberNames_counted _
  · rw [named]
    exact ⟨.nil, fun name member => nomatch member⟩

namespace View

variable {settings : Settings}

theorem memberNames_resolved {isWord : String → Prop} {declaration : Declaration}
    (named : declaration.WellNamed isWord) :
    MemberNames ((resolved settings declaration).body.variants.map (·.variant.name)) := by
  have named := named.body
  show MemberNames ((resolvedBody settings declaration).variants.map _)
  unfold resolvedBody
  cases body : declaration.body with
  | record list => exact ⟨.nil, fun name member => nomatch member⟩
  | union variants =>
    rw [body] at named
    obtain ⟨distinct, each⟩ := named
    refine ⟨?_, fun name member => ?_⟩
    · rw [ViewBody.variants, List.map_map]
      exact distinct
    · obtain ⟨view, inside, rfl⟩ := List.mem_map.mp member
      obtain ⟨variant, present, rfl⟩ := List.mem_map.mp inside
      exact (each variant present).shown.unreserved rfl

/-- A declaration is well named if the attributes of each of its kinds differ as they are compiled. -/
theorem wellNamed_of_attributeLists {view : View} (names : MemberNames (view.body.variants.map (·.variant.name)))
    (distinct : ∀ slots ∈ Live.attributeLists view, slots.Nodup) : view.body.WellNamed := by
  unfold Live.attributeLists at distinct
  cases body : view.body with
  | record fields =>
    rw [body] at distinct
    exact distinct _ List.mem_cons_self
  | union variants =>
    rw [body] at distinct names
    exact ⟨names, fun variant member => distinct _ (List.mem_map_of_mem member)⟩

end View

theorem Context.resolve_eq_ok {settings : Settings} {text : String} {views : List View}
    (resolves : (Context.ofSettings settings).resolve text = .ok views) :
    ∃ state, readUnit text [] = (none, state) ∧
      View.resolveAll settings state.declared = .ok views ∧
        views = state.declared.map (View.resolved settings) := by
  have registry : (Context.ofSettings settings).registry = [] := rfl
  unfold Context.resolve Context.parse at resolves
  rw [registry] at resolves
  rcases read : readUnit text [] with ⟨fault, state⟩
  rw [read] at resolves
  cases fault with
  | some fault => cases resolves
  | none =>
    have accepted : View.resolveAll settings state.declared = .ok views := resolves
    exact ⟨state, rfl, accepted, (View.resolveAll_eq_ok settings accepted).1⟩

theorem Context.resolve_memberNames {settings : Settings} {text : String} {views : List View}
    (resolves : (Context.ofSettings settings).resolve text = .ok views) :
    ∀ view ∈ views, MemberNames (view.body.variants.map (·.variant.name)) := by
  obtain ⟨state, read, -, rfl⟩ := resolve_eq_ok resolves
  intro view member
  obtain ⟨declaration, present, rfl⟩ := List.mem_map.mp member
  have named : ∀ declaration ∈ state.declared, declaration.WellNamed (NameOf fun _ => True) :=
    readUnit_wellNamed (fun _ _ => trivial) (fun _ => trivial) read
  exact View.memberNames_resolved (named declaration present)

namespace Live

/-! ### Loading -/

/-- The unit holds resolved declarations that can be written down, each with its own functions unless a declaration
before it hides the name that is taken for granted. -/
structure LoadedUnit.From (found : LoadedUnit) (views : List View) (number : Nat) : Prop where
  resolved : found.declarations.map (·.view) = views
  writable : unwritable? views = none
  hidden : ∀ position loaded, found.declarations[position]? = some loaded → loaded.inPlace ≠ none →
    hidingKind? views number position ≠ none

/-- The attributes of each kind of declarations that can be written down differ. -/
theorem nodup_of_writable {views : List View} (writable : unwritable? views = none) {view : View}
    (member : view ∈ views) {slots : List String} (own : slots ∈ attributeLists view) : slots.Nodup := by
  unfold unwritable? at writable
  split at writable
  · cases writable
  · split at writable
    next both =>
      rw [Bool.and_eq_true, List.all_eq_true, List.all_eq_true] at both
      exact of_decide_eq_true (both.2 slots (List.mem_flatMap.mpr ⟨view, member, own⟩))
    · cases writable

theorem Ends.mapM {α β : Type} {step : α → Run β} (related : α → β → Prop) (kept : Store → Prop)
    (each : ∀ item store, kept store → Ends (step item) store
      (fun result after => related item result ∧ kept after) fun _ after => kept after)
    (items : List α) (store : Store) (holds : kept store) :
    Ends (items.mapM step) store (fun results after => List.Forall₂ related items results ∧ kept after)
      fun _ after => kept after := by
  induction items generalizing store with
  | nil => exact ⟨.nil, holds⟩
  | cons first rest ih =>
    rw [mapM_cons_apply]
    refine Ends.bind ((each first store holds).mono (fun head between both => ?_) fun _ _ => id)
    refine Ends.bind ((ih between both.2).mono (fun tail after others => ?_) fun _ _ => id)
    exact ⟨.cons both.1 others.1, others.2⟩

theorem loadOne_ends (views : List View) (unit position : Nat) (view : View) (store : Store) :
    Ends (loadOne views unit position view) store
      (fun loaded after => (loaded.view = view ∧
        (loaded.inPlace ≠ none → hidingKind? views unit position ≠ none)) ∧ after.units = store.units)
      fun _ after => after.units = store.units := by
  unfold loadOne
  cases hidden : hidingKind? views unit position with
  | none => exact ⟨⟨rfl, fun other => absurd rfl other⟩, rfl⟩
  | some kind =>
    have wrapped (method : Method) : Evolving (wrapped kind method) := .construct _ _
    refine Ends.bind ((wrapped .takeApart store).mono (fun _ between evolves => ?_) fun _ _ evolves =>
      evolves.units)
    refine Ends.bind ((wrapped .putTogether between).mono (fun _ after evolves' => ?_)
      fun _ _ evolves' => evolves'.units.trans evolves.units)
    exact ⟨⟨rfl, fun _ => nofun⟩, evolves'.units.trans evolves.units⟩

def LoadedAs (views : List View) (number : Nat) (item : View × Nat) (loaded : Loaded) : Prop :=
  loaded.view = item.1 ∧ (loaded.inPlace ≠ none → hidingKind? views number item.2 ≠ none)

/-- Declarations that are loaded one by one as they are resolved keep their order. -/
theorem views_of_each {related : View × Nat → Loaded → Prop} {views : List View} {declarations : List Loaded}
    (each : List.Forall₂ related views.zipIdx declarations)
    (same : ∀ item loaded, related item loaded → loaded.view = item.1) : declarations.map (·.view) = views := by
  have both : List.Forall₂ (· = ·) (views.zipIdx.map (·.1)) (declarations.map (·.view)) := by
    rw [List.forall₂_map_left_iff, List.forall₂_map_right_iff]
    exact each.imp fun item loaded known => (same item loaded known).symm
  rw [List.forall₂_eq_eq_eq] at both
  rw [← both]
  simp

theorem exists_related {related : View × Nat → Loaded → Prop} {views : List View} {declarations : List Loaded}
    (each : List.Forall₂ related views.zipIdx declarations) {position : Nat} {loaded : Loaded}
    (found : declarations[position]? = some loaded) :
    ∃ view, views[position]? = some view ∧ related (view, position) loaded := by
  obtain ⟨inside, rfl⟩ := List.getElem?_eq_some_iff.mp found
  have inside' : position < views.zipIdx.length := by rwa [each.length_eq]
  have both := each.get inside' inside
  rw [List.get_eq_getElem, List.get_eq_getElem, List.getElem_zipIdx, Nat.zero_add] at both
  exact ⟨_, List.getElem?_eq_getElem (by simpa using inside'), both⟩

theorem LoadedUnit.From.of_each {name : String} {views : List View} {number : Nat}
    {declarations : List Loaded} (writable : unwritable? views = none)
    (each : List.Forall₂ (LoadedAs views number) views.zipIdx declarations) :
    LoadedUnit.From ⟨name, declarations⟩ views number := by
  refine ⟨views_of_each each fun _ _ both => both.1, writable, fun position loaded found other => ?_⟩
  obtain ⟨view, -, -, hides⟩ := exists_related each found
  exact hides other

theorem LoadedUnit.From.ofViews (name : String) {views : List View} (writable : unwritable? views = none)
    (number : Nat) : (LoadedUnit.ofViews name views).From views number := by
  refine ⟨by simp [LoadedUnit.ofViews, Function.comp_def], writable, fun position loaded found other => ?_⟩
  obtain ⟨view, -, rfl⟩ := List.mem_map.mp (List.mem_of_getElem? found)
  exact absurd rfl other

theorem loadViews_ends (name : String) (views : List View) (store : Store) :
    Ends (loadViews name views) store
      (fun _ after => ∃ found : LoadedUnit, after.units = store.units ++ [found] ∧
        found.From views store.units.length)
      fun _ after => after.units = store.units ∨ ∃ found : LoadedUnit,
        after.units = store.units ++ [found] ∧ found.From views store.units.length := by
  unfold loadViews
  refine .ofGet ?_
  dsimp only
  split
  · exact .inl rfl
  next known =>
    obtain ⟨writable, -⟩ := Option.or_eq_none_iff.mp known
    refine .ofSet (Ends.bind ?_)
    have each := Ends.mapM (LoadedAs views store.units.length)
      (fun now => now.units = store.units ++ [LoadedUnit.ofViews name views])
      (fun item now kept => (loadOne_ends views _ item.2 item.1 now).mono
        (fun _ _ both => ⟨both.1, both.2.trans kept⟩) fun _ _ same => same.trans kept)
      views.zipIdx { store with units := store.units ++ [LoadedUnit.ofViews name views] } rfl
    refine each.mono (fun declarations between both => ?_) fun _ after same =>
      .inr ⟨_, same, .ofViews name writable _⟩
    exact ⟨⟨name, declarations⟩, by simp [both.2], .of_each writable both.1⟩

def Units.FromTexts (units : Units) : Prop :=
  ∀ (number : Nat) (found : LoadedUnit), units[number]? = some found → ∃ settings text views,
    (Context.ofSettings settings).resolve text = .ok views ∧ found.From views number

namespace Units.FromTexts

variable {units : Units}

theorem nil : Units.FromTexts [] := fun _ _ found => by cases found

theorem append (texts : units.FromTexts) {found : LoadedUnit} {settings : Settings} {text : String}
    {views : List View} (resolves : (Context.ofSettings settings).resolve text = .ok views)
    (new : found.From views units.length) : Units.FromTexts (units ++ [found]) := by
  intro number other present
  by_cases old : number < units.length
  · rw [List.getElem?_append_left old] at present
    exact texts number other present
  · rw [List.getElem?_append_right (by omega)] at present
    obtain ⟨last, rfl⟩ : number = units.length ∧ found = other := by
      rw [List.getElem?_singleton] at present
      split at present
      next last => exact ⟨by omega, Option.some.inj present⟩
      · cases present
    exact ⟨settings, text, views, resolves, last ▸ new⟩

theorem wellNamed (texts : units.FromTexts) : units.WellNamed := by
  intro unit position loaded found
  obtain ⟨inside, present, at_⟩ := Option.bind_eq_some_iff.mp found
  obtain ⟨settings, text, views, resolves, from_⟩ := texts unit inside present
  have member := List.mem_map_of_mem (f := (·.view)) (List.mem_of_getElem? at_)
  rw [from_.resolved] at member
  exact View.wellNamed_of_attributeLists (Context.resolve_memberNames resolves _ member)
    fun slots => nodup_of_writable from_.writable member

end Units.FromTexts

theorem load_ends (name text : String) (settings : Settings) {store : Store}
    (texts : store.units.FromTexts) :
    Ends (load name text settings) store (fun _ after => after.units.FromTexts)
      fun _ after => after.units.FromTexts := by
  unfold load
  split
  next views resolves =>
    refine (loadViews_ends name views store).mono (fun _ after added => ?_) fun _ after added => ?_
    · obtain ⟨found, units, from_⟩ := added
      exact units ▸ texts.append resolves from_
    · rcases added with units | ⟨found, units, from_⟩
      · exact units ▸ texts
      · exact units ▸ texts.append resolves from_
  · exact texts

/-- A unit none of whose names is taken for granted has the generated functions. -/
theorem hidingKind?_eq_none {views : List View}
    (free : ∀ view ∈ views, ∀ side, view.nameOn side ≠ takenForGranted) (unit position : Nat) :
    hidingKind? views unit position = none := by
  rw [hidingKind?, List.findSome?_eq_none_iff]
  intro earlier _
  cases found : views[earlier]? with
  | none => rfl
  | some view =>
    have names := free view (List.mem_of_getElem? found)
    simp [names]

end Live

end CowView
