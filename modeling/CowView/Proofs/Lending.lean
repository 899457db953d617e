import CowView.Proofs.Captures
import CowView.Proofs.Ties
import CowView.Proofs.ViewParts

/-!
Views of lent instances. Whatever is made for a view of an instance that is lent in an open scope is tied to the
scope, also when the view is not finished, and what the fields of the view hold points to values borrowed in it.
-/

namespace CowView.Live

namespace Store

def Fits (store : Store) (strategy : Strategy) (content : Value) : Prop :=
  strategy = .flatten → store.DerefsByKind content

/-- An instance of a declared kind whose contents fit their strategies, through any number of nested fields. -/
def IsFit (store : Store) (value : Value) : Prop := ∃ layers, Layered (store.InstanceLayer store.Fits) layers value

end Store

section

variable {start store : Store} {scope : Value} {layers : Nat} {content : Value}

theorem Ties.takeIn {strategy : Strategy} (standard : store.Standard) (fits : store.Fits strategy content)
    (clear : store.Clear content) (flat : strategy ≠ .nested) (open_ : store.IsOpen (some scope)) (steps : Nat) :
    Ties scope (Live.takeIn (callWithin steps) (some scope) strategy content) store fun output after =>
      ∃ referents, after.Holds (some scope) (after.Shows (some scope) layers) strategy output referents := by
  have pointing {output referent : Value} {after : Store}
      (given : after.object? output = some (.borrowed referent scope)) :
      ∃ referents, after.Holds (some scope) (after.Shows (some scope) layers) .regular output referents :=
    ⟨[referent], referent, given, rfl⟩
  cases strategy with
  | regular => exact (createBorrowed open_).mono fun _ _ _ given => pointing given
  | copy => exact (clone clear).mono fun _ _ _ _ => ⟨[], rfl⟩
  | flatten =>
    refine Ties.bind requireFlattenable fun _ between grows _ => ?_
    refine Ties.bind (createBorrowed (open_.grows grows)) fun pointer now grows' given => ?_
    have all := grows.trans grows'
    refine (asDeref (standard.grows all) given (open_.grows all) ((fits rfl).grows all) steps).mono ?_
    exact fun output after _ ⟨target, given⟩ => pointing given
  | unbox =>
    refine Ties.bind unboxed fun inner between grows _ => ?_
    exact (createBorrowed (open_.grows grows)).mono fun _ _ _ given => pointing given
  | nested => exact absurd rfl flat

/-- The instances in so many layers have views whose pointers are tied to the scope of the pointer that they are
made of, in every later store. -/
def LentWithin (start : Store) (layers : Nat) : Prop :=
  ∀ {kind : Kind} {loaded : Loaded} {fields : List FieldView} {value pointer scope : Value}
    {attributes : List (String × Value)} {store : Store} (steps : Nat),
    Layered (start.InstanceLayer start.Fits) layers value → ¬ start.Captures value → start.Clear value →
    start.units.Forms kind loaded fields →
    start.object? value = some (.entity (kind.onSide .source) attributes) → start.Grows store →
    store.object? pointer = some (.borrowed value scope) → store.IsOpen (some scope) → layers ≤ steps →
      ∃ less, layers = less + 1 ∧
        Ties scope (callWithin (steps + 1) (.bound (.kind (kind.onSide .source)) .takeApart) ⟨[pointer], []⟩) store
          fun view after => ∃ referents,
            after.ShowsLayer (some scope) (after.Shows (some scope) less) kind view referents

theorem Ties.takeIn_nested (lent : LentWithin start layers) (named : start.units.WellNamed)
    (fit : Layered (start.InstanceLayer start.Fits) layers content) (free : ¬ start.Captures content)
    (clear : start.Clear content) (grows : start.Grows store) (open_ : store.IsOpen (some scope)) {steps : Nat}
    (enough : layers ≤ steps) :
    Ties scope (Live.takeIn (callWithin (steps + 1)) (some scope) .nested content) store fun output after =>
      ∃ referents, after.Holds (some scope) (after.Shows (some scope) layers) .nested output referents := by
  cases layers with
  | zero => exact fit.elim
  | succ layers =>
    have whole := fit
    obtain @⟨kind, loaded, fields, attributes, forms, held, -⟩ := fit
    have ordinary := Store.ordinary_of_not_captures free forms held
    have new := Store.Grows.put store (.borrowed content scope)
    obtain ⟨less, same, ties⟩ := lent steps whole free clear forms held (grows.trans new) (store.object?_put _)
      (open_.grows new) enough
    obtain rfl : layers = less := by omega
    obtain ⟨pointing, taken, made⟩ := Live.takeIn_nested (callWithin (steps + 1)) (some scope) content
    obtain ⟨name, isStatic, opened⟩ := open_ scope rfl
    rw [taken]
    refine Ties.after ?_ (.put store fun _ => .inl ⟨content, rfl⟩) (ties.mono fun view after _ given => ?_)
    · exact nestedView_apply (grows.units ▸ forms) (grows.units ▸ named) ordinary.generated
        (grows.object? held) (made store open_)
    · exact given.imp fun _ shows_ => ⟨kind, shows_⟩

theorem Ties.viewArguments {kind : Kind} {loaded : Loaded} {fields : List FieldView} {value pointer : Value}
    {attributes : List (String × Value)} (lent : LentWithin start layers) (standard : start.Standard)
    (named : start.units.WellNamed) (forms : start.units.Forms kind loaded fields)
    (held : start.object? value = some (.entity (kind.onSide .source) attributes))
    (fit : start.InstanceLayer start.Fits (Layered (start.InstanceLayer start.Fits) layers) value)
    (free : ¬ start.Captures value) (clear : start.Clear value) (grows : start.Grows store)
    (borrowed : store.object? pointer = some (.borrowed value scope)) (open_ : store.IsOpen (some scope))
    {steps : Nat} (enough : layers ≤ steps) :
    Ties scope (Live.viewArguments (callWithin (steps + 1)) false pointer value fields) store fun entries after =>
      List.Forall₂ (fun field entry => entry.1 = field.slot ∧ ∃ referents,
        after.Holds (some scope) (after.Shows (some scope) layers) field.field.strategy entry.2 referents) fields
          entries := by
  have names := forms.named named
  have ordinary := Store.ordinary_of_not_captures free forms held
  obtain ⟨slots, nested, flat⟩ := Store.InstanceLayer.parts fit forms held
  refine Ties.mapM (fun now field (entry : String × Value) => entry.1 = field.slot ∧ ∃ referents,
      now.Holds (some scope) (now.Shows (some scope) layers) field.field.strategy entry.2 referents) store
    (fun grows => And.imp_right (Exists.imp fun _ holds => holds.grows grows fun _ _ => Store.Shows.grows grows))
    fields (fun field member now more => ?_) store (.refl store)
  have all := grows.trans more
  have slot : field.slot ∈ fields.map (·.slot) := List.mem_map_of_mem member
  obtain ⟨entry, present, name⟩ : ∃ entry ∈ attributes, entry.1 = field.slot := by
    rw [← slots] at slot
    exact List.mem_map.mp slot
  have distinct : (attributes.map (·.1)).Nodup := slots ▸ (forms.distinct names)
  have own : attributes.lookup field.slot = some entry.2 := name ▸ lookup_of_mem distinct entry present
  have part : start.Clear entry.2 := clear.part held (List.mem_map_of_mem present)
  have read := member_of_member? (member?_slot (all.units ▸ forms) (all.object? held) (ordinary.slots forms field member) own)
  have taken : Ties scope (Live.takeIn (callWithin (steps + 1)) (some scope) field.field.strategy entry.2) now
      fun output after => ∃ referents,
        after.Holds (some scope) (after.Shows (some scope) layers) field.field.strategy output referents := by
    by_cases is : field.field.strategy = .nested
    · rw [is]
      exact takeIn_nested lent named (nested field member entry.2 own is)
        (fun captures => free (.inside forms held member is own captures)) part all (open_.grows more) enough
    · have fits : now.Fits field.field.strategy entry.2 := fun flatten => (flat field member entry.2 own is flatten).grows all
      exact takeIn (standard.grows all) fits (part.grows all) is (open_.grows more) _
  have lent' : now.object? pointer = some (.pointing (some scope) value) := more.object? borrowed
  refine Ties.after (viewArgument_apply _ lent' read) (.refl now) ?_
  exact taken.bind fun output after _ given => .pure ⟨rfl, given⟩

theorem lentWithin (standard : start.Standard) (named : start.units.WellNamed) (layers : Nat) :
    LentWithin start layers := by
  induction layers with
  | zero => exact fun _ fit => fit.elim
  | succ layers ih =>
    intro kind loaded fields value pointer scope attributes store steps fit free clear forms held grows borrowed open_
      enough
    obtain ⟨steps, rfl⟩ : ∃ less, steps = less + 1 := ⟨steps - 1, by omega⟩
    have names := forms.named named
    have ordinary := Store.ordinary_of_not_captures free forms held
    obtain ⟨slots, -⟩ := Store.InstanceLayer.parts fit forms held
    have lent' : store.object? pointer = some (.pointing (some scope) value) := borrowed
    refine ⟨layers, rfl, Ties.after (takeApart_eq (grows.units ▸ forms) (grows.units ▸ named)
      (grows.units ▸ ordinary) (grows.object? held) slots lent' open_ steps) (.refl store) ?_⟩
    refine (Ties.viewArguments ih standard named forms held fit free clear grows borrowed open_
      (show layers ≤ steps by omega)).bind fun entries between more each => ?_
    have new := Store.Grows.put between (.entity (kind.onSide .view) entries)
    have slots' := slots_of_each each
    have made := construct_declared ((grows.trans more).units ▸ forms) ((grows.trans more).units ▸ named)
      (ordinary.slots forms) .view slots'
    have holds : ∀ field ∈ fields, ∃ referents, ∃ output, entries.lookup field.slot = some output ∧
        (between.put (.entity (kind.onSide .view) entries)).Holds (some scope)
          ((between.put (.entity (kind.onSide .view) entries)).Shows (some scope) layers) field.field.strategy output
            referents := by
      intro field member
      obtain ⟨output, found, referents, holds⟩ := lookup_of_each each (forms.distinct names) field member
      exact ⟨referents, output, found, holds.grows new fun _ _ => Store.Shows.grows new⟩
    choose! parts holds using holds
    have whole := grows.trans (more.trans new)
    have forms' : (between.put (.entity (kind.onSide .view) entries)).units.Forms kind loaded fields :=
      whole.units ▸ forms
    exact Ties.of_ok made (.put between nofun)
      ⟨_, .intro forms' (whole.units ▸ ordinary) (between.object?_put _) slots' holds⟩

end

end CowView.Live
