import CowView.Proofs.Captures
import CowView.Proofs.Fields

/-!
Views of instances, and the instances that are made of them. An instance without captured declarations has a
view, and in any later store the view gives back something like the instance.
-/

namespace CowView

namespace Live

namespace Store

/-- Whether an instance involves something does not change later. -/
theorem Involves.of_grows {store after : Store} {holds : Kind → Loaded → Prop} {value : Value} {layers : Nat}
    (grows : store.Grows after) (built : store.BuiltWithin layers value)
    (involves : after.Involves holds value) : store.Involves holds value := by
  induction involves generalizing layers with
  | here forms held holds_ =>
    cases layers with
    | zero => exact built.elim
    | succ layers => exact .here (grows.units ▸ forms) (Built.held built grows held) holds_
  | inside forms held member nested own _ ih =>
    cases layers with
    | zero => exact built.elim
    | succ layers =>
      have held' := Built.held built grows held
      have part := Built.parts built held' _ (List.mem_map_of_mem (mem_of_lookup own))
      exact .inside (grows.units ▸ forms) held' member nested own (ih part)

theorem Captures.of_grows {store after : Store} {value : Value} {layers : Nat} (grows : store.Grows after)
    (built : store.BuiltWithin layers value) (captures : after.Captures value) : store.Captures value := by
  rw [Captures, grows.units] at captures
  exact Involves.of_grows grows built captures

structure ViewOf (store : Store) (layers : Nat) (kind : Kind) (loaded : Loaded)
    (fields : List FieldView) (value : Value) (attributes : List (String × Value)) (view : Value)
    (viewed : List (String × Value)) : Prop where
  forms : store.units.Forms kind loaded fields
  ordinary : store.units.Ordinary kind loaded
  held : store.object? value = some (.entity (kind.onSide .source) attributes)
  slots : attributes.map (·.1) = fields.map (·.slot)
  shown : store.object? view = some (.entity (kind.onSide .view) viewed)
  slots' : viewed.map (·.1) = fields.map (·.slot)
  each : ∀ field ∈ fields, ∃ content output, attributes.lookup field.slot = some content ∧
    viewed.lookup field.slot = some output ∧
      store.Restores layers field.field.strategy content output

end Store

theorem entrywise_of_each {fields : List FieldView} {related : Value → Value → Prop}
    {entries known others : List (String × Value)}
    (each : List.Forall₂ (fun field entry => entry.1 = field.slot ∧
      ∀ content, known.lookup field.slot = some content → related entry.2 content) fields entries)
    (slots : others.map (·.1) = fields.map (·.slot))
    (found : ∀ entry ∈ others, known.lookup entry.1 = some entry.2) :
    Store.Entrywise related entries others := by
  induction each generalizing others with
  | nil =>
    rw [List.map_nil, List.map_eq_nil_iff] at slots
    subst slots
    exact .nil
  | cons both _ ih =>
    cases others with
    | nil => cases slots
    | cons first rest =>
      rw [List.map_cons, List.map_cons, List.cons.injEq] at slots
      refine .cons ⟨both.1.trans slots.1.symm, ?_⟩
        (ih slots.2 fun entry member => found entry (List.mem_cons_of_mem _ member))
      exact both.2 first.2 (slots.1 ▸ found first List.mem_cons_self)

/-! ### Putting together -/

namespace Store.ViewOf

variable {store : Store} {kind : Kind} {loaded : Loaded} {fields : List FieldView} {layers : Nat}
  {value view : Value} {attributes viewed : List (String × Value)}

theorem grows {after : Store} (grows : store.Grows after)
    (viewOf : store.ViewOf layers kind loaded fields value attributes view viewed) :
    after.ViewOf layers kind loaded fields value attributes view viewed := by
  refine ⟨grows.units ▸ viewOf.forms, grows.units ▸ viewOf.ordinary, grows.object? viewOf.held, viewOf.slots,
    grows.object? viewOf.shown, viewOf.slots', fun field member => ?_⟩
  obtain ⟨content, output, own, found, restores⟩ := viewOf.each field member
  exact ⟨content, output, own, found, restores.grows grows⟩

def GivenBack (attributes : List (String × Value)) (layers : Nat) (now : Store) (field : FieldView)
    (entry : String × Value) : Prop :=
  entry.1 = field.slot ∧ ∀ content, attributes.lookup field.slot = some content →
    now.AlikeWithin layers entry.2 content

theorem GivenBack.grows {before after : Store} {field : FieldView} {entry : String × Value}
    (grows : before.Grows after) (given : GivenBack attributes layers before field entry) :
    GivenBack attributes layers after field entry :=
  ⟨given.1, fun content own => (given.2 content own).grows grows⟩

/-- Each field of the view gives back something like the content of the instance. -/
theorem sourceArguments (viewOf : store.ViewOf layers kind loaded fields value attributes view viewed)
    (named : store.units.WellNamed) {steps : Nat} (enough : 2 * layers + 1 ≤ steps) :
    ∃ entries after, sourceArguments (callWithin steps) view fields store = .ok entries after ∧
      store.Grows after ∧ entries.map (·.1) = fields.map (·.slot) ∧
        Entrywise (after.AlikeWithin layers) entries attributes := by
  have names := viewOf.forms.named named
  have distinct := viewOf.forms.distinct names
  have step : ∀ field ∈ fields, ∀ now, store.Grows now → ∃ entry after,
      (do return (field.slot, ← giveBack (callWithin steps) field.field.strategy
        (← Live.member view field.slot)) : Run (String × Value)) now = .ok entry after ∧
          now.Grows after ∧ GivenBack attributes layers after field entry := by
    intro field member now grows
    obtain ⟨content, output, own, found, restores⟩ := viewOf.each field member
    obtain ⟨back, later, given, grows', alike⟩ := restores now steps grows enough
    have read := member_of_member? (member?_slot (grows.units ▸ viewOf.forms) (grows.object? viewOf.shown)
      (viewOf.ordinary.slots viewOf.forms field member) found)
    refine ⟨(field.slot, back), later, ?_, grows', rfl, fun content' own' => ?_⟩
    · rw [bind_of_ok read, bind_of_ok given]
      rfl
    · rw [own] at own'
      cases own'
      exact alike
  obtain ⟨entries, after, ran, grows, each⟩ := mapM_grows (GivenBack attributes layers) store
    GivenBack.grows fields step store (.refl store)
  refine ⟨entries, after, ran, grows, slots_of_each each, ?_⟩
  exact entrywise_of_each each viewOf.slots (lookup_of_mem (viewOf.slots ▸ distinct))

/-- The kind of the instance, and that of its declaration, make an instance of the view that is like the
one that it is a view of. -/
theorem putTogether (viewOf : store.ViewOf layers kind loaded fields value attributes view viewed)
    (named : store.units.WellNamed) {steps : Nat} (enough : 2 * layers + 1 ≤ steps) {maker : Kind}
    (chosen : maker = kind.onSide .source ∨ maker = (kind.onSide .source).base) :
    ∃ back after entries, callWithin (steps + 1) (.bound (.kind maker) .putTogether) ⟨[view], []⟩ store =
      .ok back after ∧ store.Grows after ∧
        after.object? back = some (.entity (kind.onSide .source) entries) ∧
          after.AlikeWithin (layers + 1) back value := by
  obtain ⟨entries, between, ran, grows, slots, each⟩ := viewOf.sourceArguments named enough
  have new := Grows.put between (.entity (kind.onSide .source) entries)
  have whole := grows.trans new
  refine ⟨between.next, between.put (.entity (kind.onSide .source) entries), entries, ?_, whole,
    between.object?_put _, ?_⟩
  · obtain ⟨steps, rfl⟩ : ∃ less, steps = less + 1 := ⟨steps - 1, by omega⟩
    rw [putTogether_eq viewOf.forms named viewOf.ordinary viewOf.shown viewOf.slots' chosen, bind_of_ok ran]
    exact construct_declared (grows.units ▸ viewOf.forms) (grows.units ▸ named) (viewOf.ordinary.slots viewOf.forms)
      .source slots
  · exact .entity (whole.units ▸ viewOf.forms) (between.object?_put _) (whole.object? viewOf.held)
      viewOf.slots (each.imp fun _ _ both => both.imp_right fun alike => alike.grows new)

theorem rebuild (viewOf : store.ViewOf layers kind loaded fields value attributes view viewed)
    (named : store.units.WellNamed) {steps : Nat} (enough : 2 * layers + 1 ≤ steps) :
    ∃ back after entries, callWithin (steps + 2) (.bound view .rebuild) ⟨[], []⟩ store =
      .ok back after ∧ store.Grows after ∧
        after.object? back = some (.entity (kind.onSide .source) entries) ∧
          after.AlikeWithin (layers + 1) back value := by
  obtain ⟨back, after, entries, ran, rest⟩ := viewOf.putTogether named enough (.inr rfl)
  refine ⟨back, after, entries, ?_, rest⟩
  rw [rebuild_eq viewOf.forms named viewOf.ordinary viewOf.shown viewOf.slots',
    ← putTogether_eq viewOf.forms named viewOf.ordinary viewOf.shown viewOf.slots' (.inr rfl)]
  exact ran

theorem restores (viewOf : store.ViewOf layers kind loaded fields value attributes view viewed)
    (named : store.units.WellNamed) : store.Restores (layers + 1) .nested value view := by
  intro after steps grows enough
  obtain ⟨steps, rfl⟩ : ∃ less, steps = less + 2 := ⟨steps - 2, by omega⟩
  have viewOf' := viewOf.grows grows
  have named' : after.units.WellNamed := grows.units ▸ named
  obtain ⟨back, later, _, ran, grows', -, alike⟩ :=
    viewOf'.rebuild named' (show 2 * layers + 1 ≤ steps by omega)
  refine ⟨back, later, ?_, grows', alike⟩
  rw [giveBack_nested_eq viewOf'.forms named' (viewOf'.ordinary.slots viewOf'.forms) viewOf'.shown viewOf'.slots']
  exact ran

end Store.ViewOf

/-! ### Taking apart -/

section

variable {store : Store} {kind : Kind} {loaded : Loaded} {fields : List FieldView} {layers : Nat}
  {value pointer : Value} {attributes : List (String × Value)} {scope? : Option Value}

def Viewed (layers : Nat) : Prop :=
  ∀ {store : Store} {kind : Kind} {loaded : Loaded} {fields : List FieldView} {value pointer : Value}
    {attributes : List (String × Value)} {scope? : Option Value} (steps : Nat), store.Standard →
    store.units.WellNamed → store.BuiltWithin layers value → ¬ store.Captures value →
    store.units.Forms kind loaded fields →
    store.object? value = some (.entity (kind.onSide .source) attributes) →
    store.object? pointer = some (.pointing scope? value) → store.IsOpen scope? → layers ≤ steps →
      ∃ view after, callWithin (steps + 1) (.bound (.kind (kind.onSide .source)) .takeApart)
        ⟨[pointer], []⟩ store = .ok view after ∧ store.Grows after ∧
          ∃ less viewed, layers = less + 1 ∧
            after.ViewOf less kind loaded fields value attributes view viewed

def TakenIn (attributes : List (String × Value)) (layers : Nat) (now : Store) (field : FieldView)
    (entry : String × Value) : Prop :=
  entry.1 = field.slot ∧ ∃ content, attributes.lookup field.slot = some content ∧
    now.Restores layers field.field.strategy content entry.2

theorem TakenIn.grows {before after : Store} {field : FieldView} {entry : String × Value}
    (grows : before.Grows after) (taken : TakenIn attributes layers before field entry) :
    TakenIn attributes layers after field entry :=
  ⟨taken.1, taken.2.imp fun _ both => both.imp_right fun restores => restores.grows grows⟩

theorem takeIn_nested_restores (viewed : Viewed layers) (standard : store.Standard)
    (named : store.units.WellNamed) (built : store.BuiltWithin layers value)
    (meets : store.Meets .nested value) (free : ¬ store.Captures value) (open_ : store.IsOpen scope?)
    {steps : Nat} (enough : layers ≤ steps) :
    ∃ view later, takeIn (callWithin (steps + 1)) scope? .nested value store = .ok view later ∧
      store.Grows later ∧ later.Restores layers .nested value view := by
  obtain ⟨kind', attributes, held'⟩ := meets
  have new := Store.Grows.put store (.pointing scope? value)
  cases layers with
  | zero => exact built.elim
  | succ layers =>
    have whole := built
    cases built with
    | simple simple =>
      rw [Store.object?_simple simple] at held'
      cases held'
    | bytearray held | list held | tuple held | dict held | box held =>
      rw [held] at held'
      cases held'
    | @entity kind own loaded fields forms held =>
      have ordinary := Store.ordinary_of_not_captures free forms held
      obtain ⟨pointing, taken, made⟩ := takeIn_nested (callWithin (steps + 1)) scope? value
      rw [taken, nestedView_apply forms named ordinary.generated held (made store open_)]
      obtain ⟨view, later, ran, grows, less, shown, same, viewOf⟩ := viewed steps (standard.grows new)
        (new.units ▸ named) (whole.grows new) (fun captures => free (captures.of_grows new whole))
        (new.units ▸ forms) (new.object? held) (store.object?_put _) (open_.grows new) enough
      obtain rfl : layers = less := by omega
      exact ⟨view, later, ran, new.trans grows, viewOf.restores (grows.units ▸ new.units ▸ named)⟩

theorem viewArguments_restores (viewed : Viewed layers) (standard : store.Standard)
    (named : store.units.WellNamed) (forms : store.units.Forms kind loaded fields)
    (held : store.object? value = some (.entity (kind.onSide .source) attributes))
    (slots : attributes.map (·.1) = fields.map (·.slot))
    (parts : ∀ entry ∈ attributes, store.BuiltWithin layers entry.2)
    (meets : ∀ field ∈ fields, ∀ content, attributes.lookup field.slot = some content →
      store.Meets field.field.strategy content)
    (free : ¬ store.Captures value) (lent : store.object? pointer = some (.pointing scope? value))
    (open_ : store.IsOpen scope?) {steps : Nat} (enough : layers ≤ steps) :
    ∃ entries after, viewArguments (callWithin (steps + 1)) scope?.isNone pointer value fields store =
      .ok entries after ∧ store.Grows after ∧
        List.Forall₂ (TakenIn attributes layers after) fields entries := by
  have names := forms.named named
  have ordinary := Store.ordinary_of_not_captures free forms held
  refine mapM_grows (TakenIn attributes layers) store TakenIn.grows fields (fun field member now grows => ?_) store
    (.refl store)
  have slot : field.slot ∈ fields.map (·.slot) := List.mem_map_of_mem member
  obtain ⟨entry, present, name⟩ : ∃ entry ∈ attributes, entry.1 = field.slot := by
    rw [← slots] at slot
    exact List.mem_map.mp slot
  have distinct : (attributes.map (·.1)).Nodup := slots ▸ (forms.distinct names)
  have own : attributes.lookup field.slot = some entry.2 := name ▸ lookup_of_mem distinct entry present
  have read := member_of_member? (member?_slot (grows.units ▸ forms) (grows.object? held)
    (ordinary.slots forms field member) own)
  have built := (parts entry present).grows grows
  have meets' := (meets field member entry.2 own).grows grows
  obtain ⟨output, after, ran, grows', restores⟩ : ∃ output after,
      takeIn (callWithin (steps + 1)) scope? field.field.strategy entry.2 now = .ok output after ∧
        now.Grows after ∧ after.Restores layers field.field.strategy entry.2 output := by
    by_cases nested : field.field.strategy = .nested
    · have uncaptured : ¬ now.Captures entry.2 := fun captures =>
        free (.inside forms held member nested own (captures.of_grows grows (parts entry present)))
      rw [nested] at meets' ⊢
      exact takeIn_nested_restores viewed (standard.grows grows) (grows.units ▸ named) built meets' uncaptured
        (open_.grows grows) enough
    · exact takeIn_restores (standard.grows grows) (open_.grows grows) built meets' nested steps
  refine ⟨(field.slot, output), after, ?_, grows', rfl, entry.2, own, restores⟩
  rw [viewArgument_apply _ (grows.object? lent) read, bind_of_ok ran]
  rfl

/-- The layer of an instance: its attributes, and what they have to be for the strategies of its fields. -/
theorem Store.Built.entity_parts {part : Value → Prop} (built : store.Built part value)
    (forms : store.units.Forms kind loaded fields)
    (held : store.object? value = some (.entity (kind.onSide .source) attributes)) :
    attributes.map (·.1) = fields.map (·.slot) ∧ (∀ entry ∈ attributes, part entry.2) ∧
      ∀ field ∈ fields, ∀ content, attributes.lookup field.slot = some content →
        store.Meets field.field.strategy content := by
  cases built with
  | simple simple =>
    rw [Store.object?_simple simple] at held
    cases held
  | bytearray held' | list held' | tuple held' | dict held' | box held' =>
    rw [held] at held'
    cases held'
  | @entity kind' _ _ fields' forms' held' slots each meets =>
    rw [held] at held'
    obtain ⟨same, rfl⟩ : kind.onSide .source = kind'.onSide .source ∧ attributes = _ := by
      simpa using held'
    have fields_ : fields = fields' := by
      rw [← (forms.onSide .source).fields_eq, ← (forms'.onSide .source).fields_eq, same]
    subst fields_
    exact ⟨slots, each, meets⟩

theorem viewed (layers : Nat) : Viewed layers := by
  induction layers with
  | zero => exact fun _ _ _ built => built.elim
  | succ layers ih =>
    intro store kind loaded fields value pointer attributes scope? steps standard named built free forms held lent
      open_ enough
    obtain ⟨steps, rfl⟩ : ∃ less, steps = less + 1 := ⟨steps - 1, by omega⟩
    obtain ⟨slots, parts, meets⟩ := Store.Built.entity_parts built forms held
    have names := forms.named named
    obtain ⟨entries, between, ran, grows, each⟩ := viewArguments_restores ih standard named forms held slots
      parts meets free lent open_ (show layers ≤ steps by omega)
    have ordinary := Store.ordinary_of_not_captures free forms held
    have new := Store.Grows.put between (.entity (kind.onSide .view) entries)
    have slots' := slots_of_each each
    refine ⟨between.next, between.put (.entity (kind.onSide .view) entries), ?_, grows.trans new, layers,
      entries, rfl, ?_⟩
    · rw [takeApart_eq forms named ordinary held slots lent open_, bind_of_ok ran]
      exact construct_declared (grows.units ▸ forms) (grows.units ▸ named) (ordinary.slots forms) .view slots'
    · refine ⟨(grows.trans new).units ▸ forms, (grows.trans new).units ▸ ordinary, (grows.trans new).object? held, slots,
        between.object?_put _, slots', fun field member => ?_⟩
      obtain ⟨output, found, content, own, restores⟩ :=
        lookup_of_each each (forms.distinct names) field member
      exact ⟨content, output, own, found, Store.Restores.grows new restores⟩

end

end Live

end CowView
