import CowView.Proofs.Generation
import CowView.Proofs.Loading
import CowView.Proofs.WellFormed
import CowView.Proofs.Writable

/-!
What loading makes of a unit. Every class that a declaration gives should have the functions between its sides and a
constructor that takes the declared fields. `load_isMade_iff` says for which accepted units it is so: a class
may not have a name of a field from elsewhere already, no class may take the name of a type variable that is used
after it, and only the last declaration may have the name that all declarations take for granted.
-/

namespace CowView

/-- No field has a name that its class has from elsewhere when its constructor is made: that of the lineage, which
every class has, or that of a variant in front, which the class of the union has by then. -/
structure Declaration.HasFreeFields (declaration : Declaration) : Prop where
  lineage : ∀ field ∈ declaration.fields, field.slot ≠ "mro"
  variants : declaration.body.variants.Pairwise fun earlier later =>
    ∀ field ∈ later.fields.fields, field.slot ≠ earlier.name

instance (declaration : Declaration) : Decidable declaration.HasFreeFields :=
  decidable_of_iff ((∀ field ∈ declaration.fields, field.slot ≠ "mro") ∧
      declaration.body.variants.Pairwise fun earlier later => ∀ field ∈ later.fields.fields, field.slot ≠ earlier.name)
    ⟨fun both => ⟨both.1, both.2⟩, fun free => ⟨free.lineage, free.variants⟩⟩

namespace Live

/-- The declarations can be written down, and none of them gets in the way of itself or of another one. -/
structure AreFree (declared : List Declaration) : Prop where
  docs : ∀ declaration ∈ declared, ∀ docs ∈ writtenDocs (View.resolved .default declaration), '\x00' ∉ docs.toList
  typeVariables : declared.Pairwise fun earlier later => ∀ name ∈ (View.resolved .default later).typeVariables,
    name ∉ (View.resolved .default earlier).classNames
  shown : ∀ declaration ∈ declared.dropLast, declaration.name ≠ takenForGranted
  fields : ∀ declaration ∈ declared, declaration.HasFreeFields

instance (declared : List Declaration) : Decidable (AreFree declared) :=
  decidable_of_iff ((∀ declaration ∈ declared,
        ∀ docs ∈ writtenDocs (View.resolved .default declaration), '\x00' ∉ docs.toList) ∧
      (declared.Pairwise fun earlier later => ∀ name ∈ (View.resolved .default later).typeVariables,
        name ∉ (View.resolved .default earlier).classNames) ∧
      (∀ declaration ∈ declared.dropLast, declaration.name ≠ takenForGranted) ∧
      ∀ declaration ∈ declared, declaration.HasFreeFields)
    ⟨fun ⟨docs, typeVariables, shown, fields⟩ => ⟨docs, typeVariables, shown, fields⟩,
      fun free => ⟨free.docs, free.typeVariables, free.shown, free.fields⟩⟩

def declaredKind (declaration : Declaration) (unit position : Nat) (side : Side) : Kind :=
  match declaration.body with
  | .record _ => .record unit position side
  | .union _ => .union unit position side

def constructors (declaration : Declaration) (unit position : Nat) (side : Side) : List (Kind × List Field) :=
  match declaration.body with
  | .record list => [(.record unit position side, list.fields)]
  | .union variants => variants.zipIdx.map fun (variant, index) =>
      (.variant unit position side index, variant.fields.fields)

def kindsOn (declaration : Declaration) (unit position : Nat) (side : Side) : List Kind :=
  declaredKind declaration unit position side :: (constructors declaration unit position side).map (·.1)

theorem declaredKind_mem (declaration : Declaration) (unit position : Nat) (side : Side) :
    declaredKind declaration unit position side ∈ kindsOn declaration unit position side := List.mem_cons_self

/-- The unit of a number is made as it is declared. All kinds of a source have the functions between the two sides of
their declaration, and each constructor takes the declared fields in their order, all of which have to be given. -/
structure IsMade (store : Store) (unit : Nat) (declared : List Declaration) : Prop where
  functions : ∀ position declaration, declared[position]? = some declaration →
    ∀ kind ∈ kindsOn declaration unit position .source,
      member (.kind kind) "butcher" store = .ok (.bound (.kind kind) .takeApart) store ∧
        member (.kind kind) "unbutcher" store = .ok (.bound (.kind kind) .putTogether) store
  constructors : ∀ position declaration, declared[position]? = some declaration →
    ∀ side, ∀ made ∈ constructors declaration unit position side,
      store.units.parameters made.1 = made.2.map fun field => (field.slot, none)

/-! ### Constructors -/

section

variable {units : Units} {unit position : Nat} {loaded : Loaded} {declaration : Declaration} {settings : Settings}

def IsAt (units : Units) (unit position : Nat) (declaration : Declaration) : Prop :=
  ∃ loaded, units.loaded? unit position = some loaded ∧ loaded.view = View.resolved .default declaration

theorem IsAt.variant? {variants : List Variant} (at_ : IsAt units unit position declaration)
    (body : declaration.body = .union variants) (index : Nat) :
    (units.variant? unit position index).map (·.variant) = variants[index]? := by
  obtain ⟨loaded, found, view⟩ := at_
  rw [Units.variant?, found, Option.bind_some, view]
  show ((View.resolvedBody .default declaration).variants[index]?).map _ = _
  rw [View.resolvedBody, body]
  simp [ViewBody.variants, Function.comp_def]

theorem field_mem_of_constructors {side : Side} {made : Kind × List Field} {field : Field}
    (member : made ∈ constructors declaration unit position side) (inside : field ∈ made.2) :
    field ∈ declaration.fields := by
  unfold constructors at member
  rw [Declaration.fields]
  cases body : declaration.body with
  | record list =>
    rw [body, List.mem_singleton] at member
    subst member
    exact inside
  | union variants =>
    rw [body] at member
    obtain ⟨⟨variant, index⟩, present, rfl⟩ := List.mem_map.mp member
    rw [List.mem_zipIdx_iff_getElem?] at present
    exact List.mem_flatMap.mpr ⟨variant, List.mem_of_getElem? present, inside⟩

/-- Plain names are those of the attributes. -/
theorem slots_resolvedField {fields : List Field} (owner : Declaration)
    (fluent : ∀ field ∈ fields, Text.IsFluent field.slot) :
    (fields.map (View.resolvedField .default owner)).map (·.slot) = fields.map (·.slot) := by
  rw [List.map_map]
  exact List.map_congr_left fun field member => (fluent field member).identifier_eq

theorem IsAt.slots {side : Side} {made : Kind × List Field} (at_ : IsAt units unit position declaration)
    (named : declaration.WellNamed (NameOf Token.IsPlain))
    (member : made ∈ constructors declaration unit position side) : units.slots made.1 = made.2.map (·.slot) := by
  have fluent : ∀ field ∈ made.2, Text.IsFluent field.slot := fun field inside =>
    isFluent_slot named (field_mem_of_constructors member inside)
  obtain ⟨loaded, found, view⟩ := at_
  unfold constructors at member
  cases body : declaration.body with
  | record list =>
    rw [body, List.mem_singleton] at member
    subst member
    simp only [Units.slots, Units.fields, found, Option.map_some, Option.getD_some, view]
    show (View.resolvedBody .default declaration).fields.map _ = _
    rw [View.resolvedBody, body]
    exact slots_resolvedField _ fluent
  | union variants =>
    rw [body] at member
    obtain ⟨⟨variant, index⟩, present, rfl⟩ := List.mem_map.mp member
    rw [List.mem_zipIdx_iff_getElem?] at present
    simp only [Units.slots, Units.fields, Units.variant?, found, Option.bind_some, view]
    show List.map _ ((((View.resolvedBody .default declaration).variants[index]?).map _).getD []) = _
    rw [View.resolvedBody, body]
    simp only [ViewBody.variants, List.getElem?_map, present, Option.map_some, Option.getD_some]
    exact slots_resolvedField _ fluent

theorem IsAt.parameters_eq_iff {side : Side} {made : Kind × List Field} (at_ : IsAt units unit position declaration)
    (named : declaration.WellNamed (NameOf Token.IsPlain))
    (member : made ∈ constructors declaration unit position side) :
    (units.parameters made.1 = made.2.map fun field => (field.slot, none)) ↔
      ∀ field ∈ made.2, units.preset? made.1 field.slot = none := by
  rw [Units.parameters, at_.slots named member, List.map_map, List.map_inj_left]
  simp

/-- What all classes of a declaration define has a reserved name. -/
theorem defined_of_unreserved {slot : String} (free : slot ∉ reservedMembers) (source : Kind) (side : Side) :
    declaredMember? loaded source side slot = none ∧ fixedMember? (.ofSide side) slot = none ∧
      fixedMember? .tagged slot = none ∧ slot ≠ "VARIANTS" := by
  have names : slot ≠ "SIGNATURE" ∧ slot ≠ "BOUNDS" ∧ slot ≠ "VARIANTS" ∧ slot ≠ "SOURCE" ∧
      slot ≠ "DISCRIMINANT" ∧ slot ≠ "butcher" ∧ slot ≠ "unbutcher" ∧ slot ≠ "discriminant" := by
    simpa [reservedMembers, not_or] using free
  obtain ⟨signature, bounds, variants, source_, own, butcher, unbutcher, discriminant⟩ := names
  refine ⟨?_, ?_, ?_, variants⟩
  · unfold declaredMember?
    split <;> first | rfl | contradiction
  · cases side <;> simp only [Kind.ofSide] <;> unfold fixedMember? <;> split <;> first | rfl | contradiction
  · unfold fixedMember?
    split <;> first | rfl | contradiction

theorem lineage?_eq_none_iff {slot : String} : lineage? slot = none ↔ slot ≠ "mro" := by
  simp [lineage?]

theorem IsAt.preset?_record (at_ : IsAt units unit position declaration) (side : Side) {slot : String}
    (free : slot ∉ reservedMembers) : units.preset? (.record unit position side) slot = none ↔ slot ≠ "mro" := by
  obtain ⟨loaded, found, -⟩ := at_
  obtain ⟨declared, fixed, -, -⟩ := @defined_of_unreserved loaded _ free (.record unit position .source) side
  rw [Units.preset?, found, Option.bind_some, declared, fixed, Option.none_or, Option.none_or, lineage?_eq_none_iff]

theorem IsAt.preset?_variant {variants : List Variant} (at_ : IsAt units unit position declaration)
    (body : declaration.body = .union variants) (side : Side) (index : Nat) {slot : String}
    (free : slot ∉ reservedMembers) : units.preset? (.variant unit position side index) slot = none ↔
      slot ≠ "mro" ∧ ∀ earlier < index, ∀ variant, variants[earlier]? = some variant → slot ≠ variant.name := by
  have before : units.variantBefore? unit position index slot = none ↔
      ∀ earlier < index, ∀ variant, variants[earlier]? = some variant → slot ≠ variant.name := by
    rw [Units.variantBefore?, List.find?_eq_none]
    refine forall_congr' fun earlier => ?_
    rw [List.mem_range, ← at_.variant? body]
    cases units.variant? unit position earlier <;> simp [eq_comm]
  obtain ⟨loaded, found, -⟩ := at_
  obtain ⟨declared, fixed, tagged, other⟩ := @defined_of_unreserved loaded _ free (.union unit position .source) side
  rw [Units.preset?, found, Option.bind_some]
  simp only [if_neg other, declared, fixed, tagged, Option.none_or, Option.or_eq_none_iff, Option.map_eq_none_iff,
    lineage?_eq_none_iff]
  rw [before, and_comm]

theorem unreserved_slot {isWord : String → Prop} (named : declaration.WellNamed isWord) {field : Field}
    (member : field ∈ declaration.fields) : field.slot ∉ reservedMembers := by
  rcases named.field member with ⟨name, shown, public_, -⟩ | none
  · rw [Field.slot, shown]
    exact public_.unreserved rfl
  · rw [Field.slot, none]
    exact counted_unreserved field.index

theorem IsAt.record_iff {list : FieldList} (at_ : IsAt units unit position declaration)
    (named : declaration.WellNamed (NameOf Token.IsPlain)) (body : declaration.body = .record list) (side : Side) :
    (∀ field ∈ list.fields, units.preset? (.record unit position side) field.slot = none) ↔
      declaration.HasFreeFields := by
  have fields : declaration.fields = list.fields := by rw [Declaration.fields, body, Body.fields]
  have lineage : (∀ field ∈ list.fields, units.preset? (.record unit position side) field.slot = none) ↔
      ∀ field ∈ list.fields, field.slot ≠ "mro" :=
    forall₂_congr fun field member => at_.preset?_record side (unreserved_slot named (fields ▸ member))
  rw [lineage]
  refine ⟨fun free => ⟨fields ▸ free, ?_⟩, fun free => fields ▸ free.lineage⟩
  rw [body]
  exact .nil

theorem IsAt.union_iff {variants : List Variant} (at_ : IsAt units unit position declaration)
    (named : declaration.WellNamed (NameOf Token.IsPlain)) (body : declaration.body = .union variants) (side : Side) :
    (∀ index variant, variants[index]? = some variant → ∀ field ∈ variant.fields.fields,
      units.preset? (.variant unit position side index) field.slot = none) ↔ declaration.HasFreeFields := by
  have fields : declaration.fields = variants.flatMap (·.fields.fields) := by
    rw [Declaration.fields, body, Body.fields]
  have present {index : Nat} {variant : Variant} (chosen : variants[index]? = some variant) {field : Field}
      (member : field ∈ variant.fields.fields) : field ∈ declaration.fields :=
    fields ▸ List.mem_flatMap.mpr ⟨variant, List.mem_of_getElem? chosen, member⟩
  have preset {index : Nat} {variant : Variant} (chosen : variants[index]? = some variant) {field : Field}
      (member : field ∈ variant.fields.fields) :=
    at_.preset?_variant body side index (unreserved_slot named (present chosen member))
  constructor
  · intro free
    refine ⟨fun field member => ?_, ?_⟩
    · rw [fields] at member
      obtain ⟨variant, own, inside⟩ := List.mem_flatMap.mp member
      obtain ⟨index, chosen⟩ := List.mem_iff_getElem?.mp own
      exact ((preset chosen inside).mp (free index variant chosen field inside)).1
    · rw [body]
      refine List.pairwise_iff_getElem.mpr fun earlier later before inside less field member => ?_
      have chosen := List.getElem?_eq_getElem inside
      exact ((preset chosen member).mp (free later _ chosen field member)).2 earlier less _
        (List.getElem?_eq_getElem before)
  · intro free index variant chosen field member
    refine (preset chosen member).mpr ⟨free.lineage field (present chosen member), fun earlier less other found => ?_⟩
    obtain ⟨before, rfl⟩ := List.getElem?_eq_some_iff.mp found
    obtain ⟨inside, rfl⟩ := List.getElem?_eq_some_iff.mp chosen
    have apart := free.variants
    rw [body] at apart
    exact List.pairwise_iff_getElem.mp apart earlier index before inside less field member

theorem IsAt.constructors_iff (at_ : IsAt units unit position declaration)
    (named : declaration.WellNamed (NameOf Token.IsPlain)) (side : Side) :
    (∀ made ∈ constructors declaration unit position side,
      units.parameters made.1 = made.2.map fun field => (field.slot, none)) ↔ declaration.HasFreeFields := by
  -- A parameter is required exactly if its class finds nothing under its name.
  have presets : (∀ made ∈ constructors declaration unit position side,
      units.parameters made.1 = made.2.map fun field => (field.slot, none)) ↔
        ∀ made ∈ constructors declaration unit position side,
          ∀ field ∈ made.2, units.preset? made.1 field.slot = none :=
    forall₂_congr fun made member => at_.parameters_eq_iff named member
  rw [presets]
  unfold constructors
  cases body : declaration.body with
  | record list =>
    rw [List.forall_mem_singleton]
    exact at_.record_iff named body side
  | union variants =>
    simp only [List.forall_mem_map, Prod.forall, List.mem_zipIdx_iff_getElem?]
    rw [forall_comm]
    exact at_.union_iff named body side

end

/-! ### Functions -/

section

variable {store : Store} {unit position : Nat} {loaded : Loaded} {declaration : Declaration} {kind : Kind}

theorem kindMember?_of_mem (found : store.units.loaded? unit position = some loaded)
    (view : loaded.view = View.resolved .default declaration) (named : loaded.view.body.WellNamed)
    (member : kind ∈ kindsOn declaration unit position .source) (name : String) (reserved : name ∈ reservedMembers)
    (free : name ∉ ["DISCRIMINANT", "VARIANTS"]) {maker : Member}
    (declared : ∀ source, declaredMember? loaded source .source name = some maker) :
    store.kindMember? kind name = some maker := by
  simp only [List.mem_cons, List.not_mem_nil, or_false, not_or] at free
  unfold kindsOn declaredKind constructors at member
  cases body : declaration.body with
  | record list =>
    simp only [body, List.map_cons, List.map_nil, List.mem_cons, List.not_mem_nil, or_false, or_self] at member
    subst member
    simp [Store.kindMember?, Kind.ancestors, Store.ownMember?, found, declared]
  | union variants =>
    have own : loaded.view.body = (View.resolvedBody .default declaration) := congrArg View.body view
    rw [View.resolvedBody, body] at own
    have none := variantKind?_of_reserved named reserved unit position .source
    rw [body] at member
    rcases List.mem_cons.mp member with rfl | member
    · simp [Store.kindMember?, Kind.ancestors, Store.ownMember?, found, declared, none, free]
    · obtain ⟨made, present, rfl⟩ := List.mem_map.mp member
      obtain ⟨pair, -, rfl⟩ := List.mem_map.mp present
      simp [Store.kindMember?, Kind.ancestors, Store.ownMember?, found, declared, none, free]

theorem member_butcher (found : store.units.loaded? unit position = some loaded)
    (view : loaded.view = View.resolved .default declaration) (named : loaded.view.body.WellNamed)
    (member : kind ∈ kindsOn declaration unit position .source) :
    Live.member (.kind kind) "butcher" store =
      .ok (match loaded.inPlace with
        | some (first, _) => first
        | none => .bound (.kind kind) .takeApart) store := by
  have known := kindMember?_of_mem found view named member "butcher" (by decide) (by decide) fun _ => rfl
  refine member_of_member? (member?_onKind known ?_)
  cases loaded.inPlace <;> rfl

theorem member_unbutcher (found : store.units.loaded? unit position = some loaded)
    (view : loaded.view = View.resolved .default declaration) (named : loaded.view.body.WellNamed)
    (member : kind ∈ kindsOn declaration unit position .source) :
    Live.member (.kind kind) "unbutcher" store =
      .ok (match loaded.inPlace with
        | some (_, second) => second
        | none => .bound (.kind kind) .putTogether) store := by
  have known := kindMember?_of_mem found view named member "unbutcher" (by decide) (by decide) fun _ => rfl
  refine member_of_member? (member?_onKind known ?_)
  cases loaded.inPlace <;> rfl

end

/-! ### Loading -/

/-- The classes of declarations can be made if none of them takes the name of a type variable that is used behind it,
and each constructor can be made. -/
theorem classProblem?_eq_none_iff (units : Units) (unit : Nat) (taken : List String) (items : List (View × Nat)) :
    classProblem? units unit taken items = none ↔
      (∀ item ∈ items, keepsVariables taken item.1) ∧
      (items.Pairwise fun earlier later => ∀ name ∈ later.1.typeVariables.map Text.identifier,
        name ∉ earlier.1.classNames.map Text.identifier) ∧
      ∀ item ∈ items, ∀ side, ∀ kind ∈ constructedKinds item.1 unit item.2 side,
        constructorProblem? (units.parameters kind) = none := by
  induction items generalizing taken with
  | nil => simp [classProblem?]
  | cons first rest ih =>
    obtain ⟨view, position⟩ := first
    have more (other : View) : keepsVariables (taken ++ view.classNames.map Text.identifier) other ↔
        keepsVariables taken other ∧
          ∀ name ∈ other.typeVariables.map Text.identifier, name ∉ view.classNames.map Text.identifier := by
      simp only [keepsVariables, Bool.and_eq_true, List.all_eq_true, decide_eq_true_eq, List.mem_append, not_or]
      exact ⟨fun ⟨apart, distinct⟩ => ⟨⟨fun name known => (apart name known).1, distinct⟩,
        fun name known => (apart name known).2⟩, fun ⟨⟨own, distinct⟩, behind⟩ =>
          ⟨fun name known => ⟨own name known, behind name known⟩, distinct⟩⟩
    have sides : (∀ side, ∀ kind ∈ constructedKinds view unit position side,
        constructorProblem? (units.parameters kind) = none) ↔
          ((constructedKinds view unit position .source ++ constructedKinds view unit position .view).findSome?
            fun kind => constructorProblem? (units.parameters kind)) = none := by
      rw [List.findSome?_eq_none_iff, List.forall_mem_append]
      refine ⟨fun each => ⟨each .source, each .view⟩, fun both side => ?_⟩
      cases side
      · exact both.1
      · exact both.2
    rw [classProblem?]
    simp only [List.forall_mem_cons, List.pairwise_cons, sides]
    by_cases keeps : keepsVariables taken view
    · simp only [keeps, Bool.not_true, Bool.false_eq_true, if_false, Option.or_eq_none_iff, ih, more, true_and]
      constructor
      · rintro ⟨own, others, apart, rest⟩
        exact ⟨fun item member => (others item member).1,
          ⟨fun item member => (others item member).2, apart⟩, own, rest⟩
      · rintro ⟨others, ⟨behind, apart⟩, own, rest⟩
        exact ⟨own, fun item member => ⟨others item member, behind item member⟩, apart, rest⟩
    · simp [keeps]

theorem unwritable?_eq_none_iff {views : List View}
    (writable : ∀ view ∈ views, ∀ name ∈ writtenNames view, isWritable name)
    (distinct : ∀ view ∈ views, ∀ slots ∈ attributeLists view, slots.Nodup) :
    unwritable? views = none ↔ ∀ view ∈ views, ∀ docs ∈ writtenDocs view, '\x00' ∉ docs.toList := by
  have names : (views.flatMap writtenNames).all isWritable := by
    simpa [List.all_eq_true] using writable
  have slots : (views.flatMap attributeLists).all (fun slots => decide slots.Nodup) := by
    simpa [List.all_eq_true] using distinct
  unfold unwritable?
  rw [names, slots, Bool.and_self, if_pos rfl]
  simp only [ite_eq_right_iff, reduceCtorEq, imp_false, Bool.not_eq_true, List.any_eq_false, List.mem_flatMap]
  constructor
  · intro clean view member docs own
    simpa using clean docs ⟨view, member, own⟩
  · rintro clean docs ⟨view, member, own⟩
    simpa using clean view member docs own

theorem areOrdered_of_required (fields : List Field) : areOrdered (fields.map fun field => (field.slot, none)) := by
  induction fields with
  | nil => rfl
  | cons _ _ ih => exact ih

theorem hidingKind?_eq_none_iff {views : List View} (unit position : Nat) : hidingKind? views unit position = none ↔
    ∀ earlier < position, ∀ view, views[earlier]? = some view → ∀ side, view.nameOn side ≠ takenForGranted := by
  rw [hidingKind?, List.findSome?_eq_none_iff]
  refine forall_congr' fun earlier => ?_
  rw [List.mem_reverse, List.mem_range]
  refine imp_congr_right fun _ => ?_
  cases views[earlier]? with
  | none => simp
  | some view =>
    simp only [Option.bind_some, Option.some.injEq, forall_eq']
    refine ⟨fun clean side => ?_, fun free => by simp [free]⟩
    have both := List.findSome?_eq_none_iff.mp clean side (by cases side <;> simp)
    simpa using both

theorem hidingKind?_eq_some {views : List View} {unit position : Nat} {kind : Kind}
    (hides : hidingKind? views unit position = some kind) :
    ∃ earlier side, kind = .record unit earlier side ∨ kind = .union unit earlier side := by
  obtain ⟨earlier, -, found⟩ := List.exists_of_findSome?_eq_some hides
  obtain ⟨view, -, found⟩ := Option.bind_eq_some_iff.mp found
  obtain ⟨side, -, chosen⟩ := List.exists_of_findSome?_eq_some found
  split at chosen
  · cases chosen
    refine ⟨earlier, side, ?_⟩
    unfold View.kindAt
    cases view.body with
    | record => exact .inl rfl
    | union => exact .inr rfl
  · cases chosen

/-- A class makes an object of a function, if it makes anything of it. -/
theorem wrapped_eq_ok {views : List View} {unit position : Nat} {kind : Kind}
    (hides : hidingKind? views unit position = some kind) {method : Method} {store after : Store} {value : Value}
    (ran : wrapped kind method store = .ok value after) : ∃ address, value = .object address := by
  obtain ⟨earlier, side, rfl | rfl⟩ := hidingKind?_eq_some hides
  · obtain ⟨units, between, -, ran⟩ := bind_eq_ok ran
    obtain ⟨values, later, -, ran⟩ := bind_eq_ok ran
    split at ran
    · cases ran
    · cases ran
      exact ⟨_, rfl⟩
  · cases ran

/-- A declaration is loaded as it is resolved; where a class hides the name that is taken for granted, an object stands
in the place of the function that takes instances apart. -/
structure LoadedOver (views : List View) (unit : Nat) (item : View × Nat) (loaded : Loaded) : Prop where
  view : loaded.view = item.1
  hidden : hidingKind? views unit item.2 ≠ none → ∃ address second, loaded.inPlace = some (.object address, second)

theorem loadOne_hidden {views : List View} {unit position : Nat} {view : View} {store after : Store} {loaded : Loaded}
    (ran : loadOne views unit position view store = .ok loaded after)
    (hidden : hidingKind? views unit position ≠ none) :
    ∃ address second, loaded.inPlace = some (.object address, second) := by
  cases hides : hidingKind? views unit position with
  | none => exact absurd hides hidden
  | some kind =>
    rw [loadOne, hides] at ran
    obtain ⟨first, between, made, ran⟩ := bind_eq_ok ran
    obtain ⟨second, later, -, ran⟩ := bind_eq_ok ran
    obtain ⟨address, rfl⟩ := wrapped_eq_ok hides made
    cases ran
    exact ⟨address, second, rfl⟩

theorem loadOne_over (views : List View) (unit position : Nat) (view : View) (store : Store) :
    Ends (loadOne views unit position view) store
      (fun loaded after => LoadedOver views unit (view, position) loaded ∧ after.units = store.units)
      fun _ after => after.units = store.units := by
  have ends := loadOne_ends views unit position view store
  unfold Ends
  cases ran : loadOne views unit position view store with
  | ok loaded after =>
    obtain ⟨⟨same, -⟩, units⟩ := ends.result ran
    exact ⟨⟨same, loadOne_hidden ran⟩, units⟩
  | error failure after => exact ends.failure ran

/-- A unit that is loaded is the last one, and nothing kept its declarations from being loaded. -/
theorem loadViews_eq_ok {name : String} {views : List View} {store after : Store} {unit : Nat}
    (ran : loadViews name views store = .ok unit after) : unit = store.units.length ∧
      loadProblem? (store.units ++ [.ofViews name views]) unit views = none ∧
        ∃ declarations, after.units = store.units ++ [⟨name, declarations⟩] ∧
          List.Forall₂ (LoadedOver views unit) views.zipIdx declarations := by
  have ends : Ends (loadViews name views) store (fun unit after => unit = store.units.length ∧
      loadProblem? (store.units ++ [.ofViews name views]) unit views = none ∧
        ∃ declarations, after.units = store.units ++ [⟨name, declarations⟩] ∧
          List.Forall₂ (LoadedOver views unit) views.zipIdx declarations) fun _ _ => True := by
    unfold loadViews
    refine .ofGet ?_
    dsimp only
    split
    · trivial
    next clean =>
      refine .ofSet (Ends.bind ?_)
      have each := Ends.mapM (LoadedOver views store.units.length)
        (fun now => now.units = store.units ++ [LoadedUnit.ofViews name views])
        (fun item now kept => (loadOne_over views _ item.2 item.1 now).mono
          (fun _ _ both => ⟨both.1, both.2.trans kept⟩) fun _ _ same => same.trans kept)
        views.zipIdx { store with units := store.units ++ [LoadedUnit.ofViews name views] } rfl
      exact each.mono (fun declarations between both => ⟨rfl, clean, declarations, by simp [both.2], both.1⟩)
        fun _ _ _ => trivial
  exact ends.result ran

theorem mapM_of_pure {α β : Type} {step : α → Run β} (result : α → β) (items : List α)
    (each : ∀ item ∈ items, step item = pure (result item)) : items.mapM step = pure (items.map result) := by
  induction items with
  | nil => rfl
  | cons first rest ih =>
    rw [List.forall_mem_cons] at each
    rw [List.mapM_cons, each.1, ih each.2]
    rfl

/-- Declarations none of which hides the name that is taken for granted are loaded if nothing keeps them from it. -/
theorem loadViews_of_unhidden {name : String} {views : List View} {store : Store}
    (clean : loadProblem? (store.units ++ [.ofViews name views]) store.units.length views = none)
    (unhidden : ∀ position < views.length, hidingKind? views store.units.length position = none) :
    loadViews name views store =
      .ok store.units.length { store with units := store.units ++ [.ofViews name views] } := by
  have each : ∀ item ∈ views.zipIdx, loadOne views store.units.length item.2 item.1 = pure ⟨item.1, none⟩ := by
    intro item member
    rw [loadOne, unhidden item.2 (by simpa using List.snd_lt_of_mem_zipIdx member)]
  have declarations : views.zipIdx.map (fun item => Loaded.mk item.1 none) = views.map (⟨·, none⟩) := by
    rw [← List.zipIdx_map_fst 0 views, List.map_map]
    simp [Function.comp_def]
  unfold loadViews
  rw [get_bind]
  simp only [clean]
  rw [mapM_of_pure (fun item => Loaded.mk item.1 none) _ each, declarations]
  have last : (store.units ++ [LoadedUnit.ofViews name views]).dropLast = store.units := List.dropLast_concat
  show EStateM.Result.ok _ { store with units := (store.units ++ [LoadedUnit.ofViews name views]).dropLast ++ _ } = _
  rw [last]
  rfl

/-! ### Units that are made as they are declared -/

section

variable {name text : String} {declared : List Declaration} {store after : Store} {unit : Nat}

theorem constructedKinds_resolved (declaration : Declaration) (unit position : Nat) (side : Side) :
    constructedKinds (View.resolved .default declaration) unit position side =
      (constructors declaration unit position side).map (·.1) := by
  have own : (View.resolved .default declaration).body = View.resolvedBody .default declaration := rfl
  rw [constructedKinds, own, View.resolvedBody, constructors]
  cases declaration.body with
  | record list => rfl
  | union variants =>
    have indices : (List.range variants.length) = variants.zipIdx.map (·.2) := by
      rw [List.zipIdx_map_snd, List.range_eq_range']
    simp only [List.length_map, indices, List.map_map]
    rfl

theorem loaded?_last (units : Units) (found : LoadedUnit) (position : Nat) :
    Units.loaded? (units ++ [found]) units.length position = found.declarations[position]? := by
  simp [Units.loaded?]

theorem isAt_last (units : Units) {found : LoadedUnit}
    (same : found.declarations.map (·.view) = declared.map (View.resolved .default)) {position : Nat}
    {declaration : Declaration} (known : declared[position]? = some declaration) :
    IsAt (units ++ [found]) units.length position declaration := by
  have view := congrArg (·[position]?) same
  simp only [List.getElem?_map, known, Option.map_some] at view
  obtain ⟨loaded, inside, view⟩ := Option.map_eq_some_iff.mp view
  exact ⟨loaded, by rwa [loaded?_last], view⟩

/-- The attributes of each kind of a declaration whose names are plain differ. -/
theorem nodup_attributeLists {declaration : Declaration} (named : declaration.WellNamed (NameOf Token.IsPlain)) :
    ∀ slots ∈ attributeLists (View.resolved .default declaration), slots.Nodup := by
  have distinct {list : FieldList} (own : list.WellNamed (NameOf Token.IsPlain))
      (inside : ∀ field ∈ list.fields, field ∈ declaration.fields) :
      ((list.fields.map (View.resolvedField .default declaration)).map (·.slot)).Nodup := by
    rw [slots_resolvedField _ fun field member => isFluent_slot named (inside field member)]
    exact own.memberNames.distinct
  have body := named.body
  have resolved : (View.resolved .default declaration).body = View.resolvedBody .default declaration := rfl
  rw [attributeLists, resolved, View.resolvedBody]
  cases own : declaration.body with
  | record list =>
    rw [own] at body
    have inside : ∀ field ∈ list.fields, field ∈ declaration.fields := by simp [Declaration.fields, own, Body.fields]
    exact List.forall_mem_singleton.mpr (distinct body inside)
  | union variants =>
    rw [own] at body
    simp only [List.map_map, List.forall_mem_map]
    intro variant member
    refine distinct (body.2 variant member).fields fun field present => ?_
    rw [Declaration.fields, own]
    exact List.mem_flatMap.mpr ⟨variant, member, present⟩

theorem wellNamed_resolved {declaration : Declaration} (named : declaration.WellNamed (NameOf Token.IsPlain)) :
    (View.resolved .default declaration).body.WellNamed :=
  View.wellNamed_of_attributeLists (View.memberNames_resolved named) (nodup_attributeLists named)

theorem typeVariables_nodup {isWord : String → Prop} {declaration : Declaration}
    (named : declaration.WellNamed isWord) :
    (View.resolved .default declaration).typeVariables.Nodup := by
  have names : (declaration.typeParameters.map (·.name)).Nodup := named.distinct.sublist (List.filter_sublist.map _)
  have whole : (View.resolved .default declaration).typeVariables =
      (declaration.typeParameters.map (·.name)).map fun name => "_" ++ declaration.name ++ "__" ++ name := by
    rw [List.map_map]
    rfl
  rw [whole]
  exact names.map fun first second same => (String.append_right_inj _).mp same

/-- A unit with plain names is loaded only if it can be written down and its type variables are kept, and then each
constructor can be made. -/
theorem loadProblem?_eq_none_iff (plain : ∀ declaration ∈ declared, declaration.WellNamed (NameOf Token.IsPlain))
    (units : Units) : loadProblem? units unit (declared.map (View.resolved .default)) = none ↔
      (∀ declaration ∈ declared, ∀ docs ∈ writtenDocs (View.resolved .default declaration), '\x00' ∉ docs.toList) ∧
        (declared.Pairwise fun earlier later => ∀ name ∈ (View.resolved .default later).typeVariables,
          name ∉ (View.resolved .default earlier).classNames) ∧
          ∀ item ∈ (declared.map (View.resolved .default)).zipIdx, ∀ side,
            ∀ kind ∈ constructedKinds item.1 unit item.2 side, constructorProblem? (units.parameters kind) = none := by
  have writable : ∀ view ∈ declared.map (View.resolved .default), ∀ name ∈ writtenNames view, isWritable name :=
    List.forall_mem_map.mpr fun declaration member name written => isWritable_of_mem (plain declaration member) written
  have distinct : ∀ view ∈ declared.map (View.resolved .default), ∀ slots ∈ attributeLists view, slots.Nodup :=
    List.forall_mem_map.mpr fun declaration member => nodup_attributeLists (plain declaration member)
  have fluent {declaration : Declaration} (member : declaration ∈ declared) {name : String}
      (own : name ∈ (View.resolved .default declaration).definedNames) : Text.identifier name = name :=
    (isFluent_definedName (plain declaration member) own).identifier_eq
  have typeNames {declaration : Declaration} (member : declaration ∈ declared) :
      (View.resolved .default declaration).typeVariables.map Text.identifier =
        (View.resolved .default declaration).typeVariables :=
    (List.map_congr_left fun _ own => fluent member (List.mem_append_left _ own)).trans (List.map_id _)
  have classes {declaration : Declaration} (member : declaration ∈ declared) :
      (View.resolved .default declaration).classNames.map Text.identifier =
        (View.resolved .default declaration).classNames :=
    (List.map_congr_left fun _ own => fluent member (List.mem_append_right _ own)).trans (List.map_id _)
  have keeps : ∀ item ∈ (declared.map (View.resolved .default)).zipIdx, keepsVariables [] item.1 := by
    rintro ⟨view, position⟩ present
    rw [List.mem_zipIdx_iff_getElem?, List.getElem?_map] at present
    obtain ⟨declaration, known, rfl⟩ := Option.map_eq_some_iff.mp present
    have member := List.mem_of_getElem? known
    simp [keepsVariables, typeNames member, typeVariables_nodup (plain declaration member)]
  -- The positions of the declarations do not matter for their names.
  have apart : ((declared.map (View.resolved .default)).zipIdx.Pairwise fun earlier later =>
      ∀ name ∈ later.1.typeVariables.map Text.identifier, name ∉ earlier.1.classNames.map Text.identifier) ↔
        declared.Pairwise fun earlier later => ∀ name ∈ (View.resolved .default later).typeVariables,
          name ∉ (View.resolved .default earlier).classNames := by
    rw [← List.pairwise_map (f := Prod.fst) (R := fun earlier later : View =>
      ∀ name ∈ later.typeVariables.map Text.identifier, name ∉ earlier.classNames.map Text.identifier),
      List.zipIdx_map_fst, List.pairwise_map]
    refine List.Pairwise.iff_of_mem fun {earlier later} first second => ?_
    rw [typeNames second, classes first]
  rw [loadProblem?, Option.or_eq_none_iff, unwritable?_eq_none_iff writable distinct, classProblem?_eq_none_iff, apart,
    List.forall_mem_map]
  exact and_congr_right fun _ => ⟨fun all => all.2, fun both => ⟨keeps, both⟩⟩

theorem AreFree.hidingKind?_eq_none (free : AreFree declared)
    (plain : ∀ declaration ∈ declared, declaration.WellNamed (NameOf Token.IsPlain)) {position : Nat}
    (inside : position < declared.length) :
    hidingKind? (declared.map (View.resolved .default)) unit position = none := by
  rw [hidingKind?_eq_none_iff]
  intro earlier before view found side
  rw [List.getElem?_map] at found
  obtain ⟨declaration, known, rfl⟩ := Option.map_eq_some_iff.mp found
  have own := (plain declaration (List.mem_of_getElem? known)).word.plain.fluent
  have member : declaration ∈ declared.dropLast := by
    rw [List.dropLast_eq_take, List.mem_take_iff_getElem]
    obtain ⟨own, same⟩ := List.getElem?_eq_some_iff.mp known
    exact ⟨earlier, by omega, same⟩
  cases side with
  | source =>
    rw [View.nameOn, View.name, show (View.resolved .default declaration).declaration = declaration from rfl,
      own.identifier_eq]
    exact free.shown declaration member
  | view =>
    -- The names of views start with a capital letter.
    intro same
    rw [View.nameOn, show (View.resolved .default declaration).viewName = Settings.default.viewName declaration.name from
      rfl, (isFluent_viewName own).identifier_eq] at same
    have first := congrArg (·.toList.head?) same
    simp [Settings.viewName, Settings.default, takenForGranted, String.toList_append] at first

theorem views_ofViews (name : String) (views : List View) :
    (LoadedUnit.ofViews name views).declarations.map (·.view) = views := by
  simp [LoadedUnit.ofViews, Function.comp_def]

/-- Parameters that all have to be given, under names that can be written, make a constructor. -/
theorem constructorProblem?_of_required {fields : List Field} (writable : ∀ field ∈ fields, isWritable field.slot) :
    constructorProblem? (fields.map fun field => (field.slot, none)) = none := by
  have shown : ¬ (fields.map fun field => ((field.slot, none) : String × Option Member)).any (·.1 ∈ keywords) := by
    simp only [List.any_map, List.any_eq_true, Function.comp_apply, decide_eq_true_eq, not_exists, not_and]
    intro field member keyword
    have free := writable field member
    simp [isWritable, keyword] at free
  rw [constructorProblem?, areOrdered_of_required, if_neg (by simp), if_neg shown]

theorem AreFree.constructors (free : AreFree declared)
    (plain : ∀ declaration ∈ declared, declaration.WellNamed (NameOf Token.IsPlain)) (units : Units) (name : String) :
    ∀ item ∈ (declared.map (View.resolved .default)).zipIdx, ∀ side,
      ∀ kind ∈ constructedKinds item.1 units.length item.2 side, constructorProblem?
        (Units.parameters (units ++ [.ofViews name (declared.map (View.resolved .default))]) kind) = none := by
  rintro ⟨view, position⟩ present side kind inside
  rw [List.mem_zipIdx_iff_getElem?, List.getElem?_map] at present
  obtain ⟨declaration, known, rfl⟩ := Option.map_eq_some_iff.mp present
  have member := List.mem_of_getElem? known
  have at_ := isAt_last units (views_ofViews name _) known
  rw [constructedKinds_resolved] at inside
  obtain ⟨made, chosen, rfl⟩ := List.mem_map.mp inside
  rw [(at_.constructors_iff (plain declaration member) side).mpr (free.fields declaration member) made chosen]
  exact constructorProblem?_of_required fun field own =>
    isWritable_slot (plain declaration member) (field_mem_of_constructors chosen own)

theorem AreFree.loads (free : AreFree declared)
    (plain : ∀ declaration ∈ declared, declaration.WellNamed (NameOf Token.IsPlain)) (name : String) (store : Store) :
    ∃ unit after, loadViews name (declared.map (View.resolved .default)) store = .ok unit after ∧
      IsMade after unit declared := by
  have clean := (loadProblem?_eq_none_iff plain _).mpr
    ⟨free.docs, free.typeVariables, free.constructors plain store.units name⟩
  have ran := loadViews_of_unhidden clean fun position inside =>
    free.hidingKind?_eq_none plain (by simpa using inside)
  refine ⟨_, _, ran, ?_, ?_⟩
  · intro position declaration known kind member
    obtain ⟨loaded, found, view⟩ := isAt_last store.units (views_ofViews name _) known
    have none : loaded.inPlace = none := by
      rw [loaded?_last] at found
      obtain ⟨view, -, rfl⟩ := List.mem_map.mp (List.mem_of_getElem? found)
      rfl
    have named := view ▸ wellNamed_resolved (plain declaration (List.mem_of_getElem? known))
    rw [member_butcher found view named member, member_unbutcher found view named member, none]
    exact ⟨rfl, rfl⟩
  · intro position declaration known side
    have member := List.mem_of_getElem? known
    have at_ := isAt_last store.units (views_ofViews name _) known
    exact (at_.constructors_iff (plain declaration member) side).mpr (free.fields declaration member)

theorem IsMade.areFree (made : IsMade after unit declared)
    (plain : ∀ declaration ∈ declared, declaration.WellNamed (NameOf Token.IsPlain))
    (ran : loadViews name (declared.map (View.resolved .default)) store = .ok unit after) : AreFree declared := by
  obtain ⟨rfl, clean, declarations, units, each⟩ := loadViews_eq_ok ran
  obtain ⟨docs, typeVariables, -⟩ := (loadProblem?_eq_none_iff plain _).mp clean
  have same := views_of_each each fun _ _ loaded => loaded.view
  have isAt {position : Nat} {declaration : Declaration} (known : declared[position]? = some declaration) :
      IsAt after.units store.units.length position declaration := by
    rw [units]
    exact isAt_last _ same known
  refine ⟨docs, typeVariables, ?_, ?_⟩
  · -- The declaration behind one that hides the name has an object in the place of its function.
    intro declaration member hides
    rw [List.dropLast_eq_take, List.mem_take_iff_getElem] at member
    obtain ⟨earlier, inside, own⟩ := member
    obtain ⟨other, behind⟩ : ∃ other, declared[earlier + 1]? = some other :=
      ⟨_, List.getElem?_eq_getElem (by omega)⟩
    obtain ⟨loaded, found, view⟩ := isAt behind
    have hidden : hidingKind? (declared.map (View.resolved .default)) store.units.length (earlier + 1) ≠ none := by
      rw [Ne, hidingKind?_eq_none_iff]
      intro unhidden
      have present : declared[earlier]? = some declaration := by
        rw [List.getElem?_eq_getElem (by omega), own]
      have known : (declared.map (View.resolved .default))[earlier]? = some (View.resolved .default declaration) := by
        rw [List.getElem?_map, present]
        rfl
      have form : (View.resolved .default declaration).nameOn .source = declaration.name :=
        (plain declaration (List.mem_of_getElem? present)).word.plain.fluent.identifier_eq
      exact unhidden earlier (Nat.lt_succ_self earlier) _ known .source (form.trans hides)
    have inPlace : ∃ address second, loaded.inPlace = some (.object address, second) := by
      rw [units, loaded?_last] at found
      obtain ⟨_, -, related⟩ := exists_related each found
      exact related.hidden hidden
    obtain ⟨address, second, inPlace⟩ := inPlace
    have named := view ▸ wellNamed_resolved (plain other (List.mem_of_getElem? behind))
    have kind := declaredKind_mem other store.units.length (earlier + 1) .source
    have read := (made.functions _ _ behind _ kind).1
    rw [member_butcher found view named kind, inPlace] at read
    cases read
  · intro declaration member
    obtain ⟨position, known⟩ := List.mem_iff_getElem?.mp member
    exact ((isAt known).constructors_iff (plain declaration member) .source).mp
      (made.constructors position declaration known .source)

theorem load_eq {source : Generated.Rendered} (read : ((Context.ofSettings .default).parse text).1 = .ok declared)
    (generated : ((Context.ofSettings .default).generate text).1 = .ok source) (name : String) :
    load name text .default = loadViews name (declared.map (View.resolved .default)) := by
  obtain ⟨registry, scope, outcome⟩ := Context.generate_of_parse read
  rw [generated] at outcome
  have resolves : (Context.ofSettings .default).resolve text = View.resolveAll .default declared := by
    rw [Context.resolve, read]
    rfl
  cases accepted : View.resolveAll .default declared with
  | error fault =>
    rw [accepted] at outcome
    cases outcome
  | ok views =>
    have same := (View.resolveAll_eq_ok _ accepted).1
    unfold load
    simp only [resolves, accepted]
    exact congrArg (loadViews name) same

theorem areFree_of_load {source : Generated.Rendered}
    (read : ((Context.ofSettings .default).parse text).1 = .ok declared)
    (generated : ((Context.ofSettings .default).generate text).1 = .ok source) (ascii : hasAsciiNames text)
    (ran : load name text .default store = .ok unit after) (made : IsMade after unit declared) : AreFree declared := by
  rw [load_eq read generated] at ran
  obtain ⟨state, unread, rfl⟩ := Context.exists_readUnit read
  exact made.areFree (readUnit_plain ascii unread) ran

/-- **Units are loaded as they are declared, if nothing gets in the way.** A unit that is generated, with names in
ASCII, is loaded with all its functions and constructors exactly if its declarations are free: no class takes the name
of a type variable that is used after it, only the last declaration has the name that is taken for granted, no
documentation holds a character that cannot be written, and no field has a name that its class has from elsewhere. -/
theorem load_isMade_iff {source : Generated.Rendered} (read : ((Context.ofSettings .default).parse text).1 = .ok declared)
    (generated : ((Context.ofSettings .default).generate text).1 = .ok source) (ascii : hasAsciiNames text)
    (name : String) (store : Store) :
    (∃ unit after, load name text .default store = .ok unit after ∧ IsMade after unit declared) ↔
      AreFree declared := by
  refine ⟨fun ⟨unit, after, ran, made⟩ => areFree_of_load read generated ascii ran made, fun free => ?_⟩
  rw [load_eq read generated]
  obtain ⟨state, unread, rfl⟩ := Context.exists_readUnit read
  exact free.loads (readUnit_plain ascii unread) name store

end

def unionOver (field : String) : List Declaration :=
  [⟨"U", [], .union [⟨"A", ⟨[], .unit⟩, ""⟩,
    ⟨"B", ⟨[⟨some field, 0, .named "i64", .regular, [], ""⟩, ⟨some "b", 1, .named "i64", .regular, [], ""⟩], .named⟩,
      ""⟩], none, ""⟩]

/-- A field may have the name of its own variant. -/
theorem load_isMade_own : ∃ unit after,
    load "m" "union U { A, B { B : i64, b : i64 } }" .default .initial = .ok unit after ∧
      IsMade after unit (unionOver "B") := by
  have parsed : ((Context.ofSettings .default).parse "union U { A, B { B : i64, b : i64 } }").1.toOption =
      some (unionOver "B") := by decide +kernel
  have read := eq_ok_of_toOption parsed
  obtain ⟨registry, scope, generated⟩ := Context.generate_of_parse read
  have accepted : View.resolveAll .default (unionOver "B") = .ok ((unionOver "B").map (View.resolved .default)) := rfl
  rw [accepted] at generated
  exact (load_isMade_iff read generated (by decide +kernel) "m" .initial).mpr (by decide)

/-- The class of a variant knows the one in front by the name of its field, so it has no constructor. -/
theorem load_not_isMade : ¬ ∀ text declared source, ((Context.ofSettings .default).parse text).1 = .ok declared →
    ((Context.ofSettings .default).generate text).1 = .ok source → hasAsciiNames text →
      ∃ unit after, load "m" text .default .initial = .ok unit after ∧ IsMade after unit declared := by
  intro all
  have parsed : ((Context.ofSettings .default).parse "union U { A, B { A : i64, b : i64 } }").1.toOption =
      some (unionOver "A") := by decide +kernel
  have read := eq_ok_of_toOption parsed
  obtain ⟨registry, scope, generated⟩ := Context.generate_of_parse read
  have accepted : View.resolveAll .default (unionOver "A") = .ok ((unionOver "A").map (View.resolved .default)) := rfl
  rw [accepted] at generated
  have ascii : hasAsciiNames "union U { A, B { A : i64, b : i64 } }" := by decide +kernel
  obtain ⟨unit, after, ran, made⟩ := all _ _ _ read generated ascii
  exact absurd (areFree_of_load read generated ascii ran made) (by decide)

end Live

end CowView
