import CowView.Declaration.Names
import CowView.Proofs.Runs

/-!
What the members of generated kinds, of their instances and of pointers read as. The variants of a union have
names that differ from each other and from the members that every generated kind has, and so have fields as they are
written. In the compiled text the attribute of a field may still be one of the members that instances are asked for:
that it is none of them is what `member?_slot` and the lemmas behind it ask of a field.
-/

namespace CowView

structure MemberNames (names : List String) : Prop where
  distinct : names.Nodup
  free : ∀ name ∈ names, name ∉ reservedMembers

def ViewBody.WellNamed : ViewBody → Prop
  | .record fields => (fields.map (·.slot)).Nodup
  | .union variants => MemberNames (variants.map (·.variant.name)) ∧
      ∀ variant ∈ variants, (variant.fields.map (·.slot)).Nodup

namespace Live

def Kind.onSide (side : Side) : Kind → Kind
  | record unit position _ => record unit position side
  | union unit position _ => union unit position side
  | variant unit position _ index => variant unit position side index
  | other => other

def Kind.base : Kind → Kind
  | variant unit position side _ => union unit position side
  | other => other

/-- The members that the functions between the two sides of a declaration ask instances of a kind for, besides the
fields. -/
def Kind.asked : Kind → List String
  | variant .. => ["SOURCE", "unbutcher", "DISCRIMINANT", "discriminant"]
  | _ => ["SOURCE", "unbutcher"]

namespace Units

inductive Forms (units : Units) : Kind → Loaded → List FieldView → Prop where
  | record {unit position : Nat} {side : Side} {loaded : Loaded} {fields : List FieldView}
      (found : units.loaded? unit position = some loaded)
      (body : loaded.view.body = .record fields) : Forms units (.record unit position side) loaded fields
  | variant {unit position index : Nat} {side : Side} {loaded : Loaded}
      {variants : List VariantView} {variant : VariantView}
      (found : units.loaded? unit position = some loaded)
      (body : loaded.view.body = .union variants) (chosen : variants[index]? = some variant) :
      Forms units (.variant unit position side index) loaded variant.fields

namespace Forms

variable {units : Units} {kind : Kind} {loaded : Loaded} {fields : List FieldView}

theorem fields_eq (forms : units.Forms kind loaded fields) : units.fields kind = fields := by
  cases forms with
  | record found body => simp [Units.fields, found, body, ViewBody.fields]
  | variant found body chosen =>
    simp [Units.fields, Units.variant?, found, body, ViewBody.variants, chosen]

theorem onSide (forms : units.Forms kind loaded fields) (side : Side) :
    units.Forms (kind.onSide side) loaded fields := by
  cases forms with
  | record found body => exact .record found body
  | variant found body chosen => exact .variant found body chosen

theorem distinct (forms : units.Forms kind loaded fields)
    (named : loaded.view.body.WellNamed) : (fields.map (·.slot)).Nodup := by
  cases forms with
  | record found body =>
    rw [body] at named
    exact named
  | variant found body chosen =>
    rw [body] at named
    exact named.2 _ (List.mem_of_getElem? chosen)

end Forms

def WellNamed (units : Units) : Prop :=
  ∀ unit position loaded, units.loaded? unit position = some loaded → loaded.view.body.WellNamed

theorem Forms.named {units : Units} {kind : Kind} {loaded : Loaded} {fields : List FieldView}
    (forms : units.Forms kind loaded fields) (named : units.WellNamed) :
    loaded.view.body.WellNamed := by
  cases forms with
  | record found => exact named _ _ _ found
  | variant found => exact named _ _ _ found

end Units

/-! ### Members of kinds -/

theorem variantKind?_eq {view : View} {variants : List VariantView}
    (body : view.body = .union variants) (named : view.body.WellNamed) {index : Nat}
    {variant : VariantView} (chosen : variants[index]? = some variant) (unit position : Nat)
    (side : Side) : variantKind? view unit position side variant.variant.name =
      some (.variant unit position side index) := by
  rw [body] at named
  obtain ⟨inside, same⟩ := List.getElem?_eq_some_iff.mp chosen
  have first : variants.findIdx? (·.variant.name = variant.variant.name) = some index := by
    rw [List.findIdx?_eq_some_iff_getElem]
    refine ⟨inside, by simp [same], fun earlier before => ?_⟩
    have before' : earlier < variants.length := Nat.lt_trans before inside
    have different := List.pairwise_iff_getElem.mp named.1.distinct earlier index
      (by simpa using before') (by simpa using inside) before
    simpa [same] using different
  rw [variantKind?, body, ViewBody.variants, first]
  rfl

theorem variantKind?_eq_none {view : View} {variants : List VariantView} {name : String}
    (body : view.body = .union variants) (other : name ∉ variants.map (·.variant.name))
    (unit position : Nat) (side : Side) : variantKind? view unit position side name = none := by
  have missing : variants.findIdx? (·.variant.name = name) = none := by
    rw [List.findIdx?_eq_none_iff]
    intro variant member
    have different : variant.variant.name ≠ name := by
      rintro rfl
      exact other (List.mem_map_of_mem member)
    simpa using different
  rw [variantKind?, body, ViewBody.variants, missing]
  rfl

theorem variantKind?_of_reserved {view : View} (named : view.body.WellNamed) {name : String}
    (reserved : name ∈ reservedMembers) (unit position : Nat) (side : Side) :
    variantKind? view unit position side name = none := by
  cases body : view.body with
  | record fields => simp [variantKind?, body, ViewBody.variants]
  | union variants =>
    rw [body] at named
    exact variantKind?_eq_none body (fun member => named.1.free name member reserved) unit position side

section

variable {store : Store} {kind : Kind} {loaded : Loaded} {fields : List FieldView}

theorem kindMember?_declared (forms : store.units.Forms kind loaded fields)
    (named : loaded.view.body.WellNamed) (side : Side) (name : String)
    (reserved : name ∈ reservedMembers) (free : name ∉ ["DISCRIMINANT", "VARIANTS"]) {maker : Member}
    (declared : declaredMember? loaded (kind.onSide .source).base side name = some maker) :
    store.kindMember? (kind.onSide side) name = some maker ∧
      store.kindMember? (kind.onSide side).base name = some maker := by
  cases forms with
  | record found body =>
    simp only [Kind.onSide, Kind.base] at declared
    simp [Store.kindMember?, Kind.onSide, Kind.base, Kind.ancestors, Store.ownMember?, found, declared]
  | @variant unit position index own loaded variants variant found body chosen =>
    simp only [List.mem_cons, List.not_mem_nil, or_false, not_or] at free
    have none := variantKind?_of_reserved named reserved unit position side
    simp only [Kind.onSide, Kind.base] at declared
    simp [Store.kindMember?, Kind.onSide, Kind.base, Kind.ancestors, Store.ownMember?, found, declared,
      none, free]

theorem kindMember?_ofSide (forms : store.units.Forms kind loaded fields)
    (named : loaded.view.body.WellNamed) {name : String} (reserved : name ∈ reservedMembers)
    (free : name ∉ ["DISCRIMINANT", "VARIANTS"]) {side : Side} {maker : Member}
    (undeclared : ∀ source, declaredMember? loaded source side name = none)
    (common : fixedMember? (.ofSide side) name = some maker) :
    store.kindMember? (kind.onSide side) name = some maker := by
  cases forms with
  | record found body =>
    cases side <;>
      simp_all [Store.kindMember?, Kind.onSide, Kind.ancestors, Store.ownMember?, Kind.ofSide]
  | @variant unit position index own loaded variants variant found body chosen =>
    simp only [List.mem_cons, List.not_mem_nil, or_false, not_or] at free
    have none := variantKind?_of_reserved named reserved unit position side
    cases side <;>
      simp_all [Store.kindMember?, Kind.onSide, Kind.ancestors, Store.ownMember?, Kind.ofSide]

/-! ### Members of instances -/

theorem Store.ownMember?_property {store : Store} {kind : Kind} {name : String} {property : Property}
    (known : store.ownMember? kind name = some (.property property)) :
    fixedMember? kind name = some (.property property) := by
  have declared (loaded : Loaded) (source : Kind) (side : Side) :
      declaredMember? loaded source side name ≠ some (.property property) := by
    unfold declaredMember?
    split
    all_goals first | (split <;> nofun) | nofun
  unfold ownMember? at known
  split at known
  · obtain ⟨loaded, -, known⟩ := Option.bind_eq_some_iff.mp known
    exact absurd known (declared _ _ _)
  · obtain ⟨loaded, -, known⟩ := Option.bind_eq_some_iff.mp known
    split at known
    · cases known
    · split at known
      · cases known
      · exact absurd known (declared _ _ _)
  · split at known
    · obtain ⟨found, -, known⟩ := Option.map_eq_some_iff.mp known
      cases known
    · cases known
  · exact known

theorem fixedMember?_ofSide_ne_property (side : Side) (name : String) (property : Property) :
    fixedMember? (.ofSide side) name ≠ some (.property property) := by
  cases side <;> simp only [Kind.ofSide] <;> unfold fixedMember? <;> split <;> first | contradiction | nofun

theorem fixedMember?_tagged {name : String} {property : Property}
    (known : fixedMember? .tagged name = some (.property property)) : name = "discriminant" := by
  unfold fixedMember? at known
  split at known <;> first | contradiction | cases known
  rfl

/-- Only the discriminant of an instance is computed, and only in the variants of a union. -/
theorem kindMember?_ne_property (forms : store.units.Forms kind loaded fields) (free : name ∉ kind.asked)
    (side : Side) (property : Property) :
    store.kindMember? (kind.onSide side) name ≠ some (.property property) := by
  intro known
  obtain ⟨ancestor, member, known⟩ := List.exists_of_findSome?_eq_some known
  have fixed := Store.ownMember?_property known
  have common : ancestor ≠ .ofSide side := by
    rintro rfl
    exact fixedMember?_ofSide_ne_property side name property fixed
  cases forms with
  | record =>
    simp only [Kind.onSide, Kind.ancestors, List.mem_cons, List.not_mem_nil, or_false, common, false_or] at member
    rcases member with rfl | rfl <;> cases fixed
  | variant =>
    simp only [Kind.onSide, Kind.ancestors, List.mem_cons, List.not_mem_nil, or_false, common, false_or] at member
    rcases member with rfl | rfl | rfl | rfl
    · cases fixed
    · cases fixed
    · exact free (fixedMember?_tagged fixed ▸ by simp [Kind.asked])
    · cases fixed

theorem member?_onKind {found : Member} {value : Value}
    (known : store.kindMember? kind name = some found)
    (read : found.onKind kind store = .ok value store) :
    member? (.kind kind) name store = .ok (some value) store := by
  rw [member?, get_bind]
  simp only [known]
  rw [bind_of_ok read]
  rfl

theorem member_of_member? {holder value : Value} {after : Store}
    (read : member? holder name store = .ok (some value) after) :
    member holder name store = .ok value after := by
  rw [member, bind_of_ok read]
  rfl

theorem callable?_of_member? {holder value : Value} {after : Store}
    (read : member? holder name store = .ok (some value) after) :
    callable? holder name store = .ok (if value.isCallable then some value else none) after := by
  rw [callable?, bind_of_ok read, Option.filter_some]
  rfl

theorem callable?_eq_none {holder : Value} (read : member? holder name store = .ok none store) :
    callable? holder name store = .ok none store := by
  rw [callable?, bind_of_ok read]
  rfl

/-- A value that is no kind has its own attribute first, unless its kind computes the member. -/
theorem member?_own {holder content : Value} {object : Object}
    (held : store.object? holder = some object) (own : object.attribute? name = some content)
    (plain : ∀ property, store.kindMember? object.kind name ≠ some (.property property)) :
    member? holder name store = .ok (some content) store := by
  cases holder with
  | object address =>
    rw [member?, get_bind]
    simp only [Store.kindOf_of_object? held, held, Option.bind_some, own]
    rfl
  | _ => cases held

theorem member?_onValue {holder value : Value} {object : Object} (found : Member)
    (held : store.object? holder = some object) (none : object.attribute? name = none)
    (known : store.kindMember? object.kind name = some found)
    (read : found.onValue holder object.kind store = .ok value store) :
    member? holder name store = .ok (some value) store := by
  cases holder with
  | object address =>
    rw [member?, get_bind]
    simp only [Store.kindOf_of_object? held, held, Option.bind_some, none, known]
    cases found with
    | property property =>
      simp only
      rw [bind_of_ok (show property.read (.object address) store = _ from read)]
      rfl
    | _ =>
      simp only
      rw [bind_of_ok read]
      rfl
  | _ => cases held

theorem member?_slot (forms : store.units.Forms kind loaded fields) {side : Side} {holder content : Value}
    {attributes : List (String × Value)}
    (held : store.object? holder = some (.entity (kind.onSide side) attributes))
    (free : name ∉ kind.asked) (own : attributes.lookup name = some content) :
    member? holder name store = .ok (some content) store :=
  member?_own held own (kindMember?_ne_property forms free side)

/-- A member that the fields leave alone is no attribute of an instance. -/
theorem lookup_asked {attributes : List (String × Value)} (free : ∀ field ∈ fields, field.slot ∉ kind.asked)
    (slots : attributes.map (·.1) = fields.map (·.slot)) (asked : name ∈ kind.asked) :
    attributes.lookup name = none := by
  rw [List.lookup_eq_none_iff]
  intro entry member
  have slot : entry.1 ∈ fields.map (·.slot) := by
    rw [← slots]
    exact List.mem_map_of_mem member
  have different : name ≠ entry.1 := by
    intro same
    obtain ⟨field, own, slot⟩ := List.mem_map.mp slot
    exact free field own (slot ▸ same ▸ asked)
  simpa using different

theorem member?_unbutcher_view (forms : store.units.Forms kind loaded fields)
    (named : loaded.view.body.WellNamed) (free : ∀ field ∈ fields, field.slot ∉ kind.asked) {holder : Value}
    {attributes : List (String × Value)}
    (held : store.object? holder = some (.entity (kind.onSide .view) attributes))
    (slots : attributes.map (·.1) = fields.map (·.slot)) :
    member? holder "unbutcher" store = .ok (some (.bound holder .rebuild)) store := by
  have known : store.kindMember? (kind.onSide .view) "unbutcher" = some (.method .rebuild) :=
    kindMember?_ofSide forms named (by decide) (by decide) (fun _ => rfl) rfl
  have asked : "unbutcher" ∈ kind.asked := by cases forms <;> simp [Kind.asked]
  exact member?_onValue _ held (lookup_asked free slots asked) known rfl

theorem member_source (forms : store.units.Forms kind loaded fields)
    (named : loaded.view.body.WellNamed) (free : ∀ field ∈ fields, field.slot ∉ kind.asked) {holder : Value}
    {attributes : List (String × Value)}
    (held : store.object? holder = some (.entity (kind.onSide .view) attributes))
    (slots : attributes.map (·.1) = fields.map (·.slot)) :
    member holder "SOURCE" store = .ok (.kind (kind.onSide .source).base) store := by
  have known : store.kindMember? (kind.onSide .view) "SOURCE" =
      some (.constant (.kind (kind.onSide .source).base)) :=
    (kindMember?_declared forms named .view _ (by decide) (by decide) rfl).1
  have asked : "SOURCE" ∈ kind.asked := by cases forms <;> simp [Kind.asked]
  exact member_of_member? (member?_onValue _ held (lookup_asked free slots asked) known rfl)

/-- The function that makes views of the instances of a kind. -/
theorem kindMember?_butcher (forms : store.units.Forms kind loaded fields)
    (named : loaded.view.body.WellNamed) :
    store.kindMember? (kind.onSide .source) "butcher" = some (match loaded.inPlace with
      | some (first, _) => .constant first
      | none => .kindMethod .takeApart) :=
  (kindMember?_declared forms named .source _ (by decide) (by decide) rfl).1

theorem kindMember?_unbutcher (forms : store.units.Forms kind loaded fields)
    (named : loaded.view.body.WellNamed) {maker : Kind}
    (chosen : maker = kind.onSide .source ∨ maker = (kind.onSide .source).base) :
    store.kindMember? maker "unbutcher" = some (match loaded.inPlace with
      | some (_, second) => .constant second
      | none => .kindMethod .putTogether) := by
  have both := kindMember?_declared forms named .source "unbutcher" (by decide) (by decide) rfl
  rcases chosen with rfl | rfl
  · exact both.1
  · exact both.2

theorem member_discriminant {unit position index : Nat} {side : Side}
    {variants : List VariantView} {variant : VariantView}
    (found : store.units.loaded? unit position = some loaded)
    (body : loaded.view.body = .union variants) (chosen : variants[index]? = some variant)
    (named : loaded.view.body.WellNamed) {other : Side}
    (free : ∀ field ∈ variant.fields, field.slot ∉ (Kind.variant unit position other index).asked)
    {holder : Value} {attributes : List (String × Value)}
    (held : store.object? holder = some (.entity (.variant unit position side index) attributes))
    (slots : attributes.map (·.1) = variant.fields.map (·.slot)) :
    member holder "discriminant" store = .ok (.text variant.variant.name) store := by
  have none : variantKind? loaded.view unit position side "discriminant" = none :=
    variantKind?_of_reserved named (by decide) unit position side
  have known : store.kindMember? (.variant unit position side index) "discriminant" =
      some (.property .discriminant) := by
    -- neither the variant nor its union has the member, and the kinds behind them are fixed
    cases side <;>
      simp [Store.kindMember?, Kind.ancestors, Store.ownMember?, found, none, declaredMember?,
        Kind.ofSide] <;> rfl
  have own : store.kindMember? (.variant unit position side index) "DISCRIMINANT" =
      some (.constant (.text variant.variant.name)) := by
    simp [Store.kindMember?, Kind.ancestors, Store.ownMember?, Units.variant?, found, body,
      ViewBody.variants, chosen]
  refine member_of_member?
    (member?_onValue _ held (lookup_asked free slots (by simp [Kind.asked])) known ?_)
  have lookup : attributes.lookup "DISCRIMINANT" = .none := lookup_asked free slots (by simp [Kind.asked])
  show Property.read .discriminant holder store = _
  rw [Property.read, get_bind]
  simp only [held, lookup, own]
  rfl

theorem member_variant {unit position index : Nat} {side : Side}
    {variants : List VariantView} {variant : VariantView}
    (found : store.units.loaded? unit position = some loaded)
    (body : loaded.view.body = .union variants) (chosen : variants[index]? = some variant)
    (named : loaded.view.body.WellNamed) {holder : Kind}
    (near : holder.base = .union unit position side) :
    member (.kind holder) variant.variant.name store =
      .ok (.kind (.variant unit position side index)) store := by
  have own := variantKind?_eq body named chosen unit position side
  have free : variant.variant.name ≠ "DISCRIMINANT" := by
    intro same
    rw [body] at named
    exact named.1.free _ (List.mem_map_of_mem (List.mem_of_getElem? chosen)) (by rw [same]; decide)
  have known : store.kindMember? holder variant.variant.name =
      some (.constant (.kind (.variant unit position side index))) := by
    cases holder <;> cases near
    all_goals simp [Store.kindMember?, Kind.ancestors, Store.ownMember?, found, own, free]
  exact member_of_member? (member?_onKind known rfl)

end

end Live

end CowView
