import CowView.Proofs.Loading
import CowView.Proofs.Registering

/-!
Declarations that were accepted. Whatever was registered before, a text that is read gives well formed declarations
with new names (`Context.parse_wellFormed`): what generation takes for granted about them was checked.
-/

namespace CowView

def Body.lists : Body → List FieldList
  | .record list => [list]
  | .union variants => variants.map (·.fields)

def Body.variants : Body → List Variant
  | .record _ => []
  | .union variants => variants

/-- Each field knows its place, and no two go by one name or are held by one attribute. The style tells which of them
have names. -/
structure FieldList.WellFormed (list : FieldList) : Prop where
  indexed : ∀ (index : Nat) (field : Field), list.fields[index]? = some field → field.index = index
  slots : (list.fields.map (·.slot)).Nodup
  names : (list.fields.filterMap (·.name)).Nodup
  shown : ∀ field ∈ list.fields, ∀ name, field.name = some name → PublicName true name
  style : match list.style with
    | .named => ∀ field ∈ list.fields, field.name.isSome
    | .tuple => ∀ field ∈ list.fields, field.name = none
    | .unit => list.fields = []

/-- All names may be introduced where they are, no two in one place are the same, and each field is taken into a view
by one of the strategies. -/
structure Declaration.WellFormed (declaration : Declaration) : Prop where
  shown : PublicName false declaration.name
  distinct : (declaration.parameters.map (·.name)).Nodup
  parameters : ∀ name bounds, .type name bounds ∈ declaration.parameters → PublicName false name
  variants : (declaration.body.variants.map (·.name)).Nodup
  members : ∀ variant ∈ declaration.body.variants, PublicName true variant.name
  lists : ∀ list ∈ declaration.body.lists, list.WellFormed
  strategies : ∀ field ∈ declaration.fields,
    field.strategy.tag ∈ ["regular", "copy", "flatten", "unbox", "rebutcher"]

variable {isWord : String → Prop}

theorem FieldList.WellNamed.wellFormed {list : FieldList} (named : list.WellNamed isWord) : list.WellFormed := by
  have slots := named.memberNames.distinct
  obtain ⟨counted, named⟩ := named
  have indexed : ∀ (index : Nat) (field : Field), list.fields[index]? = some field → field.index = index := by
    intro index field found
    have known := congrArg (·[index]?) counted
    simp only [List.getElem?_map, found, Option.map_some] at known
    obtain ⟨inside, same⟩ := List.getElem?_eq_some_iff.mp known.symm
    rw [List.getElem_range] at same
    exact same.symm
  cases style : list.style with
  | named =>
    rw [style] at named
    refine ⟨indexed, slots, named.2, fun field member name own => ?_, ?_⟩
    · obtain ⟨other, same, shown, -⟩ := named.1 field member
      cases own.symm.trans same
      exact shown
    · rw [style]
      intro field member
      obtain ⟨name, same, -⟩ := named.1 field member
      rw [same]
      rfl
  | tuple =>
    rw [style] at named
    have unnamed : list.fields.filterMap (·.name) = [] := List.filterMap_eq_nil_iff.mpr named
    refine ⟨indexed, slots, by simp [unnamed], fun field member name own => ?_, by rwa [style]⟩
    cases own.symm.trans (named field member)
  | unit =>
    rw [style] at named
    refine ⟨indexed, slots, by simp [named], fun field member => ?_, by rwa [style]⟩
    rw [named] at member
    cases member

theorem Strategy.tag_mem (strategy : Strategy) :
    strategy.tag ∈ ["regular", "copy", "flatten", "unbox", "rebutcher"] := by
  cases strategy <;> decide

theorem Declaration.WellNamed.wellFormed {declaration : Declaration} (named : declaration.WellNamed isWord) :
    declaration.WellFormed := by
  obtain ⟨variants, members, lists⟩ : (declaration.body.variants.map (·.name)).Nodup ∧
      (∀ variant ∈ declaration.body.variants, PublicName true variant.name) ∧
        ∀ list ∈ declaration.body.lists, list.WellFormed := by
    have body := named.body
    cases own : declaration.body with
    | record list =>
      rw [own] at body
      exact ⟨.nil, nofun, List.forall_mem_singleton.mpr body.wellFormed⟩
    | union variants =>
      rw [own] at body
      exact ⟨body.1, fun variant member => (body.2 variant member).shown,
        List.forall_mem_map.mpr fun variant member => (body.2 variant member).fields.wellFormed⟩
  exact ⟨named.shown, named.distinct, fun name bounds member => (named.parameters _ member).1, variants, members,
    lists, fun field _ => field.strategy.tag_mem⟩

/-- **Accepted declarations are well formed.** Whatever is registered, the declarations that a text is read into have
names that differ from each other and from all that are registered, and each of them is well formed. -/
theorem Context.parse_wellFormed {context : Context} {text : String} {declared : List Declaration}
    (read : (context.parse text).1 = .ok declared) :
    (declared.map (·.name)).Nodup ∧ (∀ declaration ∈ declared, declaration.name ∉ context.names) ∧
      ∀ declaration ∈ declared, declaration.WellFormed := by
  obtain ⟨same, new, -⟩ := parse_eq_ok read
  obtain ⟨distinct, apart⟩ := fresh_distinct context.names (completeIn text)
  rw [new, ← same] at distinct apart
  refine ⟨distinct, apart, fun declaration member => ?_⟩
  obtain ⟨state, unread, rfl⟩ := exists_readUnit read
  exact (readUnit_wellNamed (fun _ _ => trivial) (fun _ => trivial) unread declaration member).wellFormed

/-- A record without names of fields and a union, where another record is registered. -/
theorem Context.parse_wellFormed_union : ∃ declared,
    ((((ofSettings .default).parse "record R").2).parse
      "record S<'a, T>(&'a T, @butcher(copy) i64) union U { A, B { x : i64 } }").1 = .ok declared ∧
      declared.map (·.name) = ["S", "U"] ∧ ((declared.map (·.name)).Nodup ∧
        (∀ declaration ∈ declared, declaration.name ∉ (((ofSettings .default).parse "record R").2).names) ∧
          ∀ declaration ∈ declared, declaration.WellFormed) := by
  have names : ((((ofSettings .default).parse "record R").2).parse
      "record S<'a, T>(&'a T, @butcher(copy) i64) union U { A, B { x : i64 } }").1.toOption.map
        (List.map (·.name)) = some ["S", "U"] := by decide +kernel
  cases read : ((((ofSettings .default).parse "record R").2).parse
      "record S<'a, T>(&'a T, @butcher(copy) i64) union U { A, B { x : i64 } }").1 with
  | error fault => simp [read, Except.toOption] at names
  | ok declared =>
    rw [read] at names
    exact ⟨declared, rfl, Option.some.inj names, parse_wellFormed read⟩

end CowView
