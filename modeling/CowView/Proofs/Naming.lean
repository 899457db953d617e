import CowView.Declaration.Parser
import CowView.Proofs.Giving

/-!
Names in units that were read. All names that a declaration introduces may be introduced, and come from
tokens of the text (`readUnit_wellNamed`): names of members are not reserved, no two fields, variants or
parameters share a name, and fields without names are counted from zero.
-/

namespace CowView

open TokenStream
open Annotation (keeps_parseAll)

/-- The name may be introduced: it has no underscore in front, is no keyword and, as the name of a
member, is none of those that generated classes define. -/
structure PublicName (isMember : Bool) (name : String) : Prop where
  shown : name.toList.head? ≠ some '_'
  free : name ∉ keywords
  unreserved : isMember = true → name ∉ reservedMembers

theorem publicName_eq_ok {role name found : String} {isMember : Bool}
    (ok : publicName role name isMember = .ok found) : found = name ∧ PublicName isMember name := by
  have clean : nameProblem? role name isMember = none := by
    unfold publicName at ok
    split at ok
    · cases ok
    next clean => exact clean
  unfold nameProblem? at clean
  split at clean
  · cases clean
  next shown =>
    split at clean
    · cases clean
    next free =>
      split at clean
      · cases clean
      next unreserved =>
        refine ⟨?_, shown, free, fun member reserved => unreserved (by simp [member, reserved])⟩
        simpa [publicName, nameProblem?, shown, free, unreserved, eq_comm] using ok

/-! ### What well named declarations are -/

section

variable (isWord : String → Prop)

def Parameter.WellNamed : Parameter → Prop
  | .type name _ => PublicName false name ∧ isWord name
  | _ => True

/-- The fields are counted from zero. Those in braces have names, all of them different; those in
parentheses have none. -/
structure FieldList.WellNamed (list : FieldList) : Prop where
  counted : list.fields.map (·.index) = List.range list.fields.length
  named : match list.style with
    | .named => (∀ field ∈ list.fields, ∃ name, field.name = some name ∧ PublicName true name ∧
        isWord name) ∧ (list.fields.filterMap (·.name)).Nodup
    | .tuple => ∀ field ∈ list.fields, field.name = none
    | .unit => list.fields = []

structure Variant.WellNamed (variant : Variant) : Prop where
  shown : PublicName true variant.name
  word : isWord variant.name
  fields : variant.fields.WellNamed isWord

def Body.WellNamed : Body → Prop
  | .record list => list.WellNamed isWord
  | .union variants =>
    (variants.map (·.name)).Nodup ∧ ∀ variant ∈ variants, variant.WellNamed isWord

structure Declaration.WellNamed (declaration : Declaration) : Prop where
  shown : PublicName false declaration.name
  word : isWord declaration.name
  parameters : ∀ parameter ∈ declaration.parameters, parameter.WellNamed isWord
  distinct : (declaration.parameters.map (·.name)).Nodup
  body : declaration.body.WellNamed isWord

end

def Parameter.SpelledIn (sort : Token → Prop) : Parameter → Prop
  | .lifetime duration _ => LifetimeOf sort duration
  | _ => True

structure Declaration.ReadFrom (sort : Token → Prop) (declaration : Declaration) : Prop where
  parameters : ∀ parameter ∈ declaration.parameters, parameter.SpelledIn sort
  types : ∀ field ∈ declaration.fields, TypeOf sort field.type

theorem FieldList.WellNamed.ofVariant {isWord : String → Prop} {list : FieldList}
    (named : list.WellNamed isWord) : list.ofVariant.WellNamed isWord := by
  unfold FieldList.ofVariant
  split
  · exact ⟨rfl, rfl⟩
  · exact named

/-! ### Reading declarations -/

def NameOf (sort : Token → Prop) (text : String) : Prop :=
  ∃ token, sort token ∧ token.kind = .identifier ∧ token.value = text

namespace Declaration.Parser

variable {sort : Token → Prop} (ends : ∀ position, sort (.endAt position))

theorem gives_ensureDistinct {names : List String} {problem : String → DeclarationProblem} :
    Gives sort (ensureDistinct names problem) fun _ => names.Nodup := by
  unfold ensureDistinct
  split
  · exact .throw
  next distinct => exact .pure ((firstRepeated?_eq_none [] names).mp distinct).1

include ends

theorem gives_introduced (role : String) (isMember : Bool) :
    Gives sort (introduced role isMember) fun name => PublicName isMember name ∧ NameOf sort name := by
  refine (gives_ensure ends).bind fun name taken => ?_
  split
  next ok =>
    obtain ⟨rfl, shown⟩ := publicName_eq_ok ok
    obtain ⟨token, own, kind, rfl⟩ := taken
    exact .pure ⟨shown, token, own, kind, rfl⟩
  · exact .throw

theorem keeps_parameterBounds : Keeps sort parameterBounds := .test (keeps_bounds ends) (.pure trivial)

theorem gives_parameter : Gives sort parameter fun found =>
    found.WellNamed (NameOf sort) ∧ found.SpelledIn sort := by
  refine .glance ?_ (.test ?_ ?_)
  · exact (TypeExpr.Parser.gives_lifetime ends).bind fun _ spelled =>
      (keeps_parameterBounds ends).after fun _ => .pure ⟨trivial, spelled⟩
  · exact (keeps_ensure ends).after fun _ => (keeps_ensure ends).after fun _ =>
      (keeps_type ends).after fun _ => .pure ⟨trivial, trivial⟩
  · exact (gives_introduced ends _ _).bind fun name named =>
      (keeps_parameterBounds ends).after fun _ => .pure ⟨named, trivial⟩

theorem gives_parameters (steps : Nat) : Gives sort (parameters steps) fun found =>
    ∀ parameter ∈ found, parameter.WellNamed (NameOf sort) ∧ parameter.SpelledIn sort := by
  induction steps with
  | zero => exact .throw
  | succ steps ih =>
    refine .test (.pure (by simp)) ((gives_parameter ends).bind fun first named => .test ?_ ?_)
    · exact ih.bind fun rest all => .pure (by simpa using ⟨named, all⟩)
    · exact (keeps_ensure ends).after fun _ => .pure (by simpa using named)

theorem gives_generics : Gives sort generics fun found =>
    (∀ parameter ∈ found, parameter.WellNamed (NameOf sort) ∧ parameter.SpelledIn sort) ∧
      (found.map (·.name)).Nodup := by
  refine keeps_nextIs.after fun _ => .ite (fun _ => .pure ⟨by simp, by simp⟩) fun _ => ?_
  exact .get fun _ => (gives_parameters ends _).bind fun found named =>
    gives_ensureDistinct.bind fun _ distinct => .pure ⟨named, distinct⟩

omit ends in
theorem gives_field {owner docs : String} {name : Option String} {index : Nat} {type : TypeExpr}
    {mark : Option Annotation} : Gives sort (field owner name index type mark docs) fun found =>
      found.name = name ∧ found.index = index ∧ found.type = type := by
  unfold field
  dsimp only
  split
  · exact .pure ⟨rfl, rfl, rfl⟩
  · exact .throw

theorem keeps_lookahead (steps : Nat) (depth : Int) (seen : List Token) (known : ∀ token ∈ seen, sort token) :
    Gives sort (lookaheadFrom steps depth seen) fun found => ∀ token ∈ found.2, sort token := by
  induction steps generalizing depth seen with
  | zero => exact .throw
  | succ steps ih =>
    refine (gives_next ends).bind fun token own => ?_
    have all : ∀ other ∈ token :: seen, sort other := by simpa using ⟨own, known⟩
    split
    · exact .pure all
    · exact ih _ _ all
    · exact ih _ _ all
    · exact .ite (fun _ => .pure all) fun _ => ih _ _ all
    · exact ih _ _ all

theorem keeps_lookaheadFieldName : Keeps sort lookaheadFieldName := by
  have back (seen : List Token) (own : ∀ token ∈ seen, sort token) : Keeps sort (seen.forM unget) := by
    induction seen with
    | nil => exact .pure trivial
    | cons token rest ih =>
      exact (keeps_unget (own token (by simp))).after fun _ => ih fun other member => own other (by simp [member])
  exact .get fun _ => (keeps_lookahead ends _ _ _ (by simp)).bind fun found own =>
    (back _ own).after fun _ => .pure trivial

theorem gives_namedField (owner : String) (index : Nat) :
    Gives sort (namedField owner index) fun found => found.index = index ∧ TypeOf sort found.type ∧
      ∃ name, found.name = some name ∧ PublicName true name ∧ NameOf sort name := by
  have remaining (label : Option String) : Gives sort (do
      let docsBefore ← lastDocs
      let mark ← Annotation.parseAll ⟨some owner, label⟩
      let docsAfter ← lastDocs
      let docs := if docsAfter.isEmpty then docsBefore else docsAfter
      let name ← introduced "field" true
      let _ ← ensure .colon
      field owner (some name) index (← TypeExpr.parse) mark docs) fun found =>
        found.index = index ∧ TypeOf sort found.type ∧ ∃ name, found.name = some name ∧ PublicName true name ∧ NameOf sort name := by
    refine keeps_lastDocs.after fun before => (keeps_parseAll ends).after fun mark =>
      keeps_lastDocs.after fun docs => (gives_introduced ends _ _).bind fun name named => ?_
    refine (keeps_ensure ends).after fun _ => (gives_type ends).bind fun type read => ?_
    exact gives_field.mono fun found own => ⟨own.2.1, by rwa [own.2.2], name, own.1, named⟩
  exact .glance ((keeps_lookaheadFieldName ends).after remaining) (remaining none)

theorem gives_tupleField (owner : String) (index : Nat) :
    Gives sort (tupleField owner index) fun found =>
      found.index = index ∧ TypeOf sort found.type ∧ found.name = none :=
  keeps_peekedIs.after fun _ => keeps_lastDocs.after fun _ =>
    (keeps_parseAll ends).after fun _ => (gives_type ends).bind fun _ read =>
      gives_field.mono fun _ own => ⟨own.2.1, by rwa [own.2.2], own.1⟩

theorem gives_namedFields (owner : String) (steps index : Nat) :
    Gives sort (namedFields owner steps index) fun found =>
      found.map (·.index) = List.range' index found.length ∧ ∀ field ∈ found, TypeOf sort field.type ∧
        ∃ name, field.name = some name ∧ PublicName true name ∧ NameOf sort name := by
  induction steps generalizing index with
  | zero => exact .throw
  | succ steps ih =>
    refine .test (.pure (by simp)) ((gives_namedField ends _ _).bind fun first own => ?_)
    refine keeps_nextIs.after fun _ => (ih _).bind fun rest others => .pure ⟨?_, ?_⟩
    · simp [List.range'_succ, own.1, others.1]
    · simpa using ⟨own.2, others.2⟩

theorem gives_tupleFields (owner : String) (steps index : Nat) :
    Gives sort (tupleFields owner steps index) fun found =>
      found.map (·.index) = List.range' index found.length ∧
        ∀ field ∈ found, TypeOf sort field.type ∧ field.name = none := by
  induction steps generalizing index with
  | zero => exact .throw
  | succ steps ih =>
    refine .test (.pure (by simp)) ((gives_tupleField ends _ _).bind fun first own => .test ?_ ?_)
    · refine (ih _).bind fun rest others => .pure ⟨?_, ?_⟩
      · simp [List.range'_succ, own.1, others.1]
      · simpa using ⟨own.2, others.2⟩
    · exact (keeps_ensure ends).after fun _ => .pure (by simp [own])

theorem gives_fieldList (owner : String) : Gives sort (fieldList owner) fun found =>
    found.WellNamed (NameOf sort) ∧ ∀ field ∈ found.fields, TypeOf sort field.type := by
  refine .test ?_ (.test ?_ ?_)
  · refine .get fun _ => (gives_namedFields ends _ _ _).bind fun fields own =>
      gives_ensureDistinct.bind fun _ distinct => .pure ⟨⟨?_, ?_, distinct⟩, fun field member => (own.2 field member).1⟩
    · rw [own.1, List.range_eq_range']
    · exact fun field member => (own.2 field member).2
  · refine .get fun _ => (gives_tupleFields ends _ _ _).bind fun fields own =>
      .pure ⟨⟨?_, fun field member => (own.2 field member).2⟩, fun field member => (own.2 field member).1⟩
    rw [own.1, List.range_eq_range']
  · exact .pure ⟨⟨rfl, rfl⟩, nofun⟩

theorem gives_variant (owner : String) : Gives sort (variant owner) fun found =>
    found.WellNamed (NameOf sort) ∧ ∀ field ∈ found.fields.fields, TypeOf sort field.type := by
  refine keeps_peekedIs.after fun _ => keeps_lastDocs.after fun _ =>
    (gives_introduced ends _ _).bind fun _ named => (gives_fieldList ends _).bind fun list own =>
      .pure ⟨⟨named.1, named.2, own.1.ofVariant⟩, ?_⟩
  dsimp only
  unfold FieldList.ofVariant
  split
  · exact nofun
  · exact own.2

theorem gives_union (owner : String) : Gives sort (union owner) fun found =>
    Body.WellNamed (NameOf sort) (.union found) ∧ ∀ field ∈ (Body.union found).fields, TypeOf sort field.type := by
  have all (steps : Nat) : Gives sort (variants owner steps) fun found => ∀ variant ∈ found,
      variant.WellNamed (NameOf sort) ∧ ∀ field ∈ variant.fields.fields, TypeOf sort field.type := by
    induction steps with
    | zero => exact .throw
    | succ steps ih =>
      exact .test (.pure (by simp)) ((gives_variant ends _).bind fun first own =>
        keeps_nextIs.after fun _ => ih.bind fun rest others => .pure (List.forall_mem_cons.mpr ⟨own, others⟩))
  refine (keeps_ensure ends).after fun _ => .get fun _ => (all _).bind fun found own =>
    gives_ensureDistinct.bind fun _ distinct => .pure ⟨⟨distinct, fun variant member => (own variant member).1⟩, ?_⟩
  intro field member
  obtain ⟨variant, known, inside⟩ := List.mem_flatMap.mp member
  exact (own variant known).2 field inside

end Declaration.Parser

/-! ### Reading units -/

structure UnitState.Holds (state : UnitState) (sort : Token → Prop) : Prop where
  stream : state.stream.Holds sort
  declared : ∀ declaration ∈ state.declared, declaration.WellNamed (NameOf sort) ∧ declaration.ReadFrom sort

def UnitGives {α : Type} (sort : Token → Prop) (action : UnitReading α) (result : α → Prop) : Prop :=
  ∀ state left value, state.Holds sort → action state = .ok value left →
    left.Holds sort ∧ result value

namespace UnitGives

variable {sort : Token → Prop} {α β : Type} {action : UnitReading α} {next : α → UnitReading β}
  {between : α → Prop} {result : β → Prop}

theorem pure {value : β} (holds : result value) : UnitGives sort (pure value) result := by
  intro state left found kept read
  cases read
  exact ⟨kept, holds⟩

theorem throw {fault : Fault} : UnitGives sort (throw fault) result := by
  intro state left found kept read
  cases read

theorem bind (first : UnitGives sort action between)
    (later : ∀ found, between found → UnitGives sort (next found) result) :
    UnitGives sort (action >>= next) result := by
  intro state left value kept read
  change EStateM.bind action next state = _ at read
  unfold EStateM.bind at read
  split at read
  next found behind one =>
    obtain ⟨kept, holds⟩ := first _ _ _ kept one
    exact later found holds _ _ _ kept read
  · cases read

theorem map {change : α → β} (first : UnitGives sort action between)
    (holds : ∀ found, between found → result (change found)) : UnitGives sort (change <$> action) result := by
  rw [map_eq_pure_bind]
  exact first.bind fun found known => pure (holds found known)

theorem onStream {action : Reading β} (gives : Gives sort action result) :
    UnitGives sort (UnitReading.onStream action) result := by
  intro state left value kept read
  unfold UnitReading.onStream at read
  split at read
  next stream one =>
    cases read
    obtain ⟨sorted, holds⟩ := gives _ _ _ kept.stream one
    exact ⟨⟨sorted, kept.declared⟩, holds⟩
  · cases read

theorem ite {condition : Prop} [Decidable condition] {yes no : UnitReading β}
    (first : condition → UnitGives sort yes result) (second : ¬ condition → UnitGives sort no result) :
    UnitGives sort (if condition then yes else no) result := by
  split
  next holds => exact first holds
  next fails => exact second fails

theorem get {next : UnitState → UnitReading β} (later : ∀ state, UnitGives sort (next state) result) :
    UnitGives sort (MonadState.get >>= next) result :=
  fun state left value kept read => later state state left value kept read

theorem modify {change : UnitState → UnitState} (keeps : ∀ state, state.Holds sort → (change state).Holds sort) :
    UnitGives sort (modify change) fun _ => True := by
  intro state left value kept read
  cases read
  exact ⟨keeps state kept, trivial⟩

theorem note (event : Event) : UnitGives sort (UnitReading.note event) fun _ => True :=
  modify fun _ kept => ⟨kept.stream, kept.declared⟩

end UnitGives

namespace Declaration.Parser

variable {sort : Token → Prop} (ends : ∀ position, sort (.endAt position))

theorem unitGives_register {declaration : Declaration} (named : declaration.WellNamed (NameOf sort))
    (own : declaration.ReadFrom sort) : UnitGives sort (register declaration) fun _ => True := by
  refine .get fun state => ?_
  split
  · exact .throw
  · refine (UnitGives.note _).bind fun _ _ => .modify fun state kept => ⟨kept.stream, fun other member => ?_⟩
    rcases List.mem_append.mp member with known | new
    · exact kept.declared other known
    · rw [List.mem_singleton.mp new]
      exact ⟨named, own⟩

theorem keeps_consume {kind : TokenKind} : Keeps sort (consume kind) := by
  have within (steps : Nat) : Keeps sort (consumeWithin kind steps) := by
    induction steps with
    | zero => exact .throw
    | succ steps ih => exact .test ih (.pure trivial)
  exact .get fun _ => within _

include ends

theorem keeps_qualifiedName {delimiter : TokenKind} : Keeps sort (TokenStream.qualifiedName delimiter) := by
  have further (steps : Nat) (name : String) : Keeps sort (qualifiedNameFrom delimiter steps name) := by
    induction steps generalizing name with
    | zero => exact .throw
    | succ steps ih => exact .test ((keeps_ensure ends).after fun _ => ih _) (.pure trivial)
  exact (keeps_ensure ends).after fun _ => .get fun _ => further _ _

theorem unitGives_declaration : UnitGives sort declaration fun _ => True := by
  refine (UnitGives.onStream (keeps_ensure ends)).bind fun keyword _ => ?_
  refine .ite (fun _ => .throw) fun _ => ?_
  refine (UnitGives.onStream keeps_lastDocs).bind fun docs _ =>
    (UnitGives.onStream (gives_introduced ends _ _)).bind fun name named =>
      (UnitGives.onStream (gives_generics ends)).bind fun parameters given =>
        (UnitGives.note _).bind fun _ _ => ?_
  have remaining (body : Body) (known : body.WellNamed (NameOf sort) ∧ ∀ field ∈ body.fields, TypeOf sort field.type) :
      UnitGives sort (do register ⟨name, parameters, body, (← get).scope, docs⟩) fun _ => True :=
    .get fun _ => unitGives_register
      ⟨named.1, named.2, fun parameter member => (given.1 parameter member).1, given.2, known.1⟩
      ⟨fun parameter member => (given.1 parameter member).2, known.2⟩
  split
  · have body : UnitGives sort (Body.record <$> (fieldList name : UnitReading FieldList))
        (fun body => body.WellNamed (NameOf sort) ∧ ∀ field ∈ body.fields, TypeOf sort field.type) :=
      .map (.onStream (gives_fieldList ends name)) fun _ known => known
    exact body.bind remaining
  · have body : UnitGives sort (Body.union <$> (union name : UnitReading (List Variant)))
        (fun body => body.WellNamed (NameOf sort) ∧ ∀ field ∈ body.fields, TypeOf sort field.type) :=
      .map (.onStream (gives_union ends name)) fun _ known => known
    exact body.bind remaining

theorem unitGives_unit : UnitGives sort unit fun _ => True := by
  have all (steps : Nat) : UnitGives sort (declarations steps) fun _ => True := by
    induction steps with
    | zero => exact .throw
    | succ steps ih =>
      refine (UnitGives.onStream keeps_consume).bind fun _ _ =>
        (UnitGives.onStream keeps_peekedIs).bind fun finished _ => ?_
      split
      · exact .pure trivial
      · refine (UnitGives.onStream (gives_peek ends).keeps).bind fun token _ => ?_
        split
        · exact (unitGives_declaration ends).bind fun _ _ =>
            (UnitGives.onStream keeps_consume).bind fun _ _ => ih
        · exact .throw
  have afterName : UnitGives sort namespaceName fun _ => True := by
    refine (UnitGives.onStream keeps_nextIs).bind fun found _ => ?_
    split
    · refine (UnitGives.onStream (keeps_qualifiedName ends)).bind fun name _ =>
        (UnitGives.modify ?_).bind fun _ _ => .onStream keeps_consume
      exact fun state kept => ⟨kept.stream, kept.declared⟩
    · exact .onStream keeps_consume
  exact afterName.bind fun _ _ => .get fun state => all _

omit ends in
theorem locating_eq_ok {action : UnitReading Unit} {state left : UnitState} {value : Unit}
    (read : locating action state = .ok value left) : action state = .ok value left := by
  unfold locating at read
  split at read
  · change EStateM.bind _ _ _ = _ at read
    unfold EStateM.bind at read
    split at read <;> cases read
  · exact read

end Declaration.Parser

theorem readUnit_holds {text : String} {registry : List Declaration} {state : UnitState}
    {sort : Token → Prop} (own : ∀ token, Lexeme.token token ∈ (Lexeme.ofText text).1 → sort token)
    (ends : ∀ position, sort (.endAt position)) (read : readUnit text registry = (none, state)) :
    ∀ declaration ∈ state.declared, declaration.WellNamed (NameOf sort) ∧ declaration.ReadFrom sort := by
  have start : (UnitState.ofText text registry).Holds sort := ⟨⟨own, .inl rfl⟩, by simp [UnitState.ofText]⟩
  unfold readUnit at read
  split at read
  next value left found =>
    cases read
    exact (Declaration.Parser.unitGives_unit ends _ _ _ start (Declaration.Parser.locating_eq_ok found)).1.declared
  · cases read

theorem readUnit_wellNamed {text : String} {registry : List Declaration} {state : UnitState}
    {sort : Token → Prop} (own : ∀ token, Lexeme.token token ∈ (Lexeme.ofText text).1 → sort token)
    (ends : ∀ position, sort (.endAt position)) (read : readUnit text registry = (none, state)) :
    ∀ declaration ∈ state.declared, declaration.WellNamed (NameOf sort) :=
  fun declaration member => (readUnit_holds own ends read declaration member).1

end CowView
