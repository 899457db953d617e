import CowView.Proofs.Resolution
import CowView.Proofs.Rewriting

/-!
The bound clauses of a resolved declaration. Whether a field needs the clauses of its strategy is asked of the type
without `Self`; it can be read off the declared type (`View.mentionsAny_source_iff`), since the signature names every
parameter that a type can depend on. With clauses added one after the other, each list holds its clauses once
and in the order in which they come first (`View.resolve_clauses`).
-/

namespace CowView

/-! ### Adding clauses -/

theorem addNew_cons (known : List String) (clause : String) (rest : List String) :
    addNew known (clause :: rest) = addNew (if clause ∈ known then known else known ++ [clause]) rest := rfl

theorem nodup_addNew {known : List String} (distinct : known.Nodup) (more : List String) :
    (addNew known more).Nodup := by
  induction more generalizing known with
  | nil => exact distinct
  | cons clause rest ih =>
    rw [addNew_cons]
    split
    next => exact ih distinct
    next new =>
      apply ih
      rw [List.nodup_append]
      refine ⟨distinct, List.pairwise_singleton _ clause, fun old member other same => ?_⟩
      rw [List.mem_singleton] at same
      rintro rfl
      exact new (same ▸ member)

theorem eraseDups_of_nodup {clauses : List String} (distinct : clauses.Nodup) : clauses.eraseDups = clauses := by
  induction clauses with
  | nil => rfl
  | cons clause rest ih =>
    obtain ⟨fresh, distinct⟩ := List.nodup_cons.mp distinct
    have others : rest.filter (!· == clause) = rest := by
      rw [List.filter_eq_self]
      intro other member
      have differs : other ≠ clause := fun same => fresh (same ▸ member)
      simpa using differs
    rw [List.eraseDups_cons, others, ih distinct]

theorem eraseDups_append_old {known : List String} {clause : String} (old : clause ∈ known) (rest : List String) :
    (known ++ clause :: rest).eraseDups = (known ++ rest).eraseDups := by
  rw [List.eraseDups_append, List.eraseDups_append]
  simp [List.removeAll, old]

/-- Clauses that are added to different ones are kept where they come first. -/
theorem addNew_eq_eraseDups {known : List String} (distinct : known.Nodup) (more : List String) :
    addNew known more = (known ++ more).eraseDups := by
  induction more generalizing known with
  | nil => rw [List.append_nil, eraseDups_of_nodup distinct]; rfl
  | cons clause rest ih =>
    have kept := nodup_addNew distinct [clause]
    rw [addNew_cons]
    change (if clause ∈ known then known else known ++ [clause]).Nodup at kept
    rw [ih kept]
    split
    next old => rw [eraseDups_append_old old]
    next => rw [List.append_assoc, List.singleton_append]

theorem TypeExpr.render_target (type : TypeExpr) : type.target.render = "<" ++ type.render ++ " as Deref>::Target" := by
  simp [target, associated, render, renderQualified, cut, Segment.render, Segment.renderAll, Text.join_cons_cons,
    String.append_assoc]

theorem Strategy.nodup_clauses (strategy : Strategy) (type : TypeExpr) (lifetime : Lifetime) :
    (strategy.clauses type lifetime).Nodup := by
  cases strategy with
  | flatten =>
    change [clause type [.named "Deref", .applied "Borrow" [type.target]], clause type.target [.named "ToOwned"]].Nodup
    rw [List.nodup_cons, List.mem_singleton]
    refine ⟨fun same => ?_, List.pairwise_singleton _ _⟩
    -- The first clause holds the type twice, the second one only once.
    have words : "ToOwned".length ≤ "Deref + ".length := by decide
    have bracket : 0 < ">".length := by decide
    have lengths := congrArg String.length same
    simp [clause, TypeExpr.render_target, TypeExpr.applied, TypeExpr.named, TypeExpr.render, Segment.render,
      Segment.renderAll, Argument.renderAll, Argument.render, Text.join_cons_cons] at lengths
    omega
  | _ => exact List.pairwise_singleton _ _

/-! ### Mentioned names -/

theorem Segment.name_of_outline {segment other : Segment} (outlines : segment.outline = other.outline) :
    segment.name = other.name := by
  cases segment <;> cases other <;> simp_all [outline, name]

namespace TypeExpr

/-- What an expression refers to by its outermost form is written in its outline. -/
theorem refersTo_of_outline {expr other : TypeExpr} (outlines : expr.outline = other.outline) (names : List String) :
    expr.refersTo names = other.refersTo names := by
  cases expr <;> cases other <;> simp only [outline, reduceCtorEq, Outline.lifetime.injEq, Outline.path.injEq,
    Outline.reference.injEq] at outlines
  case path =>
    obtain ⟨first, _⟩ := List.cons_eq_cons.mp outlines
    rw [refersTo, refersTo, Segment.name_of_outline first]
  case lifetime => rw [outlines]
  case reference duration _ _ _ _ _ =>
    rw [← outlines.1]
    cases duration <;> rfl
  all_goals rfl

theorem ne_nil_of_refersTo {expr : TypeExpr} {names : List String} (refers : expr.refersTo names = true) :
    names ≠ [] := by
  rintro rfl
  unfold refersTo at refers
  split at refers <;> simp at refers

theorem parts_applied (name : String) (arguments : List TypeExpr) : (applied name arguments).parts = arguments := by
  unfold applied
  split
  next empty => rw [List.isEmpty_iff.mp empty]; rfl
  next => simp [parts, Segment.parts, List.flatMap_map, Argument.parts]

theorem mentionsAny_iff (expr : TypeExpr) (names : List String) :
    expr.mentionsAny names = true ↔ ∃ node ∈ expr.walk, node.refersTo names = true := List.any_eq_true

/-- The result mentions what was mentioned besides the bare `Self`, and what the replacement mentions if it is used. -/
theorem mentionsAny_substituteSelf_iff (replacement expr : TypeExpr) (names : List String) :
    (substituteSelf replacement expr).mentionsAny names = true ↔
      (∃ node ∈ expr.walk, node ≠ self ∧ node.refersTo names = true) ∨
        (self ∈ expr.walk ∧ replacement.mentionsAny names = true) := by
  rw [mentionsAny_iff, mentionsAny_iff]
  exact exists_node_substituteSelf replacement (·.refersTo names = true)
    (fun outlines refers => refersTo_of_outline outlines names ▸ refers) expr

end TypeExpr

namespace View

open TypeExpr

def IsDependency (parameter : Parameter) : Prop := parameter.isType ∨ parameter.isLifetime

theorem mem_dependencies_iff {declaration : Declaration} {name : String} :
    name ∈ dependencies declaration ↔
      ∃ parameter ∈ declaration.parameters, IsDependency parameter ∧ parameter.name = name := by
  simp only [dependencies, Declaration.typeParameters, Declaration.lifetimeParameters, IsDependency, List.mem_map,
    List.mem_append, List.mem_filter, ← and_or_left, and_assoc]

theorem dependencies_ne_nil_iff {declaration : Declaration} :
    dependencies declaration ≠ [] ↔ ∃ parameter ∈ declaration.parameters, IsDependency parameter := by
  constructor
  · intro depends
    obtain ⟨name, member⟩ := List.exists_mem_of_ne_nil _ depends
    obtain ⟨parameter, own, kind, _⟩ := mem_dependencies_iff.mp member
    exact ⟨parameter, own, kind⟩
  · rintro ⟨parameter, own, kind⟩
    exact List.ne_nil_of_mem (mem_dependencies_iff.mpr ⟨parameter, own, kind, rfl⟩)

theorem argument_refersTo {parameter : Parameter} (kind : IsDependency parameter) {names : List String}
    (known : parameter.name ∈ names) :
    ∃ argument, parameter.argument? = some argument ∧ argument.refersTo names = true := by
  cases parameter with
  | type name => exact ⟨_, rfl, decide_eq_true known⟩
  | lifetime duration => exact ⟨_, rfl, decide_eq_true known⟩
  | constant => simp [IsDependency, Parameter.isType, Parameter.isLifetime] at kind

theorem mentionsAny_signature_iff (declaration : Declaration) :
    declaration.signature.mentionsAny (dependencies declaration) = true ↔
      ∃ parameter ∈ declaration.parameters, IsDependency parameter := by
  rw [mentionsAny_iff]
  constructor
  · rintro ⟨node, _, refers⟩
    exact dependencies_ne_nil_iff.mp (ne_nil_of_refersTo refers)
  · rintro ⟨parameter, own, kind⟩
    obtain ⟨argument, carried, refers⟩ := argument_refersTo kind (mem_dependencies_iff.mpr ⟨parameter, own, kind, rfl⟩)
    refine ⟨argument, mem_walk_of_part ?_ (mem_walk_self argument), refers⟩
    rw [Declaration.signature, signatureOf, parts_applied]
    exact List.mem_filterMap.mpr ⟨parameter, own, carried⟩

def DependsOnParameter (declaration : Declaration) (type : TypeExpr) : Prop :=
  type.mentionsAny (dependencies declaration) = true ∨
    (self ∈ type.walk ∧ ∃ parameter ∈ declaration.parameters, IsDependency parameter)

theorem mentionsAny_source_iff (declaration : Declaration) (type : TypeExpr) :
    (substituteSelf declaration.signature type).mentionsAny (dependencies declaration) = true ↔
      DependsOnParameter declaration type := by
  rw [mentionsAny_substituteSelf_iff, mentionsAny_signature_iff, DependsOnParameter, mentionsAny_iff]
  constructor
  · rintro (⟨node, member, _, refers⟩ | written)
    · exact .inl ⟨node, member, refers⟩
    · exact .inr written
  · rintro (⟨node, member, refers⟩ | written)
    · by_cases isSelf : node = self
      · exact .inr ⟨isSelf ▸ member, dependencies_ne_nil_iff.mp (ne_nil_of_refersTo refers)⟩
      · exact .inl ⟨node, member, isSelf, refers⟩
    · exact .inr written

/-! ### Resolved declarations -/

variable {settings : Settings} {declaration : Declaration}

theorem resolve_eq_ok {view : View} (resolves : resolve settings declaration = .ok view) :
    view = resolved settings declaration ∧
      ∀ field ∈ declaration.fields, field.type.replaceSelf declaration.signature =
        .ok (substituteSelf declaration.signature field.type) := by
  rw [resolve_eq] at resolves
  cases fault : declaration.fields.findSome? (fieldFault? declaration) with
  | some fault' => rw [fault] at resolves; cases resolves
  | none =>
    rw [fault] at resolves
    cases resolves
    refine ⟨rfl, fun field member => ?_⟩
    have clean := List.findSome?_eq_none_iff.mp fault field member
    rw [fieldFault?, Option.map_eq_none_iff] at clean
    rw [replaceSelf_eq, clean]
    rfl

theorem clauses_resolvedField_of_depends {field : Field} (depends : DependsOnParameter declaration field.type) :
    (resolvedField settings declaration field).clauses =
      (field.strategy.clauses (substituteSelf declaration.signature field.type) settings.lifetime ++
        field.clauses).eraseDups := by
  rw [resolvedField, resolveField, if_pos ((mentionsAny_source_iff declaration field.type).mpr depends)]
  exact addNew_eq_eraseDups (Strategy.nodup_clauses _ _ _) field.clauses

theorem clauses_resolvedField_of_not_depends {field : Field} (free : ¬ DependsOnParameter declaration field.type) :
    (resolvedField settings declaration field).clauses = field.clauses.eraseDups := by
  rw [resolvedField, resolveField, if_neg (mt (mentionsAny_source_iff declaration field.type).mp free)]
  exact addNew_eq_eraseDups List.nodup_nil field.clauses

/-- A declaration that resolves keeps its fields in their order. A field has the clauses of its strategy, for its type
without `Self`, exactly if its declared type depends on a parameter, and then those of its annotation; the declaration
has the clauses of its fields. Every list holds each clause once, where it comes first. -/
theorem resolve_clauses {view : View} (resolves : resolve settings declaration = .ok view) :
    view.body.fields.map FieldView.field = declaration.fields ∧
    (∀ fieldView ∈ view.body.fields,
      fieldView.field.type.replaceSelf declaration.signature = .ok fieldView.source ∧
      (DependsOnParameter declaration fieldView.field.type → fieldView.clauses =
        (fieldView.field.strategy.clauses fieldView.source settings.lifetime ++ fieldView.field.clauses).eraseDups) ∧
      (¬ DependsOnParameter declaration fieldView.field.type →
        fieldView.clauses = fieldView.field.clauses.eraseDups)) ∧
    view.clauses = (view.body.fields.flatMap FieldView.clauses).eraseDups ∧
    view.clauses.Nodup ∧
    ∀ fieldView ∈ view.body.fields, fieldView.clauses ⊆ view.clauses := by
  obtain ⟨rfl, replaced⟩ := resolve_eq_ok resolves
  have joined : (resolved settings declaration).clauses =
      ((resolved settings declaration).body.fields.flatMap FieldView.clauses).eraseDups :=
    addNew_eq_eraseDups List.nodup_nil _
  refine ⟨?_, ?_, joined, nodup_addNew List.nodup_nil _, ?_⟩
  · have own : FieldView.field ∘ resolvedField settings declaration = id := rfl
    rw [resolved, fields_resolvedBody, List.map_map, own, List.map_id]
  · intro fieldView member
    rw [resolved, fields_resolvedBody] at member
    obtain ⟨field, declared, rfl⟩ := List.mem_map.mp member
    exact ⟨replaced field declared, clauses_resolvedField_of_depends, clauses_resolvedField_of_not_depends⟩
  · intro fieldView member clause own
    rw [joined, List.mem_eraseDups]
    exact List.mem_flatMap.mpr ⟨fieldView, member, own⟩

def listTail : Field := ⟨some "tail", 1, .applied "Option" [self], .copy, [], ""⟩

def listRecord : Declaration :=
  ⟨"List", [.type "T" []], .record ⟨[⟨some "head", 0, .named "T", .regular, ["T: Debug", "T: Clone"], ""⟩, listTail,
    ⟨some "size", 2, .named "u32", .copy, ["T: Debug"], ""⟩], .named⟩, none, ""⟩

theorem resolve_clauses_list : ∃ view tail, resolve Settings.default listRecord = .ok view ∧
    tail ∈ view.body.fields ∧ DependsOnParameter listRecord listTail.type ∧
    tail.clauses = ["Option<List<T>>: Clone"] ∧ view.clauses = ["T: Clone", "T: Debug", "Option<List<T>>: Clone"] := by
  have resolves : resolve Settings.default listRecord = .ok (resolved Settings.default listRecord) := rfl
  have member : resolvedField Settings.default listRecord listTail ∈
      (resolved Settings.default listRecord).body.fields := .tail _ (.head _)
  have depends : DependsOnParameter listRecord listTail.type :=
    .inr ⟨.tail _ (.head _), .type "T" [], .head _, .inl rfl⟩
  obtain ⟨_, each, joined, _⟩ := resolve_clauses resolves
  refine ⟨_, _, resolves, member, depends, ?_, ?_⟩
  · rw [(each _ member).2.1 depends]
    decide
  · rw [joined]
    decide

end View

end CowView
