import CowView.Generation
import CowView.Proofs.Verbatim

/-!
When a unit that was read is generated, and what is reported if it is not. Two passes go over all
declarations: the first one replaces `Self` in every field, the second one looks for names that two
generated classes would share. `mapM_resolve` and `firstClash?_eq_none_iff` are about one pass each.
-/

namespace CowView

namespace View

variable (settings : Settings)

/-! ### Replacing `Self` everywhere -/

def shapeFault (owner : Declaration) (field : Field) (text : String) : Fault :=
  .generation ⟨some owner.name, some field.label⟩ (.unsupportedShape ("Verbatim (" ++ text ++ ")"))

def fieldFault? (owner : Declaration) (field : Field) : Option Fault :=
  field.type.firstVerbatim?.map (shapeFault owner field)

def resolvedField (owner : Declaration) (field : Field) : FieldView :=
  resolveField settings owner field (TypeExpr.substituteSelf owner.signature field.type)

def resolvedBody (owner : Declaration) : ViewBody :=
  match owner.body with
  | .record list => .record (list.fields.map (resolvedField settings owner))
  | .union variants =>
    .union (variants.map fun variant =>
      ⟨variant, variant.fields.fields.map (resolvedField settings owner)⟩)

def resolved (owner : Declaration) : View where
  declaration := owner
  signature := owner.signature
  viewName := settings.viewName owner.name
  body := resolvedBody settings owner
  clauses := addNew [] ((resolvedBody settings owner).fields.flatMap (·.clauses))

def orFault {α : Type} (fault : Option Fault) (result : α) : Except Fault α :=
  match fault with
  | some fault => .error fault
  | none => .ok result

theorem fields_resolvedBody (owner : Declaration) :
    (resolvedBody settings owner).fields = owner.fields.map (resolvedField settings owner) := by
  unfold resolvedBody Declaration.fields Body.fields
  cases owner.body with
  | record list => rfl
  | union variants => simp only [ViewBody.fields, List.flatMap_map, List.map_flatMap]

theorem fieldSource_eq (owner : Declaration) (field : Field) :
    fieldSource owner field =
      orFault (fieldFault? owner field) (TypeExpr.substituteSelf owner.signature field.type) := by
  unfold fieldSource fieldFault?
  rw [TypeExpr.replaceSelf_eq]
  cases field.type.firstVerbatim? <;> rfl

theorem resolveFields_eq (owner : Declaration) (fields : List Field) :
    resolveFields settings owner fields =
      orFault (fields.findSome? (fieldFault? owner)) (fields.map (resolvedField settings owner)) := by
  induction fields with
  | nil => rfl
  | cons field rest ih =>
    rw [resolveFields, fieldSource_eq, ih]
    cases first : fieldFault? owner field with
    | some fault => simp [first, orFault, bind, Except.bind]
    | none =>
      cases later : rest.findSome? (fieldFault? owner) <;>
        simp [first, later, orFault, bind, Except.bind, pure, Except.pure, resolvedField]

theorem resolveVariants_eq (owner : Declaration) (variants : List Variant) :
    resolveVariants settings owner variants =
      orFault ((variants.flatMap (·.fields.fields)).findSome? (fieldFault? owner))
        (variants.map fun variant =>
          ⟨variant, variant.fields.fields.map (resolvedField settings owner)⟩) := by
  induction variants with
  | nil => rfl
  | cons variant rest ih =>
    rw [resolveVariants, resolveFields_eq, ih]
    cases first : variant.fields.fields.findSome? (fieldFault? owner) with
    | some fault => simp [first, orFault, bind, Except.bind, List.findSome?_append]
    | none =>
      cases later : (rest.flatMap (·.fields.fields)).findSome? (fieldFault? owner) <;>
        simp [first, later, orFault, bind, Except.bind, pure, Except.pure, List.findSome?_append]

theorem resolve_eq (owner : Declaration) :
    resolve settings owner =
      orFault (owner.fields.findSome? (fieldFault? owner)) (resolved settings owner) := by
  have body : resolveBody settings owner =
      orFault (owner.fields.findSome? (fieldFault? owner)) (resolvedBody settings owner) := by
    unfold resolveBody Declaration.fields Body.fields resolvedBody
    cases owner.body with
    | record list =>
      simp only [resolveFields_eq]
      cases list.fields.findSome? (fieldFault? owner) <;> rfl
    | union variants =>
      simp only [resolveVariants_eq]
      cases (variants.flatMap (·.fields.fields)).findSome? (fieldFault? owner) <;> rfl
  rw [resolve, body]
  cases owner.fields.findSome? (fieldFault? owner) <;> rfl

/-- The fields of declarations, each with the declaration that it belongs to, in the order of
declarations, variants and fields. -/
def ownedFields (declarations : List Declaration) : List (Declaration × Field) :=
  declarations.flatMap fun owner => owner.fields.map fun field => (owner, field)

def firstFault? (fields : List (Declaration × Field)) : Option Fault :=
  fields.findSome? fun pair => fieldFault? pair.1 pair.2

theorem firstFault?_ownedFields (declarations : List Declaration) :
    firstFault? (ownedFields declarations) =
      declarations.findSome? fun owner => owner.fields.findSome? (fieldFault? owner) := by
  induction declarations with
  | nil => rfl
  | cons owner rest ih =>
    rw [ownedFields, List.flatMap_cons, firstFault?, List.findSome?_append, ← firstFault?,
      ← firstFault?, ← ownedFields, ih, List.findSome?_cons, firstFault?, List.findSome?_map]
    change (owner.fields.findSome? (fieldFault? owner)).or _ = _
    cases owner.fields.findSome? (fieldFault? owner) <;> rfl

theorem mapM_resolve (declarations : List Declaration) :
    declarations.mapM (resolve settings) =
      orFault (firstFault? (ownedFields declarations)) (declarations.map (resolved settings)) := by
  rw [firstFault?_ownedFields]
  induction declarations with
  | nil => rfl
  | cons owner rest ih =>
    rw [List.mapM_cons, resolve_eq, ih]
    cases first : owner.fields.findSome? (fieldFault? owner) with
    | some fault => simp [first, orFault, bind, Except.bind]
    | none =>
      cases later : rest.findSome? (fun owner => owner.fields.findSome? (fieldFault? owner)) <;>
        simp [first, later, orFault, bind, Except.bind, pure, Except.pure]

/-! ### Names that would be shared -/

theorem firstClash?_eq_none_iff (taken : List String) (views : List View) :
    firstClash? taken views = none ↔
      (views.flatMap publicNames).Nodup ∧ ∀ name ∈ views.flatMap publicNames, name ∉ taken := by
  induction views generalizing taken with
  | nil => simp [firstClash?]
  | cons view rest ih =>
    unfold firstClash?
    split
    next repeated => simp [publicNames, repeated]
    next fresh =>
      split
      next repeated =>
        rcases List.mem_cons.mp repeated with same | repeated
        · simp [publicNames, same]
        · simp [publicNames, repeated]
      next distinct =>
        simp only [List.mem_cons, not_or] at distinct
        rw [ih, List.flatMap_cons, List.nodup_append]
        simp only [publicNames, List.nodup_cons, List.mem_cons, List.mem_append]
        grind

theorem firstClash?_append {before : List View} {view : View} {taken : List String}
    (clean : firstClash? taken before = none) (clash : firstClash? taken (before ++ [view]) ≠ none)
    (after : List View) :
    ∃ name ∈ view.publicNames, firstClash? taken (before ++ view :: after) = some (view, name) := by
  induction before generalizing taken with
  | nil =>
    simp only [List.nil_append, firstClash?] at clash ⊢
    split at clash
    next repeated => exact ⟨view.name, by simp [publicNames], by simp [repeated]⟩
    next fresh =>
      split at clash
      next repeated => exact ⟨view.viewName, by simp [publicNames], by simp [fresh, repeated]⟩
      next => exact absurd rfl clash
  | cons first rest ih =>
    simp only [List.cons_append, firstClash?] at clean clash ⊢
    split at clean
    next => cases clean
    next fresh =>
      split at clean
      next => cases clean
      next distinct =>
        simp only [fresh, distinct, if_false] at clash ⊢
        exact ih clean clash

def generatedNames (declarations : List Declaration) : List String :=
  declarations.flatMap fun owner => [owner.name, settings.viewName owner.name]

theorem flatMap_publicNames (declarations : List Declaration) :
    (declarations.map (resolved settings)).flatMap publicNames =
      generatedNames settings declarations := by
  rw [List.flatMap_map]
  rfl

theorem resolveAll_eq (declarations : List Declaration) :
    resolveAll settings declarations =
      match firstFault? (ownedFields declarations) with
      | some fault => .error fault
      | none =>
        match firstClash? [] (declarations.map (resolved settings)) with
        | none => .ok (declarations.map (resolved settings))
        | some (view, name) => .error (.generation ⟨some view.name, none⟩ (.nameTaken name)) := by
  rw [resolveAll, mapM_resolve]
  cases firstFault? (ownedFields declarations) with
  | some fault => rfl
  | none =>
    simp only [orFault, bind, Except.bind]
    cases firstClash? [] (declarations.map (resolved settings)) <;> rfl

/-- The views of an accepted unit are those of its declarations, and no name is offered twice. -/
theorem resolveAll_eq_ok {declarations : List Declaration} {views : List View}
    (accepted : resolveAll settings declarations = .ok views) :
    views = declarations.map (resolved settings) ∧ (views.flatMap publicNames).Nodup := by
  rw [resolveAll_eq] at accepted
  split at accepted
  · cases accepted
  · split at accepted
    next clean =>
      cases accepted
      exact ⟨rfl, ((firstClash?_eq_none_iff [] _).mp clean).1⟩
    · cases accepted

/-- The second pass finds nothing exactly if all generated names differ. -/
theorem firstClash?_resolved (declarations : List Declaration) :
    firstClash? [] (declarations.map (resolved settings)) = none ↔
      (generatedNames settings declarations).Nodup := by
  rw [firstClash?_eq_none_iff, flatMap_publicNames]
  simp

end View

end CowView
