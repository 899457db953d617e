import CowView.Proofs.Resolution
import CowView.Proofs.Searching

/-!
Generation from end to end, with the packaged templates. `generate_outcome` says which units are
generated, and to which declaration and field a fault is charged: verbatim text in a field is reported
before any name that is taken twice.
-/

namespace CowView

namespace Generated

open Template

variable {loader : Loader}

/-- Templates that are left alone make what the packaged ones make, and no engine has a say in them. Under another
extension not even the first of them is found. -/
theorem render_of_leavesPackaged (leaves : loader.LeavesPackaged) (engine : Engine) (subject : Subject) :
    render engine loader "module" subject =
      if loader.extension = defaultExtension then .ok subject.packaged
      else .error (absence ("module" ++ loader.extension) (.notFound "module")) := by
  have module := leaves.lookup (show Packaged.module.file = "module" ++ defaultExtension from rfl)
  by_cases usual : loader.extension = defaultExtension
  · have found {template : Packaged} {name : String} (named : template.file = name ++ defaultExtension) :
        isPackaged loader name = true := by
      rw [isPackaged, leaves.lookup named, if_pos usual]
    have macros : isPackaged loader "macros" = true :=
      found (show Packaged.macros.file = "macros" ++ defaultExtension from rfl)
    have included : includesPackaged loader subject.views = true := by
      refine List.all_eq_true.mpr fun view _ => ?_
      rw [macros, Bool.and_true, templateOf]
      cases view.body
      · exact found (show Packaged.record.file = "record" ++ defaultExtension from rfl)
      · exact found (show Packaged.union.file = "union" ++ defaultExtension from rfl)
    rw [render, module, if_pos usual, if_pos usual]
    show (if includesPackaged loader subject.views then _ else _) = _
    rw [if_pos included]
    rfl
  · rw [render, module, if_neg usual, if_neg usual]
    rfl

def packagedLoader : Loader := ⟨[], defaultExtension⟩

theorem leavesPackaged_packagedLoader : packagedLoader.LeavesPackaged := fun _ _ _ _ member => nomatch member

/-- The packaged templates never fail. -/
theorem render_packaged (engine : Engine) (subject : Subject) :
    render engine packagedLoader "module" subject = .ok subject.packaged := by
  have usual : packagedLoader.extension = defaultExtension := rfl
  rw [render_of_leavesPackaged leavesPackaged_packagedLoader, if_pos usual]

end Generated

theorem eq_ok_of_toOption {ε α : Type} {result : Except ε α} {value : α} (same : result.toOption = some value) :
    result = .ok value := by
  cases result with
  | error _ => cases same
  | ok found => exact congrArg Except.ok (Option.some.inj same)

namespace Context

open View

theorem generate_of_parse {settings : Settings} {text : String} {declared : List Declaration}
    (read : ((ofSettings settings).parse text).1 = .ok declared) :
    ∃ registry scope, ((ofSettings settings).generate text).1 =
      match resolveAll settings declared with
      | .ok views => .ok (Generated.Subject.packaged ⟨settings, registry, scope, views⟩)
      | .error fault => .error (.unit fault) := by
  unfold parse at read
  unfold generate
  generalize readUnit text (ofSettings settings).registry = outcome at read ⊢
  obtain ⟨fault, state⟩ := outcome
  cases fault with
  | some fault => cases read
  | none =>
    cases read
    refine ⟨state.registry, state.scope, ?_⟩
    have own : (ofSettings settings).settings = settings := rfl
    have loader : (ofSettings settings).loader = Generated.packagedLoader := rfl
    change (ofSettings settings).render "module" state = _
    rw [render, own, loader]
    cases resolveAll settings state.declared with
    | error fault => rfl
    | ok views =>
      simp only [Generated.render_packaged]
      rfl

def AllTransparent (fields : List (Declaration × Field)) : Prop :=
  ∀ pair ∈ fields, ¬ pair.2.type.HoldsVerbatim

theorem firstFault?_eq_none_iff (fields : List (Declaration × Field)) :
    firstFault? fields = none ↔ AllTransparent fields := by
  simp only [firstFault?, List.findSome?_eq_none_iff, fieldFault?, Option.map_eq_none_iff,
    TypeExpr.firstVerbatim?_eq_none_iff, AllTransparent]

theorem firstFault?_append (owner : Declaration) {before : List (Declaration × Field)}
    (after : List (Declaration × Field)) {field : Field} (clean : AllTransparent before)
    (holds : field.type.HoldsVerbatim) :
    ∃ shape, .verbatim shape ∈ field.type.walk ∧
      firstFault? (before ++ (owner, field) :: after) = some (shapeFault owner field shape) := by
  cases found : field.type.firstVerbatim? with
  | none => exact absurd holds ((TypeExpr.firstVerbatim?_eq_none_iff _).mp found)
  | some shape =>
    refine ⟨shape, TypeExpr.verbatim_mem_walk found, ?_⟩
    rw [firstFault?, List.findSome?_append, ← firstFault?, (firstFault?_eq_none_iff before).mpr clean]
    simp [fieldFault?, found]

/-- A unit that is read is generated exactly if every field can be looked into and all generated names
differ. Otherwise the first field with verbatim text is to blame or, if there is none, the first
declaration that takes a name again. -/
theorem generate_outcome (settings : Settings) (text : String) (declared : List Declaration)
    (read : ((ofSettings settings).parse text).1 = .ok declared) :
    ((∃ source, ((ofSettings settings).generate text).1 = .ok source) ↔
      AllTransparent (ownedFields declared) ∧ (generatedNames settings declared).Nodup) ∧
    (∀ before owner field after, ownedFields declared = before ++ (owner, field) :: after →
      AllTransparent before → field.type.HoldsVerbatim →
      ∃ shape, .verbatim shape ∈ field.type.walk ∧
        ((ofSettings settings).generate text).1 = .error (.unit (.generation
          ⟨some owner.name, some field.label⟩ (.unsupportedShape ("Verbatim (" ++ shape ++ ")"))))) ∧
    (AllTransparent (ownedFields declared) →
      ∀ before owner after, declared = before ++ owner :: after →
      (generatedNames settings before).Nodup → ¬ (generatedNames settings (before ++ [owner])).Nodup →
      ∃ name ∈ [owner.name, settings.viewName owner.name],
        ((ofSettings settings).generate text).1 = .error (.unit (.generation
          ⟨some owner.name, none⟩ (.nameTaken name)))) := by
  obtain ⟨registry, scope, outcome⟩ := generate_of_parse read
  refine ⟨?_, ?_, ?_⟩
  · rw [outcome, resolveAll_eq, ← firstFault?_eq_none_iff, ← firstClash?_resolved]
    cases firstFault? (ownedFields declared) with
    | some fault => simp
    | none => cases firstClash? [] (declared.map (resolved settings)) <;> simp
  · intro before owner field after order clean holds
    obtain ⟨shape, member, found⟩ := firstFault?_append owner after clean holds
    refine ⟨shape, member, ?_⟩
    rw [outcome, resolveAll_eq, order, found]
    rfl
  · intro clean before owner after order fresh clash
    have ordered : declared.map (resolved settings) =
        before.map (resolved settings) ++ resolved settings owner :: after.map (resolved settings) := by
      rw [order, List.map_append, List.map_cons]
    rw [← firstClash?_resolved] at fresh clash
    rw [List.map_append] at clash
    obtain ⟨name, member, blamed⟩ :=
      firstClash?_append fresh clash (after.map (resolved settings))
    refine ⟨name, member, ?_⟩
    rw [outcome, resolveAll_eq, (firstFault?_eq_none_iff _).mpr clean, ordered, blamed]
    rfl

/-- A declaration that has the name of the view of another one. -/
theorem generate_view_taken : ∃ declared,
    ((ofSettings .default).parse "record A(B) record ButcheredA").1 = .ok declared ∧
      ¬ ∃ source,
        ((ofSettings .default).generate "record A(B) record ButcheredA").1 = .ok source := by
  have names : ((ofSettings .default).parse "record A(B) record ButcheredA").1.toOption.map
      (generatedNames .default) =
        some ["A", "ButcheredA", "ButcheredA", "ButcheredButcheredA"] := by decide +kernel
  cases read : ((ofSettings .default).parse "record A(B) record ButcheredA").1 with
  | error fault => simp [read, Except.toOption] at names
  | ok declared =>
    simp only [read, Except.toOption, Option.map_some, Option.some.injEq] at names
    refine ⟨declared, rfl, fun generated => ?_⟩
    have distinct := ((generate_outcome .default _ declared read).1.mp generated).2
    rw [names] at distinct
    revert distinct
    decide

end Context

end CowView
