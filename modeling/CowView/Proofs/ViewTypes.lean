import CowView.Declaration
import CowView.Proofs.Soundness
import CowView.Proofs.Substituting
import CowView.Strategy.Requirements

/-!
The types that generation makes are types of the grammar: the signature of a declaration, which stands for `Self`,
the type that a strategy gives to a field of a view, and the two sides of the bound clauses that it requires. Where
the type of the field is read back as it was, the type of the view is.
-/

namespace CowView

namespace TypeExpr

/-! ### Paths of one name -/

theorem walkAll_map_type (arguments : List TypeExpr) :
    Argument.walkAll (arguments.map .type) = walkAll arguments := by
  induction arguments with
  | nil => rfl
  | cons first rest ih => rw [List.map_cons, Argument.walkAll, ih, walkAll, Argument.walk]

section

variable {strict : Prop} {name : String} {arguments : List TypeExpr}

theorem isType_applied (unreserved : name ∉ reserved) : (applied name arguments).isType = true := by
  unfold applied
  split <;> exact decide_eq_true unreserved

theorem isBound_applied : (applied name arguments).isBound = true := by
  unfold applied
  split <;> rfl

theorem wellFormed_applied (isName : (BareToken.name name).IsWord)
    (each : ∀ argument ∈ arguments, argument.isArgument = true ∧ argument.WellFormed strict) :
    (applied name arguments).WellFormed strict := by
  unfold applied
  split
  · exact ⟨isName, trivial, nofun⟩
  · refine ⟨⟨isName, Argument.wellFormedAll_iff.mpr fun argument member => ?_⟩, trivial, nofun⟩
    obtain ⟨expr, known, rfl⟩ := List.mem_map.mp member
    exact each expr known

theorem settled_applied_iff : (applied name arguments).Settled ↔ ∀ argument ∈ arguments, argument.Settled := by
  unfold applied
  split
  next none =>
    rw [List.isEmpty_iff.mp none]
    simp [named, Settled, walk, Segment.walk, Segment.walkAll, TraitParted]
  · have inside : (path (.angle name (arguments.map .type)) []).walk =
        path (.angle name (arguments.map .type)) [] :: walkAll arguments := by
      rw [walk, Segment.walk, walkAll_map_type, Segment.walkAll, List.append_nil]
    unfold Settled
    rw [inside, List.forall_mem_cons, walkAll_eq_flatMap]
    simp only [List.mem_flatMap, forall_exists_index, and_imp, TraitParted, true_and]
    exact ⟨fun all argument member node own => all node argument member own,
      fun all node argument member own => all argument member node own⟩

theorem standsForSelf_applied (isName : (BareToken.name name).IsWord) (unreserved : name ∉ reserved)
    (noMark : name ≠ "mut")
    (each : ∀ argument ∈ arguments, (argument.isArgument = true ∧ argument.WellFormed strict) ∧ argument.Settled) :
    (applied name arguments).StandsForSelf strict where
  isPath := by
    unfold applied
    split <;> rfl
  isType := isType_applied unreserved
  formed := wellFormed_applied isName fun argument member => (each argument member).1
  settled := settled_applied_iff.mpr fun argument member => (each argument member).2
  starts := by
    have start : BareToken.ahead (applied name arguments).words = .name name := by
      unfold applied
      split <;> rfl
    rw [start]
    simpa [BareToken.name] using noMark
  segments := by
    unfold applied
    split <;> exact ⟨rfl, rfl⟩
  bounds := by
    unfold applied
    split <;> exact ⟨rfl, rfl⟩

end

/-! ### The types of fields of views -/

variable {lifetime : Lifetime} {type : TypeExpr}

theorem forms_lifetime {strict : Prop} (isWord : (BareToken.lifetime lifetime).IsWord) :
    (TypeExpr.lifetime lifetime).isArgument = true ∧ (TypeExpr.lifetime lifetime).WellFormed strict :=
  ⟨rfl, isWord⟩

theorem settled_lifetime (lifetime : Lifetime) : (TypeExpr.lifetime lifetime).Settled := by
  simp [Settled, walk, TraitParted]

theorem FormsType.isArgument (forms : type.FormsType) : type.isArgument = true ∧ type.WellFormed False :=
  ⟨isArgument_of_isType forms.1, forms.2⟩

theorem FormsType.applied {name : String} {arguments : List TypeExpr} (isName : BareToken.isName name = true)
    (unreserved : name ∉ reserved)
    (each : ∀ argument ∈ arguments, argument.isArgument = true ∧ argument.WellFormed False) :
    (TypeExpr.applied name arguments).FormsType :=
  ⟨isType_applied unreserved, wellFormed_applied (isWord_of_isName isName) each⟩

theorem FormsType.cow (isWord : (BareToken.lifetime lifetime).IsWord) (forms : type.FormsType) :
    (TypeExpr.cow lifetime type).FormsType := by
  refine FormsType.applied (by decide +kernel) (by decide) ?_
  simp only [List.forall_mem_cons]
  exact ⟨forms_lifetime isWord, forms.isArgument, List.forall_mem_nil _⟩

theorem settled_cow_iff : (TypeExpr.cow lifetime type).Settled ↔ type.Settled := by
  rw [TypeExpr.cow, settled_applied_iff]
  simp [settled_lifetime]

theorem FormsType.associated {trait : Segment} {name : String} (forms : type.FormsType)
    (formed : trait.WellFormed False) (isName : BareToken.isName name = true) :
    (TypeExpr.associated type trait name).FormsType :=
  ⟨rfl, forms, formed, ⟨isWord_of_isName isName, trivial⟩, ⟨by decide, Nat.le_refl 1⟩, nofun, nofun⟩

theorem settled_associated_iff {trait : Segment} {name : String} :
    (TypeExpr.associated type trait name).Settled ↔ type.Settled ∧ ∀ node ∈ trait.walk, node.TraitParted := by
  have own : (TypeExpr.associated type trait name).TraitParted := nofun
  unfold Settled
  rw [TypeExpr.associated] at own ⊢
  rw [walk, List.forall_mem_cons, List.forall_mem_append, List.forall_mem_append]
  simp [own, Segment.walkAll, Segment.walk]

theorem FormsType.target (forms : type.FormsType) : type.target.FormsType :=
  forms.associated (isWord_of_isName (by decide +kernel)) (by decide +kernel)

theorem settled_target_iff : type.target.Settled ↔ type.Settled := by
  rw [TypeExpr.target, settled_associated_iff]
  simp [Segment.walk]

theorem wellFormed_viewTrait (isWord : (BareToken.lifetime lifetime).IsWord) :
    (viewTrait lifetime).WellFormed False :=
  ⟨isWord_of_isName (by decide +kernel), forms_lifetime isWord, trivial⟩

theorem settled_viewTrait (lifetime : Lifetime) : ∀ node ∈ (viewTrait lifetime).walk, node.TraitParted := by
  simp [viewTrait, Segment.walk, Argument.walkAll, Argument.walk, walk, TraitParted]

theorem boxed?_eq_some {content : TypeExpr} (found : type.boxed? = some content) :
    (∀ duration, content ≠ .lifetime duration) ∧ (∀ value, content ≠ .constant value) ∧
      ∃ first rest, type = path first rest ∧ .angle "Box" [.type content] ∈ first :: rest := by
  unfold boxed? at found
  split at found
  next first rest =>
    split at found
    · cases found
    · cases found
    next other noLifetime noConstant last =>
      cases found
      exact ⟨noLifetime, noConstant, first, rest, rfl, List.mem_of_getLast? last⟩
    · cases found
  · cases found

theorem FormsType.unboxed (forms : type.FormsType) : type.unboxed.FormsType := by
  unfold TypeExpr.unboxed
  cases found : type.boxed? with
  | none => exact forms.target
  | some content =>
    obtain ⟨noLifetime, noConstant, first, rest, rfl, member⟩ := boxed?_eq_some found
    have all : Segment.WellFormedAll False (first :: rest) := ⟨forms.2.1, forms.2.2.1⟩
    obtain ⟨-, ⟨isArgument, formed⟩, -⟩ := Segment.wellFormedAll_iff.mp all _ member
    rcases isArgument_cases isArgument with ⟨duration, same⟩ | ⟨value, same⟩ | isType
    · exact absurd same (noLifetime duration)
    · exact absurd same (noConstant value)
    · exact ⟨isType, formed⟩

theorem Settled.unboxed (settled : type.Settled) : type.unboxed.Settled := by
  unfold TypeExpr.unboxed
  cases found : type.boxed? with
  | none => exact settled_target_iff.mpr settled
  | some content =>
    obtain ⟨-, -, first, rest, rfl, member⟩ := boxed?_eq_some found
    intro node own
    have inside (segments : List Segment) (among : .angle "Box" [.type content] ∈ segments) :
        node ∈ Segment.walkAll segments := by
      induction segments with
      | nil => cases among
      | cons segment segments ih =>
        rw [Segment.walkAll, List.mem_append]
        rcases List.mem_cons.mp among with rfl | later
        · left
          simpa [Segment.walk, Argument.walkAll, Argument.walk] using own
        · exact .inr (ih later)
    exact settled node (List.mem_cons_of_mem _ (inside _ member))

end TypeExpr

namespace Strategy

open TypeExpr

variable {strategy : Strategy} {lifetime : Lifetime} {type : TypeExpr}

theorem forms_viewType (isWord : (BareToken.lifetime lifetime).IsWord) (forms : type.FormsType) :
    (strategy.viewType type lifetime).FormsType := by
  cases strategy with
  | regular => exact forms.cow isWord
  | copy => exact forms
  | flatten => exact forms.target.cow isWord
  | unbox => exact forms.unboxed.cow isWord
  | nested => exact forms.associated (wellFormed_viewTrait isWord) (by decide +kernel)

theorem settled_viewType (settled : type.Settled) : (strategy.viewType type lifetime).Settled := by
  cases strategy with
  | regular => exact settled_cow_iff.mpr settled
  | copy => exact settled
  | flatten => exact settled_cow_iff.mpr (settled_target_iff.mpr settled)
  | unbox => exact settled_cow_iff.mpr settled.unboxed
  | nested => exact settled_associated_iff.mpr ⟨settled, settled_viewTrait lifetime⟩

def IsCapability (bound : TypeExpr) : Prop :=
  ∃ name arguments, bound = applied name arguments ∧ BareToken.isName name = true ∧
    ∀ argument ∈ arguments, argument.isArgument = true ∧ argument.WellFormed False

/-- No capability takes in the plus sign behind it. -/
theorem formBounds_capabilities {bounds : List TypeExpr} (some : bounds ≠ [])
    (each : ∀ bound ∈ bounds, IsCapability bound) : FormBounds bounds := by
  refine ⟨fun bound member => ?_, wellFormedAll_iff.mpr fun bound member => ?_, some, fun bound member => ?_⟩
  · obtain ⟨name, arguments, rfl, -⟩ := each bound member
    exact isBound_applied
  · obtain ⟨name, arguments, rfl, isName, formed⟩ := each bound member
    exact wellFormed_applied (isWord_of_isName isName) formed
  · obtain ⟨name, arguments, rfl, -⟩ := each bound (List.dropLast_subset _ member)
    unfold applied
    split <;> rfl

theorem isCapability_named {name : String} (isName : BareToken.isName name = true) : IsCapability (named name) :=
  ⟨name, [], rfl, isName, List.forall_mem_nil _⟩

/-- Both sides of what a strategy requires are of the grammar. -/
theorem forms_requirements (isWord : (BareToken.lifetime lifetime).IsWord) (forms : type.FormsType) :
    ∀ pair ∈ strategy.requirements type lifetime, pair.1.FormsType ∧ FormBounds pair.2 := by
  have clone : IsCapability (named "Clone") := isCapability_named (by decide +kernel)
  have one : FormBounds [named "Clone"] := formBounds_capabilities (by simp) (by simpa using clone)
  cases strategy with
  | regular | copy => simpa [requirements] using ⟨forms, one⟩
  | unbox => simpa [requirements] using ⟨forms.unboxed, one⟩
  | flatten =>
    have borrow : IsCapability (applied "Borrow" [type.target]) :=
      ⟨"Borrow", [type.target], rfl, by decide +kernel, by simpa using forms.target.isArgument⟩
    have deref : FormBounds [named "Deref", applied "Borrow" [type.target]] :=
      formBounds_capabilities (by simp) (by simpa using ⟨isCapability_named (by decide +kernel), borrow⟩)
    have owned : FormBounds [named "ToOwned"] :=
      formBounds_capabilities (by simp) (by simpa using isCapability_named (by decide +kernel))
    simpa [requirements] using ⟨⟨forms, deref⟩, forms.target, owned⟩
  | nested =>
    have view : IsCapability (path (viewTrait lifetime) []) :=
      ⟨"Butcher", [.lifetime lifetime], rfl, by decide +kernel, by simpa using forms_lifetime isWord⟩
    have both : FormBounds [path (viewTrait lifetime) [], named "Clone"] :=
      formBounds_capabilities (by simp) (by simpa using ⟨view, clone⟩)
    simpa [requirements] using ⟨forms, both⟩

end Strategy

/-! ### Signatures -/

def Parameter.IsWord : Parameter → Prop
  | .type name _ => (BareToken.name name).IsWord ∧ name ∉ TypeExpr.reserved
  | .lifetime duration _ => (BareToken.lifetime duration).IsWord
  | .constant _ _ => True

theorem Parameter.forms_argument? {strict : Prop} {parameter : Parameter} (isWord : parameter.IsWord)
    {argument : TypeExpr} (given : parameter.argument? = some argument) :
    (argument.isArgument = true ∧ argument.WellFormed strict) ∧ argument.Settled := by
  cases parameter with
  | type name bounds =>
    cases given
    refine ⟨⟨decide_eq_true isWord.2, isWord.1, trivial, nofun⟩, ?_⟩
    exact TypeExpr.settled_applied_iff.mpr (nofun : ∀ argument ∈ ([] : List TypeExpr), argument.Settled)
  | lifetime duration bounds =>
    cases given
    exact ⟨TypeExpr.forms_lifetime isWord, TypeExpr.settled_lifetime duration⟩
  | constant => cases given

theorem standsForSelf_signature {strict : Prop} {declaration : Declaration}
    (isName : (BareToken.name declaration.name).IsWord) (unreserved : declaration.name ∉ TypeExpr.reserved)
    (noMark : declaration.name ≠ "mut") (words : ∀ parameter ∈ declaration.parameters, parameter.IsWord) :
    declaration.signature.StandsForSelf strict := by
  refine TypeExpr.standsForSelf_applied isName unreserved noMark fun argument member => ?_
  obtain ⟨parameter, known, given⟩ := List.mem_filterMap.mp member
  exact Parameter.forms_argument? (words parameter known) given

end CowView
