import CowView.Proofs.Settling
import CowView.TypeExpr.Substitution

/-!
Putting a type in the place of `Self`. The parser gives well-formed expressions only, and they stay well-formed when
a path such as the signature of a declaration takes the place of every bare `Self`
(`TypeExpr.wellFormed_substituteSelf`). Whether an expression is read back as it was does not change either
(`TypeExpr.settled_substituteSelf_iff`): between segments and bounds the path goes on where `Self` does.
-/

namespace CowView

namespace TypeExpr

structure ContinuesAsSelf (expr : TypeExpr) (kind : TokenKind) : Prop where
  type : expr.continuesAt kind = self.continuesAt kind
  bound : expr.boundContinuesAt kind = self.boundContinuesAt kind

/-- What may stand for `Self`: a path that is no keyword of types and does not look like the mark of a mutable
reference. -/
structure StandsForSelf (strict : Prop) (expr : TypeExpr) : Prop where
  isPath : expr.isPath = true
  isType : expr.isType = true
  formed : expr.WellFormed strict
  settled : expr.Settled
  starts : BareToken.ahead expr.words ≠ .name "mut"
  segments : expr.ContinuesAsSelf .doubleColon
  bounds : expr.ContinuesAsSelf .plus

variable (replacement : TypeExpr)

theorem substituteSelfAll_eq_map (exprs : List TypeExpr) :
    substituteSelfAll replacement exprs = exprs.map (substituteSelf replacement) := by
  induction exprs with
  | nil => rfl
  | cons expr rest ih => rw [substituteSelfAll, ih, List.map_cons]

/-- The bare `Self` is replaced, in any other path the segments are looked into. -/
theorem substituteSelf_path (first : Segment) (rest : List Segment) :
    (path first rest = self ∧ substituteSelf replacement (path first rest) = replacement) ∨
      substituteSelf replacement (path first rest) =
        path (Segment.substituteSelf replacement first) (Segment.substituteSelfAll replacement rest) := by
  rw [substituteSelf]
  split
  next isSelf => exact .inl ⟨eq_self_of_isSelf isSelf, rfl⟩
  · exact .inr rfl

theorem substituteSelf_function (inputs : List TypeExpr) (output : Option TypeExpr) :
    substituteSelf replacement (function inputs output) =
      function (substituteSelfAll replacement inputs) (output.map (substituteSelf replacement)) := by
  cases output <;> rfl

end TypeExpr

namespace Segment

variable (replacement : TypeExpr)

theorem substituteSelfAll_eq_map (segments : List Segment) :
    substituteSelfAll replacement segments = segments.map (substituteSelf replacement) := by
  induction segments with
  | nil => rfl
  | cons segment rest ih => rw [substituteSelfAll, ih, List.map_cons]

theorem substituteSelf_call (name : String) (inputs : List TypeExpr) (output : Option TypeExpr) :
    substituteSelf replacement (call name inputs output) =
      call name (TypeExpr.substituteSelfAll replacement inputs) (output.map (TypeExpr.substituteSelf replacement)) := by
  cases output <;> rfl

theorem name_substituteSelf (segment : Segment) : (substituteSelf replacement segment).name = segment.name := by
  cases segment with
  | plain => rfl
  | angle => rfl
  | call name inputs output => cases output <;> rfl

end Segment

theorem Argument.substituteSelfAll_eq_map (replacement : TypeExpr) (arguments : List Argument) :
    substituteSelfAll replacement arguments = arguments.map (substituteSelf replacement) := by
  induction arguments with
  | nil => rfl
  | cons argument rest ih => rw [substituteSelfAll, ih, List.map_cons]

/-! ### What would go on -/

section

variable {replacement : TypeExpr} {kind : TokenKind}

mutual

theorem TypeExpr.continuesAt_substituteSelf (alike : replacement.ContinuesAsSelf kind) : (expr : TypeExpr) →
    (TypeExpr.substituteSelf replacement expr).continuesAt kind = expr.continuesAt kind
  | .path first rest => by
    rcases TypeExpr.substituteSelf_path replacement first rest with ⟨isSelf, same⟩ | same
    · rw [same, isSelf, alike.type]
    · rw [same, TypeExpr.continuesAt, TypeExpr.continuesAt, Segment.lastContinuesAt_substituteSelfAll alike rest
        (Segment.continuesAt_substituteSelf alike first)]
  | .qualified subject position first rest => by
    rw [TypeExpr.substituteSelf, TypeExpr.continuesAt, TypeExpr.continuesAt,
      Segment.lastContinuesAt_substituteSelfAll alike rest (Segment.continuesAt_substituteSelf alike first)]
  | .function _ none => rfl
  | .function _ (some output) => TypeExpr.continuesAt_substituteSelf alike output
  | .reference _ _ element | .pointer _ element => TypeExpr.continuesAt_substituteSelf alike element
  | .implTrait bounds | .traitObject bounds => by
    rw [TypeExpr.substituteSelf, TypeExpr.continuesAt, TypeExpr.continuesAt,
      TypeExpr.lastContinuesAt_substituteSelfAll alike bounds]
  | .lifetime _ | .constant _ | .inferred | .never | .verbatim _ | .array _ _ | .slice _ | .tuple _
  | .group _ => rfl

theorem TypeExpr.lastContinuesAt_substituteSelfAll (alike : replacement.ContinuesAsSelf kind) :
    (bounds : List TypeExpr) → TypeExpr.lastContinuesAt kind (TypeExpr.substituteSelfAll replacement bounds) =
      TypeExpr.lastContinuesAt kind bounds
  | [] => rfl
  | [bound] => TypeExpr.boundContinuesAt_substituteSelf alike bound
  | _ :: second :: rest => TypeExpr.lastContinuesAt_substituteSelfAll alike (second :: rest)

theorem TypeExpr.boundContinuesAt_substituteSelf (alike : replacement.ContinuesAsSelf kind) : (bound : TypeExpr) →
    (TypeExpr.substituteSelf replacement bound).boundContinuesAt kind = bound.boundContinuesAt kind
  | .path first rest => by
    rcases TypeExpr.substituteSelf_path replacement first rest with ⟨isSelf, same⟩ | same
    · rw [same, isSelf, alike.bound]
    · rw [same, TypeExpr.boundContinuesAt, TypeExpr.boundContinuesAt,
        Segment.lastContinuesAt_substituteSelfAll alike rest (Segment.continuesAt_substituteSelf alike first)]
  | .qualified subject position first rest => by
    rw [TypeExpr.substituteSelf, TypeExpr.boundContinuesAt, TypeExpr.boundContinuesAt,
      Segment.lastContinuesAt_substituteSelfAll alike rest (Segment.continuesAt_substituteSelf alike first)]
  | .function _ none | .function _ (some _) => rfl
  | .reference _ _ _ | .pointer _ _ | .implTrait _ | .traitObject _ | .lifetime _ | .constant _ | .inferred
  | .never | .verbatim _ | .array _ _ | .slice _ | .tuple _ | .group _ => rfl

theorem Segment.continuesAt_substituteSelf (alike : replacement.ContinuesAsSelf kind) : (segment : Segment) →
    (Segment.substituteSelf replacement segment).continuesAt kind = segment.continuesAt kind
  | .plain _ | .angle _ _ | .call _ _ none => rfl
  | .call _ _ (some output) => TypeExpr.continuesAt_substituteSelf alike output

theorem Segment.lastContinuesAt_substituteSelfAll (alike : replacement.ContinuesAsSelf kind) :
    (segments : List Segment) → {before after : Bool} → after = before →
      Segment.lastContinuesAt kind after (Segment.substituteSelfAll replacement segments) =
        Segment.lastContinuesAt kind before segments
  | [], _, _, same => same
  | segment :: rest, _, _, _ =>
    Segment.lastContinuesAt_substituteSelfAll alike rest (Segment.continuesAt_substituteSelf alike segment)

end

theorem Segment.parted_substituteSelf_iff (alike : replacement.ContinuesAsSelf .doubleColon) (segments : List Segment) :
    Segment.Parted (segments.map (Segment.substituteSelf replacement)) ↔ Segment.Parted segments := by
  unfold Segment.Parted
  rw [← List.map_dropLast, List.forall_mem_map]
  simp only [Segment.continuesAt_substituteSelf alike]

theorem TypeExpr.parted_substituteSelf_iff (alike : replacement.ContinuesAsSelf .plus) (bounds : List TypeExpr) :
    TypeExpr.Parted (bounds.map (TypeExpr.substituteSelf replacement)) ↔ TypeExpr.Parted bounds := by
  unfold TypeExpr.Parted
  rw [← List.map_dropLast, List.forall_mem_map]
  simp only [TypeExpr.boundContinuesAt_substituteSelf alike]

end

/-! ### Well-formed expressions -/

section

variable {strict : Prop} {replacement : TypeExpr} (stands : replacement.StandsForSelf strict)

include stands

namespace TypeExpr

theorem isPath_substituteSelf (expr : TypeExpr) : (substituteSelf replacement expr).isPath = expr.isPath := by
  cases expr with
  | path first rest =>
    rcases substituteSelf_path replacement first rest with ⟨-, same⟩ | same
    · rw [same, stands.isPath]
      rfl
    · rw [same]
      rfl
  | function inputs output => cases output <;> rfl
  | _ => rfl

theorem isType_substituteSelf : (expr : TypeExpr) → expr.isType = true →
    (substituteSelf replacement expr).isType = true
  | .path first rest, isType => by
    rcases substituteSelf_path replacement first rest with ⟨-, same⟩ | same
    · rw [same, stands.isType]
    · rw [same, TypeExpr.isType, Segment.name_substituteSelf]
      exact isType
  | .group element, isType => isType_substituteSelf element isType
  | .function _ none, _ | .function _ (some _), _ => rfl
  | .inferred, _ | .never, _ | .verbatim _, _ | .qualified _ _ _ _, _ | .array _ _, _ | .slice _, _ | .tuple _, _
  | .reference _ _ _, _ | .pointer _ _, _ | .implTrait _, _ | .traitObject _, _ => rfl

theorem isBound_substituteSelf (expr : TypeExpr) (isBound : expr.isBound = true) :
    (substituteSelf replacement expr).isBound = true := by
  cases expr with
  | lifetime => rfl
  | group element => exact (isPath_substituteSelf stands element).trans isBound
  | path first rest =>
    have isPath := isPath_substituteSelf stands (path first rest)
    revert isPath
    generalize substituteSelf replacement (path first rest) = after
    cases after <;> first | exact fun _ => rfl | exact fun other => by cases other
  | qualified => rfl
  | _ => cases isBound

theorem isArgument_substituteSelf (expr : TypeExpr) (isArgument : expr.isArgument = true) :
    (substituteSelf replacement expr).isArgument = true := by
  cases expr with
  | lifetime => rfl
  | constant => rfl
  | _ =>
    have isType := isType_substituteSelf stands _ isArgument
    revert isType
    generalize substituteSelf replacement _ = after
    cases after <;> first | exact fun _ => rfl | exact fun same => same

/-- The first token of a reference is not taken for its mark of being mutable. -/
theorem ahead_words_substituteSelf (expr : TypeExpr) (other : BareToken.ahead expr.words ≠ .name "mut") :
    BareToken.ahead (substituteSelf replacement expr).words ≠ .name "mut" := by
  cases expr with
  | path first rest =>
    rcases substituteSelf_path replacement first rest with ⟨-, same⟩ | same
    · rw [same]
      exact stands.starts
    · obtain ⟨more, shown⟩ := first.exists_words
      obtain ⟨others, shown'⟩ := (Segment.substituteSelf replacement first).exists_words
      rw [words_path, shown] at other
      rw [same, words_path, shown', Segment.name_substituteSelf]
      exact other
  | function inputs output =>
    rw [substituteSelf_function, words]
    exact other
  | tuple elements =>
    match elements with
    | [] | [_] | _ :: _ :: _ => exact other
  | pointer isMutable element => exact other
  | _ => exact other

theorem isType_substituteSelfAll {exprs : List TypeExpr} (isType : ∀ expr ∈ exprs, expr.isType = true) :
    ∀ expr ∈ substituteSelfAll replacement exprs, expr.isType = true := by
  rw [substituteSelfAll_eq_map, List.forall_mem_map]
  exact fun expr member => isType_substituteSelf stands expr (isType expr member)

theorem isBound_substituteSelfAll {exprs : List TypeExpr} (isBound : ∀ expr ∈ exprs, expr.isBound = true) :
    ∀ expr ∈ substituteSelfAll replacement exprs, expr.isBound = true := by
  rw [substituteSelfAll_eq_map, List.forall_mem_map]
  exact fun expr member => isBound_substituteSelf stands expr (isBound expr member)

/-- Bounds stay apart, and there are as many of them. -/
theorem parted_substituteSelfAll {bounds : List TypeExpr} (some : bounds ≠ []) (parted : Parted bounds) :
    substituteSelfAll replacement bounds ≠ [] ∧ Parted (substituteSelfAll replacement bounds) := by
  rw [substituteSelfAll_eq_map, parted_substituteSelf_iff stands.bounds]
  exact ⟨by simpa using some, parted⟩

end TypeExpr

end

section

variable {strict : Prop} {replacement : TypeExpr}

mutual

theorem TypeExpr.wellFormed_substituteSelf (stands : replacement.StandsForSelf strict) : (expr : TypeExpr) → expr.WellFormed strict →
    (TypeExpr.substituteSelf replacement expr).WellFormed strict
  | .lifetime _, formed | .constant _, formed | .inferred, formed | .never, formed
  | .verbatim _, formed => formed
  | .path first rest, formed => by
    rcases TypeExpr.substituteSelf_path replacement first rest with ⟨-, same⟩ | same
    · rw [same]
      exact stands.formed
    · rw [same]
      refine ⟨Segment.wellFormed_substituteSelf stands first formed.1, Segment.wellFormedAll_substituteSelf stands rest formed.2.1, ?_⟩
      rw [Segment.substituteSelfAll_eq_map, ← List.map_cons, Segment.parted_substituteSelf_iff stands.segments]
      exact formed.2.2
  | .qualified subject position first rest, formed => by
    obtain ⟨⟨isType, own⟩, head, tail, ⟨low, high⟩, remaining, trait⟩ := formed
    refine ⟨⟨TypeExpr.isType_substituteSelf stands subject isType, TypeExpr.wellFormed_substituteSelf stands subject own⟩,
      Segment.wellFormed_substituteSelf stands first head, Segment.wellFormedAll_substituteSelf stands rest tail, ⟨low, ?_⟩, ?_, ?_⟩
    · rwa [Segment.substituteSelfAll_eq_map, List.length_map]
    · rw [Segment.substituteSelfAll_eq_map, ← List.map_cons, ← List.map_drop,
        Segment.parted_substituteSelf_iff stands.segments]
      exact remaining
    · rw [Segment.substituteSelfAll_eq_map, ← List.map_cons, ← List.map_take,
        Segment.parted_substituteSelf_iff stands.segments]
      exact trait
  | .array element _, formed =>
    ⟨⟨TypeExpr.isType_substituteSelf stands element formed.1.1, TypeExpr.wellFormed_substituteSelf stands element formed.1.2⟩, formed.2⟩
  | .slice element, formed | .pointer _ element, formed =>
    ⟨TypeExpr.isType_substituteSelf stands element formed.1, TypeExpr.wellFormed_substituteSelf stands element formed.2⟩
  | .group element, formed => TypeExpr.wellFormed_substituteSelf stands element formed
  | .tuple elements, formed =>
    ⟨TypeExpr.isType_substituteSelfAll stands formed.1, TypeExpr.wellFormedAll_substituteSelf stands elements formed.2⟩
  | .reference _ _ element, formed =>
    ⟨formed.1, ⟨TypeExpr.isType_substituteSelf stands element formed.2.1.1, TypeExpr.wellFormed_substituteSelf stands element formed.2.1.2⟩,
      fun plain => TypeExpr.ahead_words_substituteSelf stands element (formed.2.2 plain)⟩
  | .function inputs none, formed =>
    ⟨⟨TypeExpr.isType_substituteSelfAll stands formed.1.1, TypeExpr.wellFormedAll_substituteSelf stands inputs formed.1.2⟩,
      nofun, trivial⟩
  | .function inputs (some output), formed => by
    refine ⟨⟨TypeExpr.isType_substituteSelfAll stands formed.1.1,
      TypeExpr.wellFormedAll_substituteSelf stands inputs formed.1.2⟩, fun result member => ?_,
      TypeExpr.wellFormed_substituteSelf stands output formed.2.2⟩
    cases member
    exact TypeExpr.isType_substituteSelf stands output (formed.2.1 output rfl)
  | .implTrait bounds, formed | .traitObject bounds, formed =>
    ⟨TypeExpr.isBound_substituteSelfAll stands formed.1, TypeExpr.wellFormedAll_substituteSelf stands bounds formed.2.1,
      TypeExpr.parted_substituteSelfAll stands formed.2.2.1 formed.2.2.2⟩

theorem TypeExpr.wellFormedAll_substituteSelf (stands : replacement.StandsForSelf strict) : (exprs : List TypeExpr) → TypeExpr.WellFormedAll strict exprs →
    TypeExpr.WellFormedAll strict (TypeExpr.substituteSelfAll replacement exprs)
  | [], _ => trivial
  | expr :: rest, formed =>
    ⟨TypeExpr.wellFormed_substituteSelf stands expr formed.1, TypeExpr.wellFormedAll_substituteSelf stands rest formed.2⟩

theorem Segment.wellFormed_substituteSelf (stands : replacement.StandsForSelf strict) : (segment : Segment) → segment.WellFormed strict →
    (Segment.substituteSelf replacement segment).WellFormed strict
  | .plain _, formed => formed
  | .angle _ arguments, formed => ⟨formed.1, Argument.wellFormedAll_substituteSelf stands arguments formed.2⟩
  | .call _ inputs none, formed =>
    ⟨formed.1, ⟨TypeExpr.isType_substituteSelfAll stands formed.2.1.1,
      TypeExpr.wellFormedAll_substituteSelf stands inputs formed.2.1.2⟩, nofun, trivial⟩
  | .call _ inputs (some output), formed => by
    refine ⟨formed.1, ⟨TypeExpr.isType_substituteSelfAll stands formed.2.1.1,
      TypeExpr.wellFormedAll_substituteSelf stands inputs formed.2.1.2⟩, fun result member => ?_,
      TypeExpr.wellFormed_substituteSelf stands output formed.2.2.2⟩
    cases member
    exact TypeExpr.isType_substituteSelf stands output (formed.2.2.1 output rfl)

theorem Segment.wellFormedAll_substituteSelf (stands : replacement.StandsForSelf strict) : (segments : List Segment) → Segment.WellFormedAll strict segments →
    Segment.WellFormedAll strict (Segment.substituteSelfAll replacement segments)
  | [], _ => trivial
  | segment :: rest, formed =>
    ⟨Segment.wellFormed_substituteSelf stands segment formed.1, Segment.wellFormedAll_substituteSelf stands rest formed.2⟩

theorem Argument.wellFormed_substituteSelf (stands : replacement.StandsForSelf strict) : (argument : Argument) → argument.WellFormed strict →
    (Argument.substituteSelf replacement argument).WellFormed strict
  | .type expr, formed =>
    ⟨TypeExpr.isArgument_substituteSelf stands expr formed.1, TypeExpr.wellFormed_substituteSelf stands expr formed.2⟩
  | .binding _ value, formed =>
    ⟨formed.1, TypeExpr.isType_substituteSelf stands value formed.2.1,
      TypeExpr.wellFormed_substituteSelf stands value formed.2.2⟩
  | .constraint _ bounds, formed =>
    ⟨formed.1, TypeExpr.isBound_substituteSelfAll stands formed.2.1,
      TypeExpr.wellFormedAll_substituteSelf stands bounds formed.2.2.1,
      TypeExpr.parted_substituteSelfAll stands formed.2.2.2.1 formed.2.2.2.2⟩

theorem Argument.wellFormedAll_substituteSelf (stands : replacement.StandsForSelf strict) : (arguments : List Argument) →
    Argument.WellFormedAll strict arguments →
      Argument.WellFormedAll strict (Argument.substituteSelfAll replacement arguments)
  | [], _ => trivial
  | argument :: rest, formed =>
    ⟨Argument.wellFormed_substituteSelf stands argument formed.1, Argument.wellFormedAll_substituteSelf stands rest formed.2⟩

end

/-! ### Settled expressions -/

theorem TypeExpr.forall_node_iff {node other : TypeExpr} {nodes others : List TypeExpr}
    (own : node.TraitParted ↔ other.TraitParted)
    (rest : (∀ inner ∈ nodes, inner.TraitParted) ↔ ∀ inner ∈ others, inner.TraitParted) :
    (∀ inner ∈ node :: nodes, inner.TraitParted) ↔ ∀ inner ∈ other :: others, inner.TraitParted := by
  rw [List.forall_mem_cons, List.forall_mem_cons, own, rest]

mutual

/-- Exactly the settled expressions are settled after the substitution. -/
theorem TypeExpr.settled_substituteSelf_iff (stands : replacement.StandsForSelf strict) : (expr : TypeExpr) →
    ((∀ node ∈ (TypeExpr.substituteSelf replacement expr).walk, node.TraitParted) ↔
      ∀ node ∈ expr.walk, node.TraitParted)
  | .lifetime _ | .constant _ | .inferred | .never | .verbatim _ => Iff.rfl
  | .path first rest => by
    rcases TypeExpr.substituteSelf_path replacement first rest with ⟨isSelf, same⟩ | same
    · rw [same, isSelf]
      refine iff_of_true stands.settled ?_
      simp [TypeExpr.self, TypeExpr.named, TypeExpr.walk, Segment.walk, Segment.walkAll, TypeExpr.TraitParted]
    · rw [same]
      refine TypeExpr.forall_node_iff Iff.rfl ?_
      simp only [List.forall_mem_append, Segment.settled_substituteSelf_iff stands first,
        Segment.settledAll_substituteSelf_iff stands rest]
  | .qualified subject position first rest => by
    have trait : (TypeExpr.substituteSelf replacement (.qualified subject position first rest)).TraitParted ↔
        (TypeExpr.qualified subject position first rest).TraitParted := by
      rw [TypeExpr.substituteSelf, TypeExpr.TraitParted, TypeExpr.TraitParted, Segment.substituteSelfAll_eq_map,
        ← List.map_cons, ← List.map_take, Segment.parted_substituteSelf_iff stands.segments]
    refine TypeExpr.forall_node_iff trait ?_
    simp only [List.forall_mem_append, TypeExpr.settled_substituteSelf_iff stands subject,
      Segment.settled_substituteSelf_iff stands first, Segment.settledAll_substituteSelf_iff stands rest]
  | .array element _ | .slice element | .group element | .reference _ _ element | .pointer _ element =>
    TypeExpr.forall_node_iff Iff.rfl (TypeExpr.settled_substituteSelf_iff stands element)
  | .tuple elements | .implTrait elements | .traitObject elements =>
    TypeExpr.forall_node_iff Iff.rfl (TypeExpr.settledAll_substituteSelf_iff stands elements)
  | .function inputs none => TypeExpr.forall_node_iff Iff.rfl (TypeExpr.settledAll_substituteSelf_iff stands inputs)
  | .function inputs (some output) => by
    refine TypeExpr.forall_node_iff Iff.rfl ?_
    simp only [List.forall_mem_append, TypeExpr.settledAll_substituteSelf_iff stands inputs,
      TypeExpr.settled_substituteSelf_iff stands output]

theorem TypeExpr.settledAll_substituteSelf_iff (stands : replacement.StandsForSelf strict) : (exprs : List TypeExpr) →
    ((∀ node ∈ TypeExpr.walkAll (TypeExpr.substituteSelfAll replacement exprs), node.TraitParted) ↔
      ∀ node ∈ TypeExpr.walkAll exprs, node.TraitParted)
  | [] => Iff.rfl
  | expr :: rest => by
    simp only [TypeExpr.substituteSelfAll, TypeExpr.walkAll, List.forall_mem_append,
      TypeExpr.settled_substituteSelf_iff stands expr, TypeExpr.settledAll_substituteSelf_iff stands rest]

theorem Segment.settled_substituteSelf_iff (stands : replacement.StandsForSelf strict) : (segment : Segment) →
    ((∀ node ∈ (Segment.substituteSelf replacement segment).walk, node.TraitParted) ↔
      ∀ node ∈ segment.walk, node.TraitParted)
  | .plain _ => Iff.rfl
  | .angle _ arguments => Argument.settledAll_substituteSelf_iff stands arguments
  | .call _ inputs none => TypeExpr.settledAll_substituteSelf_iff stands inputs
  | .call _ inputs (some output) => by
    simp only [Segment.substituteSelf, Segment.walk, List.forall_mem_append,
      TypeExpr.settledAll_substituteSelf_iff stands inputs, TypeExpr.settled_substituteSelf_iff stands output]

theorem Segment.settledAll_substituteSelf_iff (stands : replacement.StandsForSelf strict) : (segments : List Segment) →
    ((∀ node ∈ Segment.walkAll (Segment.substituteSelfAll replacement segments), node.TraitParted) ↔
      ∀ node ∈ Segment.walkAll segments, node.TraitParted)
  | [] => Iff.rfl
  | segment :: rest => by
    simp only [Segment.substituteSelfAll, Segment.walkAll, List.forall_mem_append,
      Segment.settled_substituteSelf_iff stands segment, Segment.settledAll_substituteSelf_iff stands rest]

theorem Argument.settled_substituteSelf_iff (stands : replacement.StandsForSelf strict) : (argument : Argument) →
    ((∀ node ∈ (Argument.substituteSelf replacement argument).walk, node.TraitParted) ↔
      ∀ node ∈ argument.walk, node.TraitParted)
  | .type expr | .binding _ expr => TypeExpr.settled_substituteSelf_iff stands expr
  | .constraint _ bounds => TypeExpr.settledAll_substituteSelf_iff stands bounds

theorem Argument.settledAll_substituteSelf_iff (stands : replacement.StandsForSelf strict) : (arguments : List Argument) →
    ((∀ node ∈ Argument.walkAll (Argument.substituteSelfAll replacement arguments), node.TraitParted) ↔
      ∀ node ∈ Argument.walkAll arguments, node.TraitParted)
  | [] => Iff.rfl
  | argument :: rest => by
    simp only [Argument.substituteSelfAll, Argument.walkAll, List.forall_mem_append,
      Argument.settled_substituteSelf_iff stands argument, Argument.settledAll_substituteSelf_iff stands rest]

end

end

end CowView
