import CowView.Proofs.Outlines
import CowView.Proofs.Substituting
import CowView.Proofs.Verbatim

/-!
What replacing `Self` does. It fails on verbatim text alone, and otherwise every node of the walk but the bare
`Self` keeps its outline and its place (`TypeExpr.replaceSelf_outlines`). Any other expression is substituted
part by part, so what is known of all parts settles an expression, and the laws of a substitution
(`TypeExpr.replaceSelf_composes`) are inductions over parts.
-/

namespace CowView

variable (replacement : TypeExpr)

/-! ### One form -/

theorem Argument.outline_substituteSelf (argument : Argument) :
    (substituteSelf replacement argument).outline = argument.outline := by
  cases argument with
  | type | binding => rfl
  | constraint name bounds => rw [substituteSelf, TypeExpr.substituteSelfAll_eq_map, outline, outline, List.length_map]

theorem Argument.parts_substituteSelf (argument : Argument) :
    (substituteSelf replacement argument).parts = argument.parts.map (TypeExpr.substituteSelf replacement) := by
  cases argument with
  | type | binding => rfl
  | constraint name bounds => exact TypeExpr.substituteSelfAll_eq_map replacement bounds

theorem Segment.outline_substituteSelf (segment : Segment) :
    (substituteSelf replacement segment).outline = segment.outline := by
  cases segment with
  | plain name => rfl
  | angle name arguments =>
    simp only [substituteSelf, outline, Argument.substituteSelfAll_eq_map, List.map_map, Function.comp_def,
      Argument.outline_substituteSelf]
  | call name inputs output =>
    rw [substituteSelf_call, TypeExpr.substituteSelfAll_eq_map, outline, outline, List.length_map, Option.isSome_map]

theorem Segment.parts_substituteSelf (segment : Segment) :
    (substituteSelf replacement segment).parts = segment.parts.map (TypeExpr.substituteSelf replacement) := by
  cases segment with
  | plain name => rfl
  | angle name arguments =>
    simp only [substituteSelf, parts, Argument.substituteSelfAll_eq_map, List.flatMap_map, List.map_flatMap,
      Argument.parts_substituteSelf]
  | call name inputs output =>
    rw [substituteSelf_call, TypeExpr.substituteSelfAll_eq_map, parts, parts, List.map_append, Option.toList_map]

namespace TypeExpr

theorem substituteSelf_self : substituteSelf replacement self = replacement := rfl

theorem substituteSelf_path_of_ne {first : Segment} {rest : List Segment} (other : path first rest ≠ self) :
    substituteSelf replacement (path first rest) =
      path (Segment.substituteSelf replacement first) (Segment.substituteSelfAll replacement rest) := by
  rcases substituteSelf_path replacement first rest with ⟨isSelf, _⟩ | same
  · exact absurd isSelf other
  · exact same

/-- Besides the bare `Self` every expression keeps its outline. -/
theorem outline_substituteSelf {expr : TypeExpr} (other : expr ≠ self) :
    (substituteSelf replacement expr).outline = expr.outline := by
  have segments (all : List Segment) : (all.map (Segment.substituteSelf replacement)).map Segment.outline =
      all.map Segment.outline := by
    simp only [List.map_map, Function.comp_def, Segment.outline_substituteSelf]
  cases expr with
  | path first rest =>
    rw [substituteSelf_path_of_ne replacement other, Segment.substituteSelfAll_eq_map]
    exact congrArg Outline.path (segments (first :: rest))
  | qualified subject position first rest =>
    rw [substituteSelf, Segment.substituteSelfAll_eq_map]
    exact congrArg (Outline.qualified position) (segments (first :: rest))
  | function inputs output =>
    rw [substituteSelf_function, substituteSelfAll_eq_map, outline, outline, List.length_map, Option.isSome_map]
  | tuple exprs | implTrait exprs | traitObject exprs =>
    rw [substituteSelf, substituteSelfAll_eq_map, outline, outline, List.length_map]
  | _ => rfl

/-- Besides in the bare `Self` the substitution is that of the parts. -/
theorem parts_substituteSelf {expr : TypeExpr} (other : expr ≠ self) :
    (substituteSelf replacement expr).parts = expr.parts.map (substituteSelf replacement) := by
  have segments (all : List Segment) : (all.map (Segment.substituteSelf replacement)).flatMap Segment.parts =
      (all.flatMap Segment.parts).map (substituteSelf replacement) := by
    simp only [List.flatMap_map, List.map_flatMap, Segment.parts_substituteSelf]
  cases expr with
  | path first rest =>
    rw [substituteSelf_path_of_ne replacement other, Segment.substituteSelfAll_eq_map]
    exact segments (first :: rest)
  | qualified subject position first rest =>
    rw [substituteSelf, Segment.substituteSelfAll_eq_map]
    exact congrArg (substituteSelf replacement subject :: ·) (segments (first :: rest))
  | function inputs output =>
    rw [substituteSelf_function, substituteSelfAll_eq_map, parts, parts, List.map_append, Option.toList_map]
  | tuple exprs | implTrait exprs | traitObject exprs =>
    rw [substituteSelf, substituteSelfAll_eq_map, parts, parts]
  | _ => rfl

theorem parts_self : self.parts = [] := rfl

theorem isSelf_iff {expr : TypeExpr} : expr.isSelf = true ↔ expr = self := by
  constructor
  · exact eq_self_of_isSelf
  · rintro rfl
    rfl

/-! ### The walk -/

def outlinesAfter (node : TypeExpr) : List Outline :=
  if node.isSelf then replacement.walk.map outline else [node.outline]

theorem outlinesAfter_self : outlinesAfter replacement self = replacement.walk.map outline := rfl

theorem outlinesAfter_of_ne {node : TypeExpr} (other : node ≠ self) :
    outlinesAfter replacement node = [node.outline] := by
  rw [outlinesAfter, if_neg (mt isSelf_iff.mp other)]

theorem outlines_substituteSelf (expr : TypeExpr) :
    (substituteSelf replacement expr).walk.map outline = expr.walk.flatMap (outlinesAfter replacement) := by
  induction expr using parts_induction with
  | step expr ih =>
    by_cases isSelf : expr = self
    · rw [isSelf, substituteSelf_self, walk_eq self, parts_self, List.flatMap_cons, outlinesAfter_self]
      simp [walkAll]
    · have inner : (expr.parts.map (substituteSelf replacement)).flatMap (fun part => part.walk.map outline) =
          expr.parts.flatMap fun part => part.walk.flatMap (outlinesAfter replacement) := by
        rw [List.flatMap_map, List.flatMap_def, List.flatMap_def, List.map_congr_left ih]
      calc (substituteSelf replacement expr).walk.map outline
        _ = expr.outline ::
              (expr.parts.map (substituteSelf replacement)).flatMap fun part => part.walk.map outline := by
          rw [walk_eq, List.map_cons, outline_substituteSelf replacement isSelf,
            parts_substituteSelf replacement isSelf, walkAll_eq_flatMap, List.map_flatMap]
        _ = expr.walk.flatMap (outlinesAfter replacement) := by
          rw [inner, walk_eq expr, List.flatMap_cons, outlinesAfter_of_ne replacement isSelf, walkAll_eq_flatMap,
            List.flatMap_assoc, List.singleton_append]

/-- What can be said of a node by its outline holds of a node of the result just if it held of one before, or holds
of one that comes with the replacement. -/
theorem exists_node_substituteSelf (property : TypeExpr → Prop)
    (outlined : ∀ {node other}, node.outline = other.outline → property node → property other) (expr : TypeExpr) :
    (∃ node ∈ (substituteSelf replacement expr).walk, property node) ↔
      (∃ node ∈ expr.walk, node ≠ self ∧ property node) ∨
        (self ∈ expr.walk ∧ ∃ node ∈ replacement.walk, property node) := by
  constructor
  · rintro ⟨node, member, holds⟩
    have left : node.outline ∈ (substituteSelf replacement expr).walk.map outline := List.mem_map_of_mem member
    rw [outlines_substituteSelf] at left
    obtain ⟨before, member, left⟩ := List.mem_flatMap.mp left
    by_cases isSelf : before = self
    · rw [isSelf, outlinesAfter_self] at left
      obtain ⟨brought, found, same⟩ := List.mem_map.mp left
      exact .inr ⟨isSelf ▸ member, brought, found, outlined same.symm holds⟩
    · rw [outlinesAfter_of_ne replacement isSelf, List.mem_singleton] at left
      exact .inl ⟨before, member, isSelf, outlined left holds⟩
  · have kept {before node : TypeExpr} (member : before ∈ expr.walk)
        (left : node.outline ∈ outlinesAfter replacement before) (holds : property node) :
        ∃ node ∈ (substituteSelf replacement expr).walk, property node := by
      have after := List.mem_flatMap.mpr ⟨before, member, left⟩
      rw [← outlines_substituteSelf] at after
      obtain ⟨other, found, same⟩ := List.mem_map.mp after
      exact ⟨other, found, outlined same.symm holds⟩
    rintro (⟨node, member, other, holds⟩ | ⟨member, node, found, holds⟩)
    · exact kept member (by rw [outlinesAfter_of_ne replacement other, List.mem_singleton]) holds
    · exact kept member (by rw [outlinesAfter_self]; exact List.mem_map_of_mem found) holds

theorem leaf_mem_substituteSelf {leaf : TypeExpr} (bare : leaf.parts = []) (expr : TypeExpr) :
    leaf ∈ (substituteSelf replacement expr).walk ↔
      (leaf ∈ expr.walk ∧ leaf ≠ self) ∨ (self ∈ expr.walk ∧ leaf ∈ replacement.walk) := by
  have same {node other : TypeExpr} (outlines : node.outline = other.outline) (isLeaf : node = leaf) : other = leaf :=
    (eq_leaf_iff bare).mpr (outlines.symm.trans (congrArg outline isLeaf))
  have nodes := exists_node_substituteSelf replacement (· = leaf) same expr
  simpa only [← and_assoc, exists_eq_right] using nodes

/-! ### When it fails -/

theorem replaceSelf_of_clean {expr : TypeExpr} (clean : ¬ expr.HoldsVerbatim) :
    expr.replaceSelf replacement = .ok (substituteSelf replacement expr) := by
  rw [replaceSelf_eq, (firstVerbatim?_eq_none_iff expr).mpr clean]
  rfl

theorem replaceSelf_of_verbatim {expr : TypeExpr} (held : expr.HoldsVerbatim) :
    ∃ shape, expr.replaceSelf replacement = .error (.unsupportedShape shape) := by
  cases found : expr.firstVerbatim? with
  | none => exact absurd held ((firstVerbatim?_eq_none_iff expr).mp found)
  | some text =>
    rw [replaceSelf_eq, found]
    exact ⟨_, rfl⟩

/-- The replacement fails exactly on verbatim text. Otherwise the walk through the result has the walk through the
replacement for every bare `Self`, and every other node in its place with its outline; a bare `Self` is left only
if the replacement brings one. -/
theorem replaceSelf_outlines (expr : TypeExpr) :
    ((∃ shape, expr.replaceSelf replacement = .error (.unsupportedShape shape)) ↔ expr.HoldsVerbatim) ∧
    (¬ expr.HoldsVerbatim → ∃ result, expr.replaceSelf replacement = .ok result ∧
      result.walk.map outline = expr.walk.flatMap (outlinesAfter replacement) ∧
      (self ∈ result.walk → self ∈ replacement.walk)) := by
  refine ⟨⟨?_, replaceSelf_of_verbatim replacement⟩, fun clean => ⟨_, replaceSelf_of_clean replacement clean, ?_, ?_⟩⟩
  · rintro ⟨shape, fails⟩
    by_cases held : expr.HoldsVerbatim
    · exact held
    · rw [replaceSelf_of_clean replacement held] at fails
      cases fails
  · exact outlines_substituteSelf replacement expr
  · intro left
    rcases (leaf_mem_substituteSelf replacement parts_self expr).mp left with ⟨_, other⟩ | ⟨_, brought⟩
    · exact absurd rfl other
    · exact brought

/-- With the list of `T` for `Self`, the option of a function from `Self` becomes that of a function from the list. -/
theorem replaceSelf_outlines_option :
    ∃ result, (applied "Option" [function [self] none]).replaceSelf (applied "List" [named "T"]) = .ok result ∧
      result.walk.map outline = [.path [.angle "Option" [.type]], .function 1 false, .path [.angle "List" [.type]],
        .path [.plain "T"]] := by
  obtain ⟨result, replaced, outlines, _⟩ :=
    (replaceSelf_outlines (applied "List" [named "T"]) (applied "Option" [function [self] none])).2
      ((firstVerbatim?_eq_none_iff _).mp rfl)
  exact ⟨result, replaced, outlines⟩

/-! ### The laws of a substitution -/

theorem substituteSelf_fixed {expr : TypeExpr} (other : expr ≠ self)
    (fixed : ∀ part ∈ expr.parts, substituteSelf replacement part = part) : substituteSelf replacement expr = expr := by
  apply eq_of_outline (outline_substituteSelf replacement other)
  calc (substituteSelf replacement expr).parts
    _ = expr.parts.map (substituteSelf replacement) := parts_substituteSelf replacement other
    _ = expr.parts.map id := List.map_congr_left fixed
    _ = expr.parts := List.map_id _

theorem substituteSelf_by_self (expr : TypeExpr) : substituteSelf self expr = expr := by
  induction expr using parts_induction with
  | step expr ih =>
    by_cases isSelf : expr = self
    · rw [isSelf, substituteSelf_self]
    · exact substituteSelf_fixed self isSelf ih

/-- Without a bare `Self` nothing is replaced. -/
theorem substituteSelf_of_closed {expr : TypeExpr} (closed : self ∉ expr.walk) :
    substituteSelf replacement expr = expr := by
  induction expr using parts_induction with
  | step expr ih =>
    apply substituteSelf_fixed replacement
    · rintro rfl
      exact closed (mem_walk_self self)
    · exact fun part inside => ih part inside fun member => closed (mem_walk_of_part inside member)

/-- No other expression becomes the bare `Self`, so the second substitution goes on in the parts. -/
theorem substituteSelf_ne_self {expr : TypeExpr} (other : expr ≠ self) : substituteSelf replacement expr ≠ self := by
  intro isSelf
  apply other
  rw [eq_leaf_iff parts_self] at isSelf ⊢
  rw [← isSelf, outline_substituteSelf replacement other]

theorem substituteSelf_substituteSelf (first second expr : TypeExpr) :
    substituteSelf second (substituteSelf first expr) = substituteSelf (substituteSelf second first) expr := by
  induction expr using parts_induction with
  | step expr ih =>
    by_cases isSelf : expr = self
    · rw [isSelf, substituteSelf_self, substituteSelf_self]
    · have kept := substituteSelf_ne_self first isSelf
      apply eq_of_outline
      · rw [outline_substituteSelf second kept, outline_substituteSelf first isSelf,
          outline_substituteSelf (substituteSelf second first) isSelf]
      · rw [parts_substituteSelf second kept, parts_substituteSelf first isSelf,
          parts_substituteSelf (substituteSelf second first) isSelf, List.map_map]
        exact List.map_congr_left ih

theorem substituteSelf_clean {expr : TypeExpr} (clean : ¬ expr.HoldsVerbatim)
    (cleanReplacement : ¬ replacement.HoldsVerbatim) : ¬ (substituteSelf replacement expr).HoldsVerbatim := by
  rintro ⟨text, member⟩
  rcases (leaf_mem_substituteSelf replacement rfl expr).mp member with ⟨before, _⟩ | ⟨_, brought⟩
  · exact clean ⟨text, before⟩
  · exact cleanReplacement ⟨text, brought⟩

/-- Replacing `Self` is a substitution: `Self` for `Self` changes nothing, two replacements in a row are the one by the
first replacement after the second, and behind a replacement without a bare `Self` nothing is left to replace. -/
theorem replaceSelf_composes {expr first : TypeExpr} (clean : ¬ expr.HoldsVerbatim)
    (cleanFirst : ¬ first.HoldsVerbatim) :
    expr.replaceSelf self = .ok expr ∧
    (∀ second, ∃ inner combined result,
      expr.replaceSelf first = .ok inner ∧ inner.replaceSelf second = .ok result ∧
      first.replaceSelf second = .ok combined ∧ expr.replaceSelf combined = .ok result) ∧
    (self ∉ first.walk →
      ∃ inner, expr.replaceSelf first = .ok inner ∧ ∀ second, inner.replaceSelf second = .ok inner) := by
  have replaced := replaceSelf_of_clean first clean
  have again (second : TypeExpr) : (substituteSelf first expr).replaceSelf second =
      .ok (substituteSelf (substituteSelf second first) expr) := by
    rw [replaceSelf_of_clean second (substituteSelf_clean first clean cleanFirst), substituteSelf_substituteSelf]
  refine ⟨?_, fun second => ?_, fun closed => ⟨_, replaced, fun second => ?_⟩⟩
  · rw [replaceSelf_of_clean self clean, substituteSelf_by_self]
  · exact ⟨_, _, _, replaced, again second, replaceSelf_of_clean second cleanFirst, replaceSelf_of_clean _ clean⟩
  · rw [again, substituteSelf_of_closed second closed]

/-- The option of `Self` with a list of `Self` and then `T` in its place, and with `T` alone. -/
theorem replaceSelf_composes_option :
    (∃ inner combined result,
      (applied "Option" [self]).replaceSelf (applied "List" [self]) = .ok inner ∧
      inner.replaceSelf (named "T") = .ok result ∧
      (applied "List" [self]).replaceSelf (named "T") = .ok combined ∧
      (applied "Option" [self]).replaceSelf combined = .ok result) ∧
    ∃ inner, (applied "Option" [self]).replaceSelf (named "T") = .ok inner ∧
      ∀ second, inner.replaceSelf second = .ok inner := by
  have clean : ¬ (applied "Option" [self]).HoldsVerbatim := (firstVerbatim?_eq_none_iff _).mp rfl
  have cleanList : ¬ (applied "List" [self]).HoldsVerbatim := (firstVerbatim?_eq_none_iff _).mp rfl
  have cleanName : ¬ (named "T").HoldsVerbatim := (firstVerbatim?_eq_none_iff _).mp rfl
  exact ⟨(replaceSelf_composes clean cleanList).2.1 (named "T"),
    (replaceSelf_composes clean cleanName).2.2 (by simp [named, self, selfName, walk, Segment.walk, Segment.walkAll])⟩

end TypeExpr

end CowView
