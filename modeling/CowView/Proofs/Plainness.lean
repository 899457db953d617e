import CowView.Proofs.Settling
import CowView.TypeExpr.Substitution

/-!
Which expressions are plain. Verbatim text is the only place where a comment may end up, so that an expression is
sure to be read back if no comment is inside it. `Plainness` is what the argument needs of such a notion: it goes
down to the parts, and a plain macro has a plain path and no comment in its group. Plain in this sense are the
expressions whose rendering holds no comment, and those without verbatim text.
-/

namespace CowView

/-! ### Texts without comments -/

namespace Text

/-- The text holds no comment: of all tokens only comments hold a slash. -/
def CommentFree (text : String) : Prop := '/' ∉ text.toList

instance (text : String) : Decidable (CommentFree text) :=
  inferInstanceAs (Decidable ('/' ∉ text.toList))

theorem commentFree_append {left right : String} :
    CommentFree (left ++ right) ↔ CommentFree left ∧ CommentFree right := by
  simp [CommentFree]

theorem CommentFree.of_join {separator : String} {texts : List String}
    (plain : CommentFree (join separator texts)) : ∀ text ∈ texts, CommentFree text := by
  induction texts with
  | nil => nofun
  | cons first rest ih =>
    cases rest with
    | nil =>
      intro text member
      rw [List.mem_singleton.mp member]
      exact plain
    | cons second rest =>
      rw [join_cons_cons, commentFree_append, commentFree_append] at plain
      rintro text (_ | ⟨_, member⟩)
      · exact plain.1.1
      · exact ih plain.2 text member

end Text

open Text

theorem TypeExpr.commentFree_all {separator : String} {exprs : List TypeExpr}
    (plain : CommentFree (Text.join separator (renderAll exprs))) :
    ∀ expr ∈ exprs, CommentFree expr.render := by
  rw [renderAll_eq_map] at plain
  exact fun expr member => plain.of_join _ (List.mem_map_of_mem member)

theorem Argument.commentFree_all {separator : String} {arguments : List Argument}
    (plain : CommentFree (Text.join separator (renderAll arguments))) :
    ∀ argument ∈ arguments, CommentFree argument.render := by
  rw [renderAll_eq_map] at plain
  exact fun argument member => plain.of_join _ (List.mem_map_of_mem member)

theorem Segment.commentFree_all {separator : String} {segments : List Segment}
    (plain : CommentFree (Text.join separator (renderAll segments))) :
    ∀ segment ∈ segments, CommentFree segment.render := by
  rw [renderAll_eq_map] at plain
  exact fun segment member => plain.of_join _ (List.mem_map_of_mem member)

theorem Segment.commentFree_traitText {segments : List Segment}
    (plain : CommentFree (traitText segments)) : ∀ segment ∈ segments, CommentFree segment.render := by
  cases segments with
  | nil => nofun
  | cons first rest =>
    rw [traitText, List.isEmpty_cons, if_neg Bool.false_ne_true, commentFree_append] at plain
    exact Segment.commentFree_all plain.2

theorem Segment.commentFree_textAfter {segments : List Segment}
    (plain : CommentFree (textAfter segments)) : ∀ segment ∈ segments, CommentFree segment.render := by
  cases segments with
  | nil => nofun
  | cons first rest =>
    rw [textAfter, List.isEmpty_cons, if_neg Bool.false_ne_true, commentFree_append] at plain
    exact Segment.commentFree_all plain.2

theorem TokenGroup.mem_foldl_append {character : Char} {values : List (List Char)}
    {text : List Char} (member : character ∈ text ∨ ∃ value ∈ values, character ∈ value) :
    character ∈ values.foldl append text := by
  induction values generalizing text with
  | nil => simpa using member
  | cons first rest ih =>
    refine ih ?_
    have both : ∀ other, other ∈ text ∨ other ∈ first → other ∈ append text first := by
      intro other shown
      unfold append
      split
      · exact List.mem_append.mpr shown
      · rcases shown with own | own <;> simp [own]
    rcases member with own | ⟨value, _ | ⟨_, later⟩, own⟩
    · exact .inl (both _ (.inl own))
    · exact .inl (both _ (.inr own))
    · exact .inr ⟨value, later, own⟩

theorem TokenGroup.commentFree_join {values : List String}
    (plain : CommentFree (TokenGroup.join values)) : ∀ value ∈ values, CommentFree value := by
  intro value member slash
  refine plain ?_
  rw [TokenGroup.join, String.toList_ofList]
  exact mem_foldl_append (.inr ⟨value.toList, List.mem_map_of_mem member, slash⟩)

/-! ### Parts -/

def TypeExpr.PartsAre (own : TypeExpr → Prop) (link : Segment → Prop) : TypeExpr → Prop
  | .lifetime _ | .constant _ | .inferred | .never | .verbatim _ => True
  | .path first rest => ∀ segment ∈ first :: rest, link segment
  | .qualified subject position first rest =>
    0 ≤ position → own subject ∧ ∀ segment ∈ first :: rest, link segment
  | .array element _ | .slice element | .group element | .reference _ _ element
  | .pointer _ element => own element
  | .tuple elements | .implTrait elements | .traitObject elements => ∀ element ∈ elements, own element
  | .function inputs output => (∀ input ∈ inputs, own input) ∧ ∀ result ∈ output, own result

def Segment.PartsAre (own : TypeExpr → Prop) (entry : Argument → Prop) : Segment → Prop
  | .plain _ => True
  | .angle _ arguments => ∀ argument ∈ arguments, entry argument
  | .call _ inputs output => (∀ input ∈ inputs, own input) ∧ ∀ result ∈ output, own result

def Argument.PartsAre (own : TypeExpr → Prop) : Argument → Prop
  | .type expr => own expr
  | .binding _ value => own value
  | .constraint _ bounds => ∀ bound ∈ bounds, own bound

/-- A notion of plain expressions, segments and arguments: the parts of what is plain are plain. -/
structure Plainness where
  expr : TypeExpr → Prop
  segment : Segment → Prop
  argument : Argument → Prop
  parts : ∀ {whole : TypeExpr}, expr whole → whole.PartsAre expr segment
  segmentParts : ∀ {whole : Segment}, segment whole → whole.PartsAre expr argument
  argumentParts : ∀ {whole : Argument}, argument whole → whole.PartsAre expr
  invocation : ∀ {path : TypeExpr} {values : List String},
    expr (.verbatim (path.render ++ "!" ++ TokenGroup.join values)) →
      expr path ∧ ∀ value ∈ values, CommentFree value

theorem Plainness.path (plainness : Plainness) {found : Path} (plain : plainness.expr found.toExpr) :
    (∀ pair ∈ found.subject, plainness.expr pair.1) ∧
      ∀ segment ∈ found.segments, plainness.segment segment := by
  obtain ⟨subject, first, rest⟩ := found
  cases subject with
  | none => exact ⟨nofun, plainness.parts plain⟩
  | some pair =>
    obtain ⟨own, all⟩ := plainness.parts plain (Int.natCast_nonneg pair.2)
    exact ⟨fun other member => by cases member; exact own, all⟩

/-! ### Rendered without a comment -/

theorem TypeExpr.commentFree_parts {whole : TypeExpr} (plain : CommentFree whole.render) :
    whole.PartsAre (fun expr => CommentFree expr.render) fun segment => CommentFree segment.render := by
  match whole with
  | .lifetime _ | .constant _ | .inferred | .never | .verbatim _ => trivial
  | .path first rest => exact Segment.commentFree_all plain
  | .qualified subject position first rest =>
    intro low
    rw [TypeExpr.render_qualified subject low] at plain
    simp only [commentFree_append] at plain
    obtain ⟨⟨⟨⟨-, own⟩, trait⟩, -⟩, after⟩ := plain
    refine ⟨own, fun segment member => ?_⟩
    rw [← List.take_append_drop position.toNat (first :: rest)] at member
    rcases List.mem_append.mp member with front | back
    · exact Segment.commentFree_traitText trait segment front
    · exact Segment.commentFree_textAfter after segment back
  | .array element length =>
    simp only [TypeExpr.render, commentFree_append] at plain
    exact plain.1.1.1.2
  | .slice element | .group element =>
    simp only [TypeExpr.render, commentFree_append] at plain
    exact plain.1.2
  | .reference _ _ element | .pointer _ element =>
    simp only [TypeExpr.render, commentFree_append] at plain
    exact plain.2
  | .tuple [element] =>
    simp only [TypeExpr.render, commentFree_append] at plain
    simpa [TypeExpr.PartsAre] using plain.1.2
  | .tuple [] => exact List.forall_mem_nil _
  | .tuple (first :: second :: rest) =>
    simp only [TypeExpr.render, commentFree_append] at plain
    exact TypeExpr.commentFree_all plain.1.2
  | .implTrait bounds | .traitObject bounds =>
    simp only [TypeExpr.render, commentFree_append] at plain
    exact TypeExpr.commentFree_all plain.2
  | .function inputs none =>
    simp only [TypeExpr.render, commentFree_append] at plain
    exact ⟨TypeExpr.commentFree_all plain.1.2, fun _ member => by cases member⟩
  | .function inputs (some output) =>
    simp only [TypeExpr.render, commentFree_append] at plain
    exact ⟨TypeExpr.commentFree_all plain.1.1.2, fun result member => by cases member; exact plain.2⟩

theorem Segment.commentFree_parts {whole : Segment} (plain : CommentFree whole.render) :
    whole.PartsAre (fun expr => CommentFree expr.render) fun argument => CommentFree argument.render := by
  match whole with
  | .plain _ => trivial
  | .angle name arguments =>
    simp only [Segment.render, commentFree_append] at plain
    exact Argument.commentFree_all plain.1.2
  | .call name inputs none =>
    simp only [Segment.render, commentFree_append] at plain
    exact ⟨TypeExpr.commentFree_all plain.1.2, fun _ member => by cases member⟩
  | .call name inputs (some output) =>
    simp only [Segment.render, commentFree_append] at plain
    exact ⟨TypeExpr.commentFree_all plain.1.1.2, fun result member => by cases member; exact plain.2⟩

theorem Argument.commentFree_parts {whole : Argument} (plain : CommentFree whole.render) :
    whole.PartsAre fun expr => CommentFree expr.render := by
  match whole with
  | .type expr => exact plain
  | .binding name value =>
    simp only [Argument.render, commentFree_append] at plain
    exact plain.2
  | .constraint name bounds =>
    simp only [Argument.render, commentFree_append] at plain
    exact TypeExpr.commentFree_all plain.2

def Plainness.commentFree : Plainness where
  expr expr := CommentFree expr.render
  segment segment := CommentFree segment.render
  argument argument := CommentFree argument.render
  parts := TypeExpr.commentFree_parts
  segmentParts := Segment.commentFree_parts
  argumentParts := Argument.commentFree_parts
  invocation plain := by
    simp only [TypeExpr.render, commentFree_append] at plain
    exact ⟨plain.1.1, TokenGroup.commentFree_join plain.2⟩

/-! ### Without verbatim text -/

theorem TypeExpr.firstVerbatimOf?_eq_none {exprs : List TypeExpr} (none : firstVerbatimOf? exprs = none) :
    ∀ expr ∈ exprs, expr.firstVerbatim? = Option.none := by
  induction exprs with
  | nil => exact List.forall_mem_nil _
  | cons expr rest ih =>
    rw [firstVerbatimOf?, Option.or_eq_none_iff] at none
    exact List.forall_mem_cons.mpr ⟨none.1, ih none.2⟩

theorem Segment.firstVerbatimOf?_eq_none {segments : List Segment} (none : firstVerbatimOf? segments = none) :
    ∀ segment ∈ segments, segment.firstVerbatim? = Option.none := by
  induction segments with
  | nil => exact List.forall_mem_nil _
  | cons segment rest ih =>
    rw [firstVerbatimOf?, Option.or_eq_none_iff] at none
    exact List.forall_mem_cons.mpr ⟨none.1, ih none.2⟩

theorem Argument.firstVerbatimOf?_eq_none {arguments : List Argument} (none : firstVerbatimOf? arguments = none) :
    ∀ argument ∈ arguments, argument.firstVerbatim? = Option.none := by
  induction arguments with
  | nil => exact List.forall_mem_nil _
  | cons argument rest ih =>
    rw [firstVerbatimOf?, Option.or_eq_none_iff] at none
    exact List.forall_mem_cons.mpr ⟨none.1, ih none.2⟩

theorem TypeExpr.firstVerbatim?_parts {whole : TypeExpr} (none : whole.firstVerbatim? = none) :
    whole.PartsAre (fun expr => expr.firstVerbatim? = Option.none) fun segment => segment.firstVerbatim? = Option.none := by
  match whole with
  | .lifetime _ | .constant _ | .inferred | .never | .verbatim _ => trivial
  | .path first rest =>
    rw [TypeExpr.firstVerbatim?, Option.or_eq_none_iff] at none
    exact List.forall_mem_cons.mpr ⟨none.1, Segment.firstVerbatimOf?_eq_none none.2⟩
  | .qualified subject position first rest =>
    rw [TypeExpr.firstVerbatim?, Option.or_eq_none_iff, Option.or_eq_none_iff] at none
    exact fun _ => ⟨none.1, List.forall_mem_cons.mpr ⟨none.2.1, Segment.firstVerbatimOf?_eq_none none.2.2⟩⟩
  | .array element _ | .slice element | .group element | .reference _ _ element
  | .pointer _ element => exact none
  | .tuple elements | .implTrait elements | .traitObject elements =>
    exact TypeExpr.firstVerbatimOf?_eq_none none
  | .function inputs Option.none => exact ⟨TypeExpr.firstVerbatimOf?_eq_none none, nofun⟩
  | .function inputs (some output) =>
    rw [TypeExpr.firstVerbatim?, Option.or_eq_none_iff] at none
    exact ⟨TypeExpr.firstVerbatimOf?_eq_none none.2, fun result member => by cases member; exact none.1⟩

theorem Segment.firstVerbatim?_parts {whole : Segment} (none : whole.firstVerbatim? = none) :
    whole.PartsAre (fun expr => expr.firstVerbatim? = Option.none) fun argument => argument.firstVerbatim? = Option.none := by
  match whole with
  | .plain _ => trivial
  | .angle _ arguments => exact Argument.firstVerbatimOf?_eq_none none
  | .call _ inputs Option.none => exact ⟨TypeExpr.firstVerbatimOf?_eq_none none, nofun⟩
  | .call _ inputs (some output) =>
    rw [Segment.firstVerbatim?, Option.or_eq_none_iff] at none
    exact ⟨TypeExpr.firstVerbatimOf?_eq_none none.2, fun result member => by cases member; exact none.1⟩

theorem Argument.firstVerbatim?_parts {whole : Argument} (none : whole.firstVerbatim? = none) :
    whole.PartsAre fun expr => expr.firstVerbatim? = Option.none := by
  match whole with
  | .type _ | .binding _ _ => exact none
  | .constraint _ bounds => exact TypeExpr.firstVerbatimOf?_eq_none none

def Plainness.verbatimFree : Plainness where
  expr expr := expr.firstVerbatim? = none
  segment segment := segment.firstVerbatim? = none
  argument argument := argument.firstVerbatim? = none
  parts := TypeExpr.firstVerbatim?_parts
  segmentParts := Segment.firstVerbatim?_parts
  argumentParts := Argument.firstVerbatim?_parts
  invocation none := by cases none

end CowView
