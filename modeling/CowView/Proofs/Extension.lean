import CowView.Proofs.Completeness

/-!
Expressions that take in what follows them. Where an output stands in front of a double colon, the
segments behind it become a part of the output: `TypeExpr.extend` puts them there, and neither the
tokens nor the text change. `Segment.merge` does this along a chain of segments.
-/

namespace CowView

/-! ### Taking in further segments -/

mutual

def TypeExpr.extend (more : List Segment) : TypeExpr → TypeExpr
  | .path first rest =>
    let parts := Segment.extendAll more first (first.extend more) rest
    .path parts.1 parts.2
  | .qualified subject position first rest =>
    let parts := Segment.extendAll more first (first.extend more) rest
    .qualified subject position parts.1 parts.2
  | .function inputs none => .function inputs none
  | .function inputs (some output) => .function inputs (some (output.extend more))
  | .reference duration isMutable element =>
    .reference duration isMutable (element.extend more)
  | .pointer isMutable element => .pointer isMutable (element.extend more)
  | .implTrait bounds => .implTrait (TypeExpr.extendLast more bounds)
  | .traitObject bounds => .traitObject (TypeExpr.extendLast more bounds)
  | .lifetime duration => .lifetime duration
  | .constant value => .constant value
  | .inferred => .inferred
  | .never => .never
  | .verbatim text => .verbatim text
  | .array element length => .array element length
  | .slice element => .slice element
  | .tuple elements => .tuple elements
  | .group element => .group element

def TypeExpr.extendLast (more : List Segment) : List TypeExpr → List TypeExpr
  | [] => []
  | [bound] => [bound.extend more]
  | bound :: second :: rest => bound :: TypeExpr.extendLast more (second :: rest)

def Segment.extend (more : List Segment) : Segment → Segment
  | .call name inputs (some output) => .call name inputs (some (output.extend more))
  | .call name inputs none => .call name inputs none
  | .angle name arguments => .angle name arguments
  | .plain name => .plain name

/-- Segments with further ones behind them, which the last one takes in if it goes on there. The
first segment is given with what it would become. -/
def Segment.extendAll (more : List Segment) (first extended : Segment) :
    List Segment → Segment × List Segment
  | [] => if first.continuesAt .doubleColon then (extended, []) else (first, more)
  | second :: rest =>
    let parts := Segment.extendAll more second (second.extend more) rest
    (first, parts.1 :: parts.2)

end

def Segment.closing (more : List Segment) (last : Segment) : List Segment :=
  if last.continuesAt .doubleColon then [last.extend more] else last :: more

theorem Segment.extendAll_eq (more : List Segment) (first : Segment) (rest : List Segment) :
    (extendAll more first (first.extend more) rest).1 ::
        (extendAll more first (first.extend more) rest).2 =
      (first :: rest).dropLast ++ closing more ((first :: rest).getLast (List.cons_ne_nil _ _)) := by
  induction rest generalizing first with
  | nil =>
    rw [extendAll, closing, List.getLast_singleton]
    cases first.continuesAt .doubleColon <;> rfl
  | cons second rest ih =>
    rw [extendAll, ih second]
    rfl

/-! ### Segments one after the other -/

namespace Segment

def chainWords (segments : List Segment) : List BareToken :=
  BareToken.join .doubleColon (wordsAll segments)

def chainText (segments : List Segment) : String := Text.join "::" (renderAll segments)

theorem chainWords_cons (first : Segment) (rest : List Segment) :
    chainWords (first :: rest) = first.words ++ wordsAfter rest := join_wordsAll first rest

def textAfter (segments : List Segment) : String :=
  if segments.isEmpty then "" else "::" ++ chainText segments

theorem chainText_cons (first : Segment) (rest : List Segment) :
    chainText (first :: rest) = first.render ++ textAfter rest := by
  cases rest with
  | nil => simp [chainText, textAfter, renderAll]
  | cons second rest => simp [chainText, textAfter, renderAll, Text.join_cons_cons, String.append_assoc]

theorem wordsAfter_eq_chainWords (segments : List Segment) (shown : segments ≠ []) :
    wordsAfter segments = .symbol .doubleColon :: chainWords segments := by
  cases segments with
  | nil => exact absurd rfl shown
  | cons first rest => rw [chainWords_cons]; rfl

/-- Two ways to end a chain may be compared by their ends alone. -/
theorem chainWords_append {front left right : List Segment} {tail : List BareToken}
    (shown : left ≠ []) (other : right ≠ [])
    (same : chainWords right = chainWords left ++ tail) :
    chainWords (front ++ right) = chainWords (front ++ left) ++ tail := by
  induction front with
  | nil => exact same
  | cons first front ih =>
    have left' : front ++ left ≠ [] := by simp [shown]
    have right' : front ++ right ≠ [] := by simp [other]
    rw [List.cons_append, List.cons_append, chainWords_cons, chainWords_cons,
      wordsAfter_eq_chainWords _ left', wordsAfter_eq_chainWords _ right', ih]
    simp

theorem chainText_append {front left right : List Segment} {tail : String}
    (shown : left ≠ []) (other : right ≠ [])
    (same : chainText right = chainText left ++ tail) :
    chainText (front ++ right) = chainText (front ++ left) ++ tail := by
  induction front with
  | nil => exact same
  | cons first front ih =>
    have left' : (front ++ left).isEmpty = false := by simp [shown]
    have right' : (front ++ right).isEmpty = false := by simp [other]
    rw [List.cons_append, List.cons_append, chainText_cons, chainText_cons, textAfter, textAfter,
      left', right']
    simp [ih, String.append_assoc]

end Segment

/-! ### What taking in segments keeps -/

structure Segment.Chain (strict : Prop) (segments : List Segment) : Prop where
  formed : Segment.WellFormedAll strict segments
  parted : Segment.Parted segments
  shown : segments ≠ []

structure Segment.TookIn (strict : Prop) (more : List Segment) (before after : Segment) : Prop where
  words : after.words = before.words ++ Segment.wordsAfter more
  text : after.render = before.render ++ Segment.textAfter more
  name : after.name = before.name
  formed : after.WellFormed strict

structure TypeExpr.TookIn (strict : Prop) (more : List Segment) (before after : TypeExpr) :
    Prop where
  words : after.words = before.words ++ Segment.wordsAfter more
  text : after.render = before.render ++ Segment.textAfter more
  isType : after.isType = before.isType
  isBound : after.isBound = before.isBound
  formed : after.WellFormed strict

namespace Segment

theorem wellFormedAll_iff {strict : Prop} {segments : List Segment} :
    WellFormedAll strict segments ↔ ∀ segment ∈ segments, segment.WellFormed strict := by
  induction segments with
  | nil => simp [WellFormedAll]
  | cons first rest ih => simp [WellFormedAll, ih]

theorem wellFormedAll_append {strict : Prop} {front back : List Segment} :
    WellFormedAll strict (front ++ back) ↔ WellFormedAll strict front ∧ WellFormedAll strict back := by
  rw [wellFormedAll_iff, wellFormedAll_iff, wellFormedAll_iff, List.forall_mem_append]

structure Closed (strict : Prop) (more : List Segment) (last : Segment) (closed : List Segment) :
    Prop where
  chain : Chain strict closed
  words : chainWords closed = chainWords [last] ++ wordsAfter more
  text : chainText closed = chainText [last] ++ textAfter more
  name : ∀ first ∈ closed.head?, first.name = last.name

theorem closed_closing {strict : Prop} {more : List Segment} (further : Chain strict more)
    {last : Segment} (formed : last.WellFormed strict)
    (took : last.continuesAt .doubleColon = true → TookIn strict more last (last.extend more)) :
    Closed strict more last (closing more last) := by
  unfold closing
  cases goes : last.continuesAt .doubleColon with
  | true =>
    have result := took goes
    refine ⟨⟨⟨result.formed, trivial⟩, nofun, List.cons_ne_nil _ _⟩, ?_, ?_, ?_⟩
    · simp [chainWords_cons, wordsAfter, result.words]
    · simp [chainText_cons, textAfter, result.text]
    · rintro first ⟨⟩
      exact result.name
  | false =>
    refine ⟨⟨⟨formed, further.formed⟩, ?_, List.cons_ne_nil _ _⟩, ?_, ?_, ?_⟩
    · intro segment member
      rw [if_neg (by decide), List.dropLast_cons_of_ne_nil further.shown] at member
      rcases List.mem_cons.mp member with rfl | member
      · exact goes
      · exact further.parted segment member
    · simp [chainWords_cons, wordsAfter]
    · simp [chainText_cons, textAfter]
    · rintro first ⟨⟩
      rfl

/-- A chain took in further segments at its end. All before the end is the same. -/
structure Grown (strict : Prop) (more before after : List Segment) : Prop where
  formed : WellFormedAll strict after
  length : before.length ≤ after.length
  name : after.head?.map Segment.name = before.head?.map Segment.name
  take : ∀ count < before.length, after.take count = before.take count
  parted : ∀ count < before.length, Parted (before.drop count) → Parted (after.drop count)
  words : ∀ count < before.length,
    chainWords (after.drop count) = chainWords (before.drop count) ++ wordsAfter more
  text : ∀ count < before.length,
    chainText (after.drop count) = chainText (before.drop count) ++ textAfter more

theorem parted_append {front back : List Segment} (shown : back ≠ [])
    (first : ∀ segment ∈ front, segment.continuesAt .doubleColon = false) (second : Parted back) :
    Parted (front ++ back) := by
  intro segment member
  rw [List.dropLast_append_of_ne_nil shown] at member
  rcases List.mem_append.mp member with member | member
  · exact first segment member
  · exact second segment member

theorem grown_of_closed {strict : Prop} {more front closed : List Segment} {last : Segment}
    (formed : WellFormedAll strict (front ++ [last])) (closing : Closed strict more last closed) :
    Grown strict more (front ++ [last]) (front ++ closed) := by
  have within : ∀ count, count < (front ++ [last]).length → count ≤ front.length := by
    intro count less
    rw [List.length_append, List.length_singleton] at less
    omega
  have longer : 1 ≤ closed.length := by
    cases closed with
    | nil => exact absurd rfl closing.chain.shown
    | cons => simp
  constructor
  · exact wellFormedAll_append.mpr ⟨(wellFormedAll_append.mp formed).1, closing.chain.formed⟩
  · simp only [List.length_append, List.length_singleton]
    omega
  · cases front with
    | nil =>
      cases shown : closed with
      | nil => exact absurd shown closing.chain.shown
      | cons first rest => simp [closing.name first (by simp [shown])]
    | cons first rest => rfl
  · intro count less
    rw [List.take_append_of_le_length (within count less),
      List.take_append_of_le_length (within count less)]
  · intro count less parted
    rw [List.drop_append_of_le_length (within count less)] at parted ⊢
    refine parted_append closing.chain.shown (fun segment member => parted segment ?_)
      closing.chain.parted
    rwa [List.dropLast_concat]
  · intro count less
    rw [List.drop_append_of_le_length (within count less),
      List.drop_append_of_le_length (within count less)]
    exact chainWords_append (List.cons_ne_nil _ _) closing.chain.shown closing.words
  · intro count less
    rw [List.drop_append_of_le_length (within count less),
      List.drop_append_of_le_length (within count less)]
    exact chainText_append (List.cons_ne_nil _ _) closing.chain.shown closing.text

theorem grown_extendAll {strict : Prop} {more : List Segment} (further : Chain strict more)
    {first : Segment} {rest : List Segment} (formed : WellFormedAll strict (first :: rest))
    (took : ∀ segment ∈ first :: rest, segment.continuesAt .doubleColon = true →
      TookIn strict more segment (segment.extend more)) :
    Grown strict more (first :: rest) ((extendAll more first (first.extend more) rest).1 ::
      (extendAll more first (first.extend more) rest).2) := by
  rw [extendAll_eq]
  have split := (List.dropLast_concat_getLast (List.cons_ne_nil first rest)).symm
  have member := List.getLast_mem (List.cons_ne_nil first rest)
  have closing := closed_closing further (wellFormedAll_iff.mp formed _ member) (took _ member)
  rw [split] at formed
  have grown := grown_of_closed formed closing
  rwa [← split] at grown

end Segment

namespace Segment

theorem renderAll_eq_map (segments : List Segment) :
    renderAll segments = segments.map render := by
  induction segments with
  | nil => rfl
  | cons first rest ih => rw [renderAll, ih, List.map_cons]

theorem renderAll_take (count : Nat) (segments : List Segment) :
    (renderAll segments).take count = renderAll (segments.take count) := by
  rw [renderAll_eq_map, renderAll_eq_map, List.map_take]

theorem renderAll_drop (count : Nat) (segments : List Segment) :
    (renderAll segments).drop count = renderAll (segments.drop count) := by
  rw [renderAll_eq_map, renderAll_eq_map, List.map_drop]

def traitWords (trait : List Segment) : List BareToken :=
  if trait.isEmpty then [] else .name "as" :: chainWords trait

def traitText (trait : List Segment) : String :=
  if trait.isEmpty then "" else " as " ++ chainText trait

end Segment

namespace TypeExpr

theorem words_qualified (subject : TypeExpr) {position : Int} (low : 0 ≤ position)
    (first : Segment) (rest : List Segment) :
    (qualified subject position first rest).words =
      .symbol .lessThan :: (subject.words ++
        (Segment.traitWords ((first :: rest).take position.toNat) ++
          .symbol .greaterThan :: .symbol .doubleColon ::
            Segment.chainWords ((first :: rest).drop position.toNat))) := by
  have all : first.words :: Segment.wordsAll rest = Segment.wordsAll (first :: rest) := rfl
  have trait : (if 0 < position then BareToken.name "as" :: BareToken.join .doubleColon
      ((Segment.wordsAll (first :: rest)).take position.toNat) else []) =
        Segment.traitWords ((first :: rest).take position.toNat) := by
    rw [Segment.wordsAll_take, Segment.traitWords]
    by_cases named : 0 < position
    · obtain ⟨count, same⟩ : ∃ count, position.toNat = count + 1 := ⟨position.toNat - 1, by omega⟩
      rw [if_pos named, same]
      rfl
    · have none : position.toNat = 0 := by omega
      rw [if_neg named, none]
      rfl
  rw [words, BareToken.qualified, all, trait, Segment.wordsAll_drop]
  rfl

theorem render_qualified (subject : TypeExpr) {position : Int} (low : 0 ≤ position)
    (first : Segment) (rest : List Segment) :
    (qualified subject position first rest).render =
      "<" ++ subject.render ++ Segment.traitText ((first :: rest).take position.toNat) ++ ">" ++
        Segment.textAfter ((first :: rest).drop position.toNat) := by
  have all : first.render :: Segment.renderAll rest = Segment.renderAll (first :: rest) := rfl
  have trait : (if 0 < position then " as " ++ Text.join "::"
      ((Segment.renderAll (first :: rest)).take position.toNat) else "") =
        Segment.traitText ((first :: rest).take position.toNat) := by
    rw [Segment.renderAll_take, Segment.traitText]
    by_cases named : 0 < position
    · obtain ⟨count, same⟩ : ∃ count, position.toNat = count + 1 := ⟨position.toNat - 1, by omega⟩
      rw [if_pos named, same]
      rfl
    · have none : position.toNat = 0 := by omega
      rw [if_neg named, none]
      rfl
  have place : cut position (Segment.renderAll (first :: rest)).length = position.toNat := if_pos low
  rw [render, renderQualified, all, trait, place, Segment.renderAll_drop]
  cases (first :: rest).drop position.toNat with
  | nil => simp [Segment.renderAll, Segment.textAfter]
  | cons head tail =>
    simp only [Segment.renderAll, Segment.textAfter, Segment.chainText, Text.join_cons_cons,
      String.append_assoc, List.isEmpty_cons, Bool.false_eq_true, if_false]

theorem continuesAt_of_bound {kind : TokenKind} {bound : TypeExpr}
    (goes : bound.boundContinuesAt kind = true) : bound.continuesAt kind = true := by
  cases bound with
  | path | qualified =>
    simp only [boundContinuesAt, continuesAt, Bool.or_eq_true] at goes ⊢
    rcases goes with colon | last
    · exact .inl (.inr colon)
    · exact .inr last
  | _ => simp [boundContinuesAt] at goes

end TypeExpr

structure TypeExpr.LastTookIn (strict : Prop) (more : List Segment)
    (before after : List TypeExpr) : Prop where
  words : BareToken.join .plus (TypeExpr.wordsAll after) =
    BareToken.join .plus (TypeExpr.wordsAll before) ++ Segment.wordsAfter more
  text : Text.join " + " (TypeExpr.renderAll after) =
    Text.join " + " (TypeExpr.renderAll before) ++ Segment.textAfter more
  isBound : (∀ bound ∈ before, bound.isBound = true) → ∀ bound ∈ after, bound.isBound = true
  formed : TypeExpr.WellFormedAll strict after
  shown : after ≠ []
  parted : TypeExpr.Parted before → TypeExpr.Parted after

theorem TypeExpr.join_plus_cons (first : TypeExpr) {rest : List TypeExpr} (shown : rest ≠ []) :
    BareToken.join .plus (TypeExpr.wordsAll (first :: rest)) =
      first.words ++ .symbol .plus :: BareToken.join .plus (TypeExpr.wordsAll rest) := by
  cases rest with
  | nil => exact absurd rfl shown
  | cons second rest => rfl

theorem TypeExpr.text_plus_cons (first : TypeExpr) {rest : List TypeExpr} (shown : rest ≠ []) :
    Text.join " + " (TypeExpr.renderAll (first :: rest)) =
      first.render ++ " + " ++ Text.join " + " (TypeExpr.renderAll rest) := by
  cases rest with
  | nil => exact absurd rfl shown
  | cons second rest => rfl

theorem TypeExpr.LastTookIn.cons {strict : Prop} {more : List Segment} {first second : TypeExpr}
    {rest after : List TypeExpr}
    (took : TypeExpr.LastTookIn strict more (second :: rest) after)
    (formed : first.WellFormed strict) :
    TypeExpr.LastTookIn strict more (first :: second :: rest) (first :: after) := by
  refine ⟨?_, ?_, fun isBound => ?_, ⟨formed, took.formed⟩, List.cons_ne_nil _ _, fun parted => ?_⟩
  · rw [TypeExpr.join_plus_cons first took.shown,
      TypeExpr.join_plus_cons first (List.cons_ne_nil _ _), took.words]
    simp
  · rw [TypeExpr.text_plus_cons first took.shown,
      TypeExpr.text_plus_cons first (List.cons_ne_nil _ _), took.text]
    simp only [String.append_assoc]
  · rintro bound (_ | ⟨_, member⟩)
    · exact isBound first List.mem_cons_self
    · exact took.isBound (fun other member => isBound other (List.mem_cons_of_mem _ member))
        bound member
  · intro bound member
    rw [List.dropLast_cons_of_ne_nil took.shown] at member
    rcases List.mem_cons.mp member with rfl | member
    · exact parted bound List.mem_cons_self
    · exact took.parted (fun other member => parted other (List.mem_cons_of_mem _ member))
        bound member

theorem Segment.textAfter_of_ne_nil {segments : List Segment} (shown : segments ≠ []) :
    textAfter segments = "::" ++ chainText segments := by
  have full : segments.isEmpty = false := by simp [shown]
  rw [textAfter, full]
  rfl

theorem TypeExpr.tookIn_path {strict : Prop} {more : List Segment} {first : Segment}
    {rest : List Segment} {parts : Segment × List Segment}
    (parted : Segment.Parted (first :: rest))
    (grown : Segment.Grown strict more (first :: rest) (parts.1 :: parts.2)) :
    TypeExpr.TookIn strict more (.path first rest) (.path parts.1 parts.2) := by
  have name : parts.1.name = first.name := by simpa using grown.name
  refine ⟨grown.words 0 (Nat.succ_pos _), grown.text 0 (Nat.succ_pos _), ?_, rfl,
    grown.formed.1, grown.formed.2, grown.parted 0 (Nat.succ_pos _) parted⟩
  simp only [TypeExpr.isType, name]

theorem TypeExpr.tookIn_qualified {strict : Prop} {more : List Segment} {subject : TypeExpr}
    {position : Int} {first : Segment} {rest : List Segment} {parts : Segment × List Segment}
    (formed : (TypeExpr.qualified subject position first rest).WellFormed strict)
    (grown : Segment.Grown strict more (first :: rest) (parts.1 :: parts.2)) :
    TypeExpr.TookIn strict more (.qualified subject position first rest)
      (.qualified subject position parts.1 parts.2) := by
  obtain ⟨subjectFormed, -, -, ⟨low, high⟩, remaining, trait⟩ := formed
  have less : position.toNat < (first :: rest).length := by
    rw [List.length_cons]
    omega
  have longer : (first :: rest).length ≤ (parts.1 :: parts.2).length := grown.length
  have before : (first :: rest).drop position.toNat ≠ [] := by
    rw [Ne, List.drop_eq_nil_iff]
    omega
  have after : (parts.1 :: parts.2).drop position.toNat ≠ [] := by
    rw [Ne, List.drop_eq_nil_iff]
    omega
  refine ⟨?_, ?_, rfl, rfl, subjectFormed, grown.formed.1, grown.formed.2, ⟨low, ?_⟩,
    grown.parted _ less remaining, ?_⟩
  · rw [words_qualified subject low, words_qualified subject low, grown.take _ less,
      grown.words _ less]
    simp
  · rw [render_qualified subject low, render_qualified subject low, grown.take _ less,
      Segment.textAfter_of_ne_nil before, Segment.textAfter_of_ne_nil after, grown.text _ less]
    simp only [String.append_assoc]
  · simp only [List.length_cons] at longer
    omega
  · rw [grown.take _ less]
    exact trait

mutual

theorem TypeExpr.tookIn {strict : Prop} {more : List Segment}
    (further : Segment.Chain strict more) : (expr : TypeExpr) → expr.WellFormed strict →
      expr.continuesAt .doubleColon = true → TypeExpr.TookIn strict more expr (expr.extend more)
  | .path first rest, formed, _ => by
    refine TypeExpr.tookIn_path formed.2.2
      (Segment.grown_extendAll further ⟨formed.1, formed.2.1⟩ ?_)
    rintro segment (_ | ⟨_, member⟩) goes
    · exact Segment.tookIn further first formed.1 goes
    · exact Segment.tookInAll further rest formed.2.1 segment member goes
  | .qualified subject position first rest, formed, _ => by
    refine TypeExpr.tookIn_qualified formed
      (Segment.grown_extendAll further ⟨formed.2.1, formed.2.2.1⟩ ?_)
    rintro segment (_ | ⟨_, member⟩) goes
    · exact Segment.tookIn further first formed.2.1 goes
    · exact Segment.tookInAll further rest formed.2.2.1 segment member goes
  | .function inputs none, _, goes => by simp [TypeExpr.continuesAt] at goes
  | .function inputs (some output), formed, goes => by
    have inner := TypeExpr.tookIn further output formed.2.2 goes
    refine ⟨?_, ?_, rfl, rfl, formed.1, ?_, inner.formed⟩
    · simp [TypeExpr.extend, TypeExpr.words, TypeExpr.outputWords, inner.words]
    · simp [TypeExpr.extend, TypeExpr.render, inner.text, String.append_assoc]
    · rintro result ⟨⟩
      rw [inner.isType]
      exact formed.2.1 output rfl
  | .reference duration isMutable element, formed, goes => by
    have inner := TypeExpr.tookIn further element formed.2.1.2 goes
    refine ⟨?_, ?_, rfl, rfl, formed.1, ⟨?_, inner.formed⟩, fun plain => ?_⟩
    · simp [TypeExpr.extend, TypeExpr.words, inner.words]
    · simp [TypeExpr.extend, TypeExpr.render, inner.text, String.append_assoc]
    · rw [inner.isType]
      exact formed.2.1.1
    · have starts := TypeExpr.startsType formed.2.1.1 formed.2.1.2
      rw [inner.words, BareToken.ahead_append starts.ne_nil]
      exact formed.2.2 plain
  | .pointer isMutable element, formed, goes => by
    have inner := TypeExpr.tookIn further element formed.2 goes
    refine ⟨?_, ?_, rfl, rfl, ?_, inner.formed⟩
    · simp [TypeExpr.extend, TypeExpr.words, inner.words]
    · simp [TypeExpr.extend, TypeExpr.render, inner.text, String.append_assoc]
    · rw [inner.isType]
      exact formed.1
  | .implTrait bounds, formed, goes | .traitObject bounds, formed, goes => by
    have last : TypeExpr.lastContinuesAt .doubleColon bounds = true := by
      simpa [TypeExpr.continuesAt] using goes
    have inner := TypeExpr.tookInLast further bounds formed.2.1 last
    refine ⟨?_, ?_, rfl, rfl, inner.isBound formed.1, inner.formed, inner.shown,
      inner.parted formed.2.2.2⟩
    · simp [TypeExpr.extend, TypeExpr.words, inner.words]
    · simp [TypeExpr.extend, TypeExpr.render, inner.text, String.append_assoc]
  | .lifetime _, _, goes | .constant _, _, goes | .inferred, _, goes | .never, _, goes
  | .verbatim _, _, goes | .array _ _, _, goes | .slice _, _, goes | .tuple _, _, goes
  | .group _, _, goes => by simp [TypeExpr.continuesAt] at goes

theorem TypeExpr.tookInLast {strict : Prop} {more : List Segment}
    (further : Segment.Chain strict more) : (bounds : List TypeExpr) →
      TypeExpr.WellFormedAll strict bounds → TypeExpr.lastContinuesAt .doubleColon bounds = true →
        TypeExpr.LastTookIn strict more bounds (TypeExpr.extendLast more bounds)
  | [], _, goes => by cases goes
  | [bound], formed, goes => by
    have inner := TypeExpr.tookIn further bound formed.1 (TypeExpr.continuesAt_of_bound goes)
    refine ⟨inner.words, inner.text, ?_, ⟨inner.formed, trivial⟩, List.cons_ne_nil _ _,
      fun _ => nofun⟩
    rintro isBound other (_ | ⟨_, ⟨⟩⟩)
    rw [inner.isBound]
    exact isBound bound List.mem_cons_self
  | first :: second :: rest, formed, goes => by
    have inner := TypeExpr.tookInLast further (second :: rest) formed.2 goes
    exact inner.cons formed.1

theorem Segment.tookIn {strict : Prop} {more : List Segment}
    (further : Segment.Chain strict more) : (segment : Segment) → segment.WellFormed strict →
      segment.continuesAt .doubleColon = true →
        Segment.TookIn strict more segment (segment.extend more)
  | .plain _, _, goes | .angle _ _, _, goes | .call _ _ none, _, goes => by
    simp [Segment.continuesAt] at goes
  | .call name inputs (some output), formed, goes => by
    have inner := TypeExpr.tookIn further output formed.2.2.2 goes
    refine ⟨?_, ?_, rfl, formed.1, formed.2.1, ?_, inner.formed⟩
    · simp [Segment.extend, Segment.words, TypeExpr.outputWords, inner.words]
    · simp [Segment.extend, Segment.render, inner.text, String.append_assoc]
    · rintro result ⟨⟩
      rw [inner.isType]
      exact formed.2.2.1 output rfl

theorem Segment.tookInAll {strict : Prop} {more : List Segment}
    (further : Segment.Chain strict more) : (segments : List Segment) →
      Segment.WellFormedAll strict segments → ∀ segment ∈ segments,
        segment.continuesAt .doubleColon = true →
          Segment.TookIn strict more segment (segment.extend more)
  | [], _ => nofun
  | first :: rest, formed => by
    rintro segment (_ | ⟨_, member⟩) goes
    · exact Segment.tookIn further first formed.1 goes
    · exact Segment.tookInAll further rest formed.2 segment member goes

end

/-! ### Reading a trait again -/

def Segment.merge : List Segment → List Segment
  | [] => []
  | [segment] => [segment]
  | segment :: second :: rest =>
    if segment.continuesAt .doubleColon then [segment.extend (Segment.merge (second :: rest))]
    else segment :: Segment.merge (second :: rest)

namespace Segment

theorem chain_merge {strict : Prop} {segments : List Segment} (shown : segments ≠ [])
    (formed : WellFormedAll strict segments) : Chain strict (merge segments) ∧
      chainWords (merge segments) = chainWords segments ∧
        chainText (merge segments) = chainText segments := by
  induction segments with
  | nil => exact absurd rfl shown
  | cons first rest ih =>
    cases rest with
    | nil => exact ⟨⟨formed, nofun, List.cons_ne_nil _ _⟩, rfl, rfl⟩
    | cons second rest =>
      obtain ⟨chain, words, text⟩ := ih (List.cons_ne_nil _ _) formed.2
      have closed := closed_closing chain formed.1 (Segment.tookIn chain first formed.1)
      have same : merge (first :: second :: rest) = closing (merge (second :: rest)) first := rfl
      rw [same]
      refine ⟨closed.chain, ?_, ?_⟩
      · rw [closed.words, wordsAfter_eq_chainWords _ chain.shown, words,
          chainWords_cons first [], chainWords_cons first (second :: rest),
          wordsAfter_eq_chainWords _ (List.cons_ne_nil second rest)]
        simp [wordsAfter]
      · rw [closed.text, textAfter_of_ne_nil chain.shown, text, chainText_cons first [],
          chainText_cons first (second :: rest), textAfter_of_ne_nil (List.cons_ne_nil second rest)]
        simp [textAfter]

theorem merge_eq_self {segments : List Segment} (parted : Parted segments) :
    merge segments = segments := by
  induction segments with
  | nil => rfl
  | cons first rest ih =>
    cases rest with
    | nil => rfl
    | cons second rest =>
      rw [merge, parted first (by simp), ih parted.tail]
      rfl

/-- No segment is lost only where none takes in others. -/
theorem parted_of_length_merge {segments : List Segment}
    (same : (merge segments).length = segments.length) : Parted segments := by
  induction segments with
  | nil => exact nofun
  | cons first rest ih =>
    cases rest with
    | nil => exact nofun
    | cons second rest =>
      rw [merge] at same
      split at same
      · simp at same
      next stays =>
        have later := ih (by simpa using same)
        rintro segment (_ | ⟨_, member⟩)
        · simpa using stays
        · exact later segment member

end Segment

end CowView
