import CowView.Proofs.Extension
import CowView.TypeExpr.Walk

/-!
What becomes of an expression that is rendered and read again. The trait of a qualified path may be
read from a qualified path itself; its segments stand one after the other in the rendering, and an
output in front of others takes them in. `TypeExpr.settle` is the expression after that: it has the
same tokens, and it is strict.
-/

namespace CowView

def TypeExpr.requalify (subject : TypeExpr) (position : Int) (segments : List Segment) : TypeExpr :=
  let trait := Segment.merge (segments.take position.toNat)
  match trait ++ segments.drop position.toNat with
  | [] => subject
  | first :: rest => .qualified subject trait.length first rest

mutual

def TypeExpr.settle : TypeExpr → TypeExpr
  | .lifetime duration => .lifetime duration
  | .constant value => .constant value
  | .inferred => .inferred
  | .never => .never
  | .verbatim text => .verbatim text
  | .path first rest => .path first.settle (Segment.settleAll rest)
  | .qualified subject position first rest =>
    TypeExpr.requalify subject.settle position (first.settle :: Segment.settleAll rest)
  | .array element length => .array element.settle length
  | .slice element => .slice element.settle
  | .tuple elements => .tuple (TypeExpr.settleAll elements)
  | .group element => .group element.settle
  | .function inputs output =>
    .function (TypeExpr.settleAll inputs) (TypeExpr.settleOutput output)
  | .reference duration isMutable element => .reference duration isMutable element.settle
  | .pointer isMutable element => .pointer isMutable element.settle
  | .implTrait bounds => .implTrait (TypeExpr.settleAll bounds)
  | .traitObject bounds => .traitObject (TypeExpr.settleAll bounds)

def TypeExpr.settleAll : List TypeExpr → List TypeExpr
  | [] => []
  | expr :: rest => expr.settle :: TypeExpr.settleAll rest

def TypeExpr.settleOutput : Option TypeExpr → Option TypeExpr
  | none => none
  | some output => some output.settle

def Segment.settle : Segment → Segment
  | .plain name => .plain name
  | .angle name arguments => .angle name (Argument.settleAll arguments)
  | .call name inputs output =>
    .call name (TypeExpr.settleAll inputs) (TypeExpr.settleOutput output)

def Segment.settleAll : List Segment → List Segment
  | [] => []
  | segment :: rest => segment.settle :: Segment.settleAll rest

def Argument.settle : Argument → Argument
  | .type type => .type type.settle
  | .binding name value => .binding name value.settle
  | .constraint name bounds => .constraint name (TypeExpr.settleAll bounds)

def Argument.settleAll : List Argument → List Argument
  | [] => []
  | argument :: rest => argument.settle :: Argument.settleAll rest

end

/-! ### What settling keeps -/

structure TypeExpr.SettlesTo (before after : TypeExpr) : Prop where
  words : after.words = before.words
  text : after.render = before.render
  isType : after.isType = before.isType
  isPath : after.isPath = before.isPath
  isBound : after.isBound = before.isBound
  isArgument : after.isArgument = before.isArgument
  continues : ∀ kind, after.continuesAt kind = before.continuesAt kind
  boundContinues : ∀ kind, after.boundContinuesAt kind = before.boundContinuesAt kind
  formed : after.WellFormed True

structure Segment.SettlesTo (before after : Segment) : Prop where
  words : after.words = before.words
  text : after.render = before.render
  name : after.name = before.name
  continues : ∀ kind, after.continuesAt kind = before.continuesAt kind
  formed : after.WellFormed True

structure Argument.SettlesTo (before after : Argument) : Prop where
  words : after.words = before.words
  text : after.render = before.render
  formed : after.WellFormed True

theorem TypeExpr.settleAll_eq_map (exprs : List TypeExpr) : settleAll exprs = exprs.map settle := by
  induction exprs with
  | nil => rfl
  | cons expr rest ih => rw [settleAll, ih, List.map_cons]

theorem Segment.settleAll_eq_map (segments : List Segment) :
    settleAll segments = segments.map settle := by
  induction segments with
  | nil => rfl
  | cons segment rest ih => rw [settleAll, ih, List.map_cons]

theorem Argument.settleAll_eq_map (arguments : List Argument) :
    settleAll arguments = arguments.map settle := by
  induction arguments with
  | nil => rfl
  | cons argument rest ih => rw [settleAll, ih, List.map_cons]

theorem TypeExpr.wellFormedAll_iff {strict : Prop} {exprs : List TypeExpr} :
    WellFormedAll strict exprs ↔ ∀ expr ∈ exprs, expr.WellFormed strict := by
  induction exprs with
  | nil => simp [WellFormedAll]
  | cons first rest ih => simp [WellFormedAll, ih]

theorem Argument.wellFormedAll_iff {strict : Prop} {arguments : List Argument} :
    WellFormedAll strict arguments ↔ ∀ argument ∈ arguments, argument.WellFormed strict := by
  induction arguments with
  | nil => simp [WellFormedAll]
  | cons first rest ih => simp [WellFormedAll, ih]

theorem TypeExpr.renderAll_eq_map (exprs : List TypeExpr) : renderAll exprs = exprs.map render := by
  induction exprs with
  | nil => rfl
  | cons expr rest ih => rw [renderAll, ih, List.map_cons]

theorem Argument.renderAll_eq_map (arguments : List Argument) :
    renderAll arguments = arguments.map render := by
  induction arguments with
  | nil => rfl
  | cons argument rest ih => rw [renderAll, ih, List.map_cons]

theorem TypeExpr.lastContinuesAt_eq (kind : TokenKind) (bounds : List TypeExpr) :
    lastContinuesAt kind bounds = bounds.getLast?.any (boundContinuesAt kind) := by
  induction bounds with
  | nil => rfl
  | cons first rest ih =>
    cases rest with
    | nil => rfl
    | cons second rest =>
      rw [List.getLast?_cons_cons, ← ih]
      rfl

namespace TypeExpr

variable {exprs : List TypeExpr} (each : ∀ expr ∈ exprs, SettlesTo expr expr.settle)

include each

theorem wordsAll_settleAll : wordsAll (settleAll exprs) = wordsAll exprs := by
  rw [settleAll_eq_map, wordsAll_eq_map, wordsAll_eq_map, List.map_map]
  exact List.map_congr_left fun expr member => (each expr member).words

theorem renderAll_settleAll : renderAll (settleAll exprs) = renderAll exprs := by
  rw [settleAll_eq_map, renderAll_eq_map, renderAll_eq_map, List.map_map]
  exact List.map_congr_left fun expr member => (each expr member).text

theorem isType_settleAll (isType : ∀ expr ∈ exprs, expr.isType = true) :
    ∀ expr ∈ settleAll exprs, expr.isType = true := by
  rw [settleAll_eq_map]
  rintro _ member
  obtain ⟨expr, own, rfl⟩ := List.mem_map.mp member
  rw [(each expr own).isType]
  exact isType expr own

theorem isBound_settleAll (isBound : ∀ expr ∈ exprs, expr.isBound = true) :
    ∀ expr ∈ settleAll exprs, expr.isBound = true := by
  rw [settleAll_eq_map]
  rintro _ member
  obtain ⟨expr, own, rfl⟩ := List.mem_map.mp member
  rw [(each expr own).isBound]
  exact isBound expr own

theorem parted_settleAll (parted : Parted exprs) : Parted (settleAll exprs) := by
  rw [settleAll_eq_map]
  intro bound member
  rw [← List.map_dropLast] at member
  obtain ⟨expr, own, rfl⟩ := List.mem_map.mp member
  rw [(each expr (List.dropLast_subset _ own)).boundContinues]
  exact parted expr own

theorem lastContinuesAt_settleAll (kind : TokenKind) :
    lastContinuesAt kind (settleAll exprs) = lastContinuesAt kind exprs := by
  rw [settleAll_eq_map, lastContinuesAt_eq, lastContinuesAt_eq, List.getLast?_map]
  cases last : exprs.getLast? with
  | none => rfl
  | some bound => exact (each bound (List.mem_of_getLast? last)).boundContinues kind

theorem wellFormedAll_settleAll : WellFormedAll True (settleAll exprs) := by
  rw [settleAll_eq_map, wellFormedAll_iff]
  intro _ member
  obtain ⟨expr, own, rfl⟩ := List.mem_map.mp member
  exact (each expr own).formed

/-- The comma behind the only element of a tuple stays. -/
theorem words_tuple_settleAll : (tuple (settleAll exprs)).words = (tuple exprs).words := by
  have same := wordsAll_settleAll each
  match exprs with
  | [] => rfl
  | [expr] =>
    have own : expr.settle.words = expr.words := (each expr (by simp)).words
    simp only [settleAll, words, own]
  | first :: second :: rest =>
    simp only [settleAll, words] at same ⊢
    rw [same]

theorem render_tuple_settleAll : (tuple (settleAll exprs)).render = (tuple exprs).render := by
  have same := renderAll_settleAll each
  match exprs with
  | [] => rfl
  | [expr] =>
    have own : expr.settle.render = expr.render := (each expr (by simp)).text
    simp only [settleAll, render, own]
  | first :: second :: rest =>
    simp only [settleAll, render] at same ⊢
    rw [same]

end TypeExpr

namespace TypeExpr

variable {output : Option TypeExpr} (last : ∀ result ∈ output, SettlesTo result result.settle)

include last

theorem outputWords_settleOutput : outputWords (settleOutput output) = outputWords output := by
  cases output with
  | none => rfl
  | some result => rw [settleOutput, outputWords, (last result rfl).words, outputWords]

theorem wellFormed_settleOutput (isType : ∀ result ∈ output, result.isType = true) :
    (∀ result ∈ settleOutput output, result.isType = true) ∧
      OutputWellFormed True (settleOutput output) := by
  cases output with
  | none => exact ⟨by simp [settleOutput], trivial⟩
  | some result =>
    refine ⟨?_, (last result rfl).formed⟩
    rintro _ ⟨⟩
    rw [(last result rfl).isType]
    exact isType result rfl

end TypeExpr

namespace Segment

variable {segments : List Segment} (each : ∀ segment ∈ segments, SettlesTo segment segment.settle)

include each

theorem wordsAll_settleAll : wordsAll (settleAll segments) = wordsAll segments := by
  rw [settleAll_eq_map, wordsAll_eq_map, wordsAll_eq_map, List.map_map]
  exact List.map_congr_left fun segment member => (each segment member).words

theorem renderAll_settleAll : renderAll (settleAll segments) = renderAll segments := by
  rw [settleAll_eq_map, renderAll_eq_map, renderAll_eq_map, List.map_map]
  exact List.map_congr_left fun segment member => (each segment member).text

theorem parted_settleAll (parted : Parted segments) : Parted (settleAll segments) := by
  rw [settleAll_eq_map]
  intro segment member
  rw [← List.map_dropLast] at member
  obtain ⟨before, own, rfl⟩ := List.mem_map.mp member
  rw [(each before (List.dropLast_subset _ own)).continues]
  exact parted before own

theorem wellFormedAll_settleAll : WellFormedAll True (settleAll segments) := by
  rw [settleAll_eq_map, wellFormedAll_iff]
  intro _ member
  obtain ⟨segment, own, rfl⟩ := List.mem_map.mp member
  exact (each segment own).formed

end Segment

theorem Segment.lastContinuesAt_getLast (kind : TokenKind) (first : Segment) (rest : List Segment) :
    Segment.lastContinuesAt kind (first.continuesAt kind) rest =
      ((first :: rest).getLast (List.cons_ne_nil _ _)).continuesAt kind := by
  induction rest generalizing first with
  | nil => rfl
  | cons second rest ih => rw [Segment.lastContinuesAt, ih, List.getLast_cons_cons]

theorem Segment.lastContinuesAt_settled {first head : Segment} {rest tail : List Segment}
    (each : ∀ segment ∈ first :: rest, SettlesTo segment segment.settle)
    (final : (head :: tail).getLast? = (settleAll (first :: rest)).getLast?) (kind : TokenKind) :
    lastContinuesAt kind (head.continuesAt kind) tail =
      lastContinuesAt kind (first.continuesAt kind) rest := by
  rw [settleAll_eq_map, List.getLast?_map, List.getLast?_eq_some_getLast (List.cons_ne_nil _ _),
    List.getLast?_eq_some_getLast (List.cons_ne_nil _ _)] at final
  rw [lastContinuesAt_getLast, lastContinuesAt_getLast, Option.some.inj final]
  exact (each _ (List.getLast_mem _)).continues kind

namespace Argument

variable {arguments : List Argument}
  (each : ∀ argument ∈ arguments, SettlesTo argument argument.settle)

include each

theorem wordsAll_settleAll : wordsAll (settleAll arguments) = wordsAll arguments := by
  rw [settleAll_eq_map, wordsAll_eq_map, wordsAll_eq_map, List.map_map]
  exact List.map_congr_left fun argument member => (each argument member).words

theorem renderAll_settleAll : renderAll (settleAll arguments) = renderAll arguments := by
  rw [settleAll_eq_map, renderAll_eq_map, renderAll_eq_map, List.map_map]
  exact List.map_congr_left fun argument member => (each argument member).text

theorem wellFormedAll_settleAll : WellFormedAll True (settleAll arguments) := by
  rw [settleAll_eq_map, wellFormedAll_iff]
  intro _ member
  obtain ⟨argument, own, rfl⟩ := List.mem_map.mp member
  exact (each argument own).formed

end Argument

/-! ### Every form -/

theorem TypeExpr.settles_path {first : Segment} {rest : List Segment}
    (parted : Segment.Parted (first :: rest))
    (each : ∀ segment ∈ first :: rest, Segment.SettlesTo segment segment.settle) :
    TypeExpr.SettlesTo (.path first rest) (.path first.settle (Segment.settleAll rest)) := by
  have own := each first List.mem_cons_self
  have later : ∀ segment ∈ rest, Segment.SettlesTo segment segment.settle :=
    fun segment member => each segment (List.mem_cons_of_mem _ member)
  have last := Segment.lastContinuesAt_settled each (rfl : (first.settle :: Segment.settleAll rest).getLast? = _)
  refine ⟨?_, ?_, ?_, rfl, rfl, ?_, fun kind => ?_, fun kind => ?_, own.formed,
    Segment.wellFormedAll_settleAll later, Segment.parted_settleAll each parted⟩
  · rw [TypeExpr.words, own.words, Segment.wordsAll_settleAll later, TypeExpr.words]
  · rw [TypeExpr.render, own.text, Segment.renderAll_settleAll later, TypeExpr.render]
  · simp only [TypeExpr.isType, own.name]
  · simp only [TypeExpr.isArgument, TypeExpr.isType, own.name]
  · simp only [TypeExpr.continuesAt, last]
  · simp only [TypeExpr.boundContinuesAt, last]

theorem Segment.merge_settleAll {segments : List Segment}
    (each : ∀ segment ∈ segments, SettlesTo segment segment.settle) :
    WellFormedAll True (merge (settleAll segments)) ∧ Parted (merge (settleAll segments)) ∧
      traitWords (merge (settleAll segments)) = traitWords segments ∧
        traitText (merge (settleAll segments)) = traitText segments := by
  cases segments with
  | nil => exact ⟨trivial, nofun, rfl, rfl⟩
  | cons first rest =>
    have shown : settleAll (first :: rest) ≠ [] := List.cons_ne_nil _ _
    obtain ⟨chain, words, text⟩ := chain_merge shown (wellFormedAll_settleAll each)
    have full : (merge (settleAll (first :: rest))).isEmpty = false := by simp [chain.shown]
    refine ⟨chain.formed, chain.parted, ?_, ?_⟩
    · rw [traitWords, full, words, chainWords, wordsAll_settleAll each]
      rfl
    · rw [traitText, full, text, chainText, renderAll_settleAll each]
      rfl

theorem TypeExpr.settles_qualified {strict : Prop} {subject : TypeExpr} {position : Int}
    {first : Segment} {rest : List Segment}
    (formed : (TypeExpr.qualified subject position first rest).WellFormed strict)
    (inner : TypeExpr.SettlesTo subject subject.settle)
    (each : ∀ segment ∈ first :: rest, Segment.SettlesTo segment segment.settle) :
    TypeExpr.SettlesTo (.qualified subject position first rest)
      (TypeExpr.requalify subject.settle position (Segment.settleAll (first :: rest))) := by
  obtain ⟨⟨isType, -⟩, -, -, ⟨low, high⟩, remaining, -⟩ := formed
  have front : ∀ segment ∈ (first :: rest).take position.toNat,
      Segment.SettlesTo segment segment.settle :=
    fun segment member => each segment (List.mem_of_mem_take member)
  have back : ∀ segment ∈ (first :: rest).drop position.toNat,
      Segment.SettlesTo segment segment.settle :=
    fun segment member => each segment (List.mem_of_mem_drop member)
  have taken : (Segment.settleAll (first :: rest)).take position.toNat =
      Segment.settleAll ((first :: rest).take position.toNat) := by
    rw [Segment.settleAll_eq_map, Segment.settleAll_eq_map, List.map_take]
  have dropped : (Segment.settleAll (first :: rest)).drop position.toNat =
      Segment.settleAll ((first :: rest).drop position.toNat) := by
    rw [Segment.settleAll_eq_map, Segment.settleAll_eq_map, List.map_drop]
  have shown : (first :: rest).drop position.toNat ≠ [] := by
    rw [Ne, List.drop_eq_nil_iff, List.length_cons]
    omega
  obtain ⟨traitFormed, traitParted, traitWords, traitText⟩ := Segment.merge_settleAll front
  have remainingFormed := Segment.wellFormedAll_settleAll back
  have remainingWords := Segment.wordsAll_settleAll back
  have remainingText := Segment.renderAll_settleAll back
  have remainingParted := Segment.parted_settleAll back remaining
  have nonempty : Segment.settleAll ((first :: rest).drop position.toNat) ≠ [] := by
    rw [Segment.settleAll_eq_map]
    simpa using shown
  rw [TypeExpr.requalify, taken, dropped]
  obtain ⟨head, tail, joined⟩ : ∃ head tail,
      Segment.merge (Segment.settleAll ((first :: rest).take position.toNat)) ++
        Segment.settleAll ((first :: rest).drop position.toNat) = head :: tail :=
    List.exists_cons_of_ne_nil (by simp [nonempty])
  have final : (head :: tail).getLast? = (Segment.settleAll (first :: rest)).getLast? := by
    have long := nonempty
    rw [← dropped, Ne, List.drop_eq_nil_iff] at long
    rw [← joined, List.getLast?_append, ← dropped, List.getLast?_drop, if_neg long]
    exact Option.or_of_isSome rfl
  have last := Segment.lastContinuesAt_settled each final
  -- from here on only the two parts count: the merged trait and the segments behind it
  simp only [joined]
  generalize Segment.merge (Segment.settleAll ((first :: rest).take position.toNat)) = trait at *
  generalize Segment.settleAll ((first :: rest).drop position.toNat) = others at *
  have low' : (0 : Int) ≤ trait.length := Int.natCast_nonneg _
  have longer : trait.length + others.length = tail.length + 1 := by
    rw [← List.length_append, joined, List.length_cons]
  have positive := List.length_pos_iff.mpr nonempty
  have cutFront : (head :: tail).take trait.length = trait := by rw [← joined, List.take_left]
  have cutBack : (head :: tail).drop trait.length = others := by rw [← joined, List.drop_left]
  have allFormed : Segment.WellFormedAll True (head :: tail) := by
    rw [← joined]
    exact Segment.wellFormedAll_append.mpr ⟨traitFormed, remainingFormed⟩
  refine ⟨?_, ?_, rfl, rfl, rfl, rfl, fun kind => ?_, fun kind => ?_,
    ⟨by rw [inner.isType]; exact isType, inner.formed⟩, allFormed.1, allFormed.2,
    ⟨low', by rw [Int.toNat_natCast]; omega⟩, ?_, fun _ => ?_⟩
  · rw [words_qualified _ low', words_qualified _ low, Int.toNat_natCast, cutFront, cutBack,
      inner.words, traitWords, Segment.chainWords, remainingWords, Segment.chainWords]
  · rw [render_qualified _ low', render_qualified _ low, Int.toNat_natCast, cutFront, cutBack,
      inner.text, traitText, Segment.textAfter_of_ne_nil nonempty,
      Segment.textAfter_of_ne_nil shown, Segment.chainText, remainingText, Segment.chainText]
  · simp only [TypeExpr.continuesAt, last]
  · simp only [TypeExpr.boundContinuesAt, last]
  · rw [Int.toNat_natCast, cutBack]
    exact remainingParted
  · rw [Int.toNat_natCast, cutFront]
    exact traitParted

mutual

theorem TypeExpr.settles {strict : Prop} : (expr : TypeExpr) → expr.WellFormed strict →
    TypeExpr.SettlesTo expr expr.settle
  | .lifetime _, formed | .constant _, formed | .verbatim _, formed =>
    ⟨rfl, rfl, rfl, rfl, rfl, rfl, fun _ => rfl, fun _ => rfl, formed⟩
  | .inferred, _ | .never, _ =>
    ⟨rfl, rfl, rfl, rfl, rfl, rfl, fun _ => rfl, fun _ => rfl, trivial⟩
  | .path first rest, formed => by
    refine TypeExpr.settles_path formed.2.2 ?_
    rintro segment (_ | ⟨_, member⟩)
    · exact Segment.settles first formed.1
    · exact Segment.settlesEach rest formed.2.1 segment member
  | .qualified subject position first rest, formed => by
    refine TypeExpr.settles_qualified formed (TypeExpr.settles subject formed.1.2) ?_
    rintro segment (_ | ⟨_, member⟩)
    · exact Segment.settles first formed.2.1
    · exact Segment.settlesEach rest formed.2.2.1 segment member
  | .array element length, formed => by
    have inner := TypeExpr.settles element formed.1.2
    refine ⟨?_, ?_, rfl, rfl, rfl, rfl, fun _ => rfl, fun _ => rfl, ⟨?_, inner.formed⟩, formed.2⟩
    · rw [TypeExpr.settle, TypeExpr.words, inner.words, TypeExpr.words]
    · rw [TypeExpr.settle, TypeExpr.render, inner.text, TypeExpr.render]
    · rw [inner.isType]
      exact formed.1.1
  | .slice element, formed => by
    have inner := TypeExpr.settles element formed.2
    refine ⟨?_, ?_, rfl, rfl, rfl, rfl, fun _ => rfl, fun _ => rfl, ?_, inner.formed⟩
    · rw [TypeExpr.settle, TypeExpr.words, inner.words, TypeExpr.words]
    · rw [TypeExpr.settle, TypeExpr.render, inner.text, TypeExpr.render]
    · rw [inner.isType]
      exact formed.1
  | .tuple elements, formed => by
    have each := TypeExpr.settlesEach elements formed.2
    refine ⟨?_, ?_, rfl, rfl, rfl, rfl, fun _ => rfl, fun _ => rfl,
      TypeExpr.isType_settleAll each formed.1, TypeExpr.wellFormedAll_settleAll each⟩
    · exact TypeExpr.words_tuple_settleAll each
    · exact TypeExpr.render_tuple_settleAll each
  | .group element, formed => by
    have inner := TypeExpr.settles element formed
    refine ⟨?_, ?_, ?_, rfl, ?_, ?_, fun _ => rfl, fun _ => rfl, inner.formed⟩
    · rw [TypeExpr.settle, TypeExpr.words, inner.words, TypeExpr.words]
    · rw [TypeExpr.settle, TypeExpr.render, inner.text, TypeExpr.render]
    · exact inner.isType
    · exact inner.isPath
    · exact inner.isType
  | .function inputs output, formed => by
    have each := TypeExpr.settlesEach inputs formed.1.2
    have last := TypeExpr.settlesOutput output formed.2
    refine ⟨?_, ?_, rfl, rfl, rfl, rfl, fun kind => ?_, fun _ => rfl,
      ⟨TypeExpr.isType_settleAll each formed.1.1, TypeExpr.wellFormedAll_settleAll each⟩,
      TypeExpr.wellFormed_settleOutput last formed.2.1⟩
    · rw [TypeExpr.settle, TypeExpr.words, TypeExpr.wordsAll_settleAll each,
        TypeExpr.outputWords_settleOutput last, TypeExpr.words]
    · cases output with
      | none => simp only [TypeExpr.settle, TypeExpr.settleOutput, TypeExpr.render,
          TypeExpr.renderAll_settleAll each]
      | some result => simp only [TypeExpr.settle, TypeExpr.settleOutput, TypeExpr.render,
          TypeExpr.renderAll_settleAll each, (last result rfl).text]
    · cases output with
      | none => rfl
      | some result => exact (last result rfl).continues kind
  | .reference duration isMutable element, formed => by
    have inner := TypeExpr.settles element formed.2.1.2
    refine ⟨?_, ?_, rfl, rfl, rfl, rfl, inner.continues, fun _ => rfl, formed.1,
      ⟨?_, inner.formed⟩, ?_⟩
    · rw [TypeExpr.settle, TypeExpr.words, inner.words, TypeExpr.words]
    · simp only [TypeExpr.settle, TypeExpr.render, inner.text]
    · rw [inner.isType]
      exact formed.2.1.1
    · rw [inner.words]
      exact formed.2.2
  | .pointer isMutable element, formed => by
    have inner := TypeExpr.settles element formed.2
    refine ⟨?_, ?_, rfl, rfl, rfl, rfl, inner.continues, fun _ => rfl, ?_, inner.formed⟩
    · rw [TypeExpr.settle, TypeExpr.words, inner.words, TypeExpr.words]
    · rw [TypeExpr.settle, TypeExpr.render, inner.text, TypeExpr.render]
    · rw [inner.isType]
      exact formed.1
  | .implTrait bounds, formed | .traitObject bounds, formed => by
    have each := TypeExpr.settlesEach bounds formed.2.1
    refine ⟨?_, ?_, rfl, rfl, rfl, rfl, fun kind => ?_, fun _ => rfl,
      TypeExpr.isBound_settleAll each formed.1, TypeExpr.wellFormedAll_settleAll each, ?_,
      TypeExpr.parted_settleAll each formed.2.2.2⟩
    · rw [TypeExpr.settle, TypeExpr.words, TypeExpr.wordsAll_settleAll each, TypeExpr.words]
    · rw [TypeExpr.settle, TypeExpr.render, TypeExpr.renderAll_settleAll each, TypeExpr.render]
    · simp only [TypeExpr.settle, TypeExpr.continuesAt, TypeExpr.lastContinuesAt_settleAll each]
    · rw [TypeExpr.settleAll_eq_map]
      simpa using formed.2.2.1

theorem TypeExpr.settlesEach {strict : Prop} : (exprs : List TypeExpr) →
    TypeExpr.WellFormedAll strict exprs → ∀ expr ∈ exprs, TypeExpr.SettlesTo expr expr.settle
  | [], _ => nofun
  | first :: rest, formed => by
    rintro expr (_ | ⟨_, member⟩)
    · exact TypeExpr.settles first formed.1
    · exact TypeExpr.settlesEach rest formed.2 expr member

theorem TypeExpr.settlesOutput {strict : Prop} : (output : Option TypeExpr) →
    (∀ result ∈ output, result.isType = true) ∧ TypeExpr.OutputWellFormed strict output →
      ∀ result ∈ output, TypeExpr.SettlesTo result result.settle
  | none, _ => by simp
  | some output, formed => by
    rintro result ⟨⟩
    exact TypeExpr.settles output formed.2

theorem Segment.settles {strict : Prop} : (segment : Segment) → segment.WellFormed strict →
    Segment.SettlesTo segment segment.settle
  | .plain _, formed => ⟨rfl, rfl, rfl, fun _ => rfl, formed⟩
  | .angle name arguments, formed => by
    have each := Argument.settlesEach arguments formed.2
    refine ⟨?_, ?_, rfl, fun _ => rfl, formed.1, Argument.wellFormedAll_settleAll each⟩
    · rw [Segment.settle, Segment.words, Argument.wordsAll_settleAll each, Segment.words]
    · rw [Segment.settle, Segment.render, Argument.renderAll_settleAll each, Segment.render]
  | .call name inputs output, formed => by
    have each := TypeExpr.settlesEach inputs formed.2.1.2
    have last := TypeExpr.settlesOutput output formed.2.2
    refine ⟨?_, ?_, rfl, fun kind => ?_, formed.1,
      ⟨TypeExpr.isType_settleAll each formed.2.1.1, TypeExpr.wellFormedAll_settleAll each⟩,
      TypeExpr.wellFormed_settleOutput last formed.2.2.1⟩
    · rw [Segment.settle, Segment.words, TypeExpr.wordsAll_settleAll each,
        TypeExpr.outputWords_settleOutput last, Segment.words]
    · cases output with
      | none => simp only [Segment.settle, TypeExpr.settleOutput, Segment.render,
          TypeExpr.renderAll_settleAll each]
      | some result => simp only [Segment.settle, TypeExpr.settleOutput, Segment.render,
          TypeExpr.renderAll_settleAll each, (last result rfl).text]
    · cases output with
      | none => rfl
      | some result => exact (last result rfl).continues kind

theorem Segment.settlesEach {strict : Prop} : (segments : List Segment) →
    Segment.WellFormedAll strict segments →
      ∀ segment ∈ segments, Segment.SettlesTo segment segment.settle
  | [], _ => nofun
  | first :: rest, formed => by
    rintro segment (_ | ⟨_, member⟩)
    · exact Segment.settles first formed.1
    · exact Segment.settlesEach rest formed.2 segment member

theorem Argument.settles {strict : Prop} : (argument : Argument) → argument.WellFormed strict →
    Argument.SettlesTo argument argument.settle
  | .type type, formed => by
    have inner := TypeExpr.settles type formed.2
    refine ⟨inner.words, inner.text, ?_, inner.formed⟩
    rw [inner.isArgument]
    exact formed.1
  | .binding name value, formed => by
    have inner := TypeExpr.settles value formed.2.2
    refine ⟨?_, ?_, formed.1, ?_, inner.formed⟩
    · rw [Argument.settle, Argument.words, inner.words, Argument.words]
    · rw [Argument.settle, Argument.render, inner.text, Argument.render]
    · rw [inner.isType]
      exact formed.2.1
  | .constraint name bounds, formed => by
    have each := TypeExpr.settlesEach bounds formed.2.2.1
    refine ⟨?_, ?_, formed.1, TypeExpr.isBound_settleAll each formed.2.1,
      TypeExpr.wellFormedAll_settleAll each, ?_, TypeExpr.parted_settleAll each formed.2.2.2.2⟩
    · rw [Argument.settle, Argument.words, TypeExpr.wordsAll_settleAll each, Argument.words]
    · rw [Argument.settle, Argument.render, TypeExpr.renderAll_settleAll each, Argument.render]
    · rw [TypeExpr.settleAll_eq_map]
      simpa using formed.2.2.2.1

theorem Argument.settlesEach {strict : Prop} : (arguments : List Argument) →
    Argument.WellFormedAll strict arguments →
      ∀ argument ∈ arguments, Argument.SettlesTo argument argument.settle
  | [], _ => nofun
  | first :: rest, formed => by
    rintro argument (_ | ⟨_, member⟩)
    · exact Argument.settles first formed.1
    · exact Argument.settlesEach rest formed.2 argument member

end

/-! ### What is read as it was -/

/-- In the trait of the expression, if it is a qualified path, no segment but the last one takes in
the double colon behind it. -/
def TypeExpr.TraitParted : TypeExpr → Prop
  | .qualified _ position first rest => Segment.Parted ((first :: rest).take position.toNat)
  | _ => True

/-- This holds of all expressions inside. -/
def TypeExpr.Settled (expr : TypeExpr) : Prop := ∀ node ∈ expr.walk, node.TraitParted

theorem TypeExpr.requalify_eq_iff {subject subject' : TypeExpr} {position : Int}
    {first first' : Segment} {rest rest' : List Segment} (low : 0 ≤ position)
    (high : position.toNat ≤ rest'.length) :
    TypeExpr.requalify subject' position (first' :: rest') = .qualified subject position first rest ↔
      subject' = subject ∧ (first' = first ∧ rest' = rest) ∧
        Segment.Parted ((first :: rest).take position.toNat) := by
  have length : ((first' :: rest').take position.toNat).length = position.toNat := by
    rw [List.length_take, List.length_cons]
    omega
  constructor
  · intro same
    rw [TypeExpr.requalify] at same
    obtain ⟨head, tail, joined⟩ : ∃ head tail,
        Segment.merge ((first' :: rest').take position.toNat) ++
          (first' :: rest').drop position.toNat = head :: tail := by
      refine List.exists_cons_of_ne_nil ?_
      have shown : (first' :: rest').drop position.toNat ≠ [] := by
        rw [Ne, List.drop_eq_nil_iff, List.length_cons]
        omega
      simp [shown]
    simp only [joined, TypeExpr.qualified.injEq] at same
    obtain ⟨rfl, place, rfl, rfl⟩ := same
    have parted := Segment.parted_of_length_merge (by rw [length]; omega)
    rw [Segment.merge_eq_self parted, List.take_append_drop] at joined
    obtain ⟨rfl, rfl⟩ := List.cons.inj joined
    exact ⟨rfl, ⟨rfl, rfl⟩, parted⟩
  · rintro ⟨rfl, ⟨rfl, rfl⟩, parted⟩
    rw [TypeExpr.requalify]
    simp only [Segment.merge_eq_self parted, List.take_append_drop, length, Int.toNat_of_nonneg low]

mutual

theorem TypeExpr.settle_eq_iff {strict : Prop} : (expr : TypeExpr) → expr.WellFormed strict →
    (expr.settle = expr ↔ expr.Settled)
  | .lifetime _, _ | .constant _, _ | .inferred, _ | .never, _ | .verbatim _, _ => by
    simp [TypeExpr.settle, TypeExpr.Settled, TypeExpr.walk, TypeExpr.TraitParted]
  | .path first rest, formed => by
    simp only [TypeExpr.settle, TypeExpr.path.injEq, Segment.settle_eq_iff first formed.1,
      Segment.settleAll_eq_iff rest formed.2.1, TypeExpr.Settled, TypeExpr.walk,
      TypeExpr.TraitParted, List.forall_mem_cons, List.forall_mem_append, true_and]
  | .qualified subject position first rest, formed => by
    obtain ⟨⟨-, subjectFormed⟩, firstFormed, restFormed, ⟨low, high⟩, -⟩ := formed
    have length : (Segment.settleAll rest).length = rest.length := by
      rw [Segment.settleAll_eq_map, List.length_map]
    rw [TypeExpr.settle, TypeExpr.requalify_eq_iff low (by omega)]
    simp only [TypeExpr.settle_eq_iff subject subjectFormed,
      Segment.settle_eq_iff first firstFormed, Segment.settleAll_eq_iff rest restFormed,
      TypeExpr.Settled, TypeExpr.walk, TypeExpr.TraitParted, List.forall_mem_cons,
      List.forall_mem_append]
    constructor
    · rintro ⟨inner, chain, trait⟩
      exact ⟨trait, inner, chain⟩
    · rintro ⟨trait, inner, chain⟩
      exact ⟨inner, chain, trait⟩
  | .array element _, formed => by
    simp [TypeExpr.settle, TypeExpr.settle_eq_iff element formed.1.2, TypeExpr.Settled,
      TypeExpr.walk, TypeExpr.TraitParted]
  | .slice element, formed => by
    simp [TypeExpr.settle, TypeExpr.settle_eq_iff element formed.2, TypeExpr.Settled,
      TypeExpr.walk, TypeExpr.TraitParted]
  | .tuple elements, formed => by
    simp [TypeExpr.settle, TypeExpr.settleAll_eq_iff elements formed.2, TypeExpr.Settled,
      TypeExpr.walk, TypeExpr.TraitParted]
  | .group element, formed => by
    simp [TypeExpr.settle, TypeExpr.settle_eq_iff element formed, TypeExpr.Settled,
      TypeExpr.walk, TypeExpr.TraitParted]
  | .function inputs none, formed => by
    simp [TypeExpr.settle, TypeExpr.settleOutput, TypeExpr.settleAll_eq_iff inputs formed.1.2,
      TypeExpr.Settled, TypeExpr.walk, TypeExpr.TraitParted]
  | .function inputs (some output), formed => by
    simp [TypeExpr.settle, TypeExpr.settleOutput, TypeExpr.settleAll_eq_iff inputs formed.1.2,
      TypeExpr.settle_eq_iff output formed.2.2, TypeExpr.Settled, TypeExpr.walk,
      TypeExpr.TraitParted, or_imp, forall_and]
  | .reference _ _ element, formed => by
    simp [TypeExpr.settle, TypeExpr.settle_eq_iff element formed.2.1.2, TypeExpr.Settled,
      TypeExpr.walk, TypeExpr.TraitParted]
  | .pointer _ element, formed => by
    simp [TypeExpr.settle, TypeExpr.settle_eq_iff element formed.2, TypeExpr.Settled,
      TypeExpr.walk, TypeExpr.TraitParted]
  | .implTrait bounds, formed | .traitObject bounds, formed => by
    simp [TypeExpr.settle, TypeExpr.settleAll_eq_iff bounds formed.2.1, TypeExpr.Settled,
      TypeExpr.walk, TypeExpr.TraitParted]

theorem TypeExpr.settleAll_eq_iff {strict : Prop} : (exprs : List TypeExpr) →
    TypeExpr.WellFormedAll strict exprs →
      (TypeExpr.settleAll exprs = exprs ↔ ∀ node ∈ TypeExpr.walkAll exprs, node.TraitParted)
  | [], _ => by simp [TypeExpr.settleAll, TypeExpr.walkAll]
  | expr :: rest, formed => by
    have first := TypeExpr.settle_eq_iff expr formed.1
    simp only [TypeExpr.Settled] at first
    simp only [TypeExpr.settleAll, TypeExpr.walkAll, List.cons.injEq, first,
      TypeExpr.settleAll_eq_iff rest formed.2, List.forall_mem_append]

theorem Segment.settle_eq_iff {strict : Prop} : (segment : Segment) → segment.WellFormed strict →
    (segment.settle = segment ↔ ∀ node ∈ segment.walk, node.TraitParted)
  | .plain _, _ => by simp [Segment.settle, Segment.walk]
  | .angle _ arguments, formed => by
    simp [Segment.settle, Segment.walk, Argument.settleAll_eq_iff arguments formed.2]
  | .call _ inputs none, formed => by
    simp [Segment.settle, Segment.walk, TypeExpr.settleOutput,
      TypeExpr.settleAll_eq_iff inputs formed.2.1.2]
  | .call _ inputs (some output), formed => by
    have last := TypeExpr.settle_eq_iff output formed.2.2.2
    simp only [TypeExpr.Settled] at last
    simp only [Segment.settle, Segment.walk, TypeExpr.settleOutput, Segment.call.injEq, true_and,
      Option.some.injEq, TypeExpr.settleAll_eq_iff inputs formed.2.1.2, last,
      List.forall_mem_append]

theorem Segment.settleAll_eq_iff {strict : Prop} : (segments : List Segment) →
    Segment.WellFormedAll strict segments →
      (Segment.settleAll segments = segments ↔
        ∀ node ∈ Segment.walkAll segments, node.TraitParted)
  | [], _ => by simp [Segment.settleAll, Segment.walkAll]
  | segment :: rest, formed => by
    simp only [Segment.settleAll, Segment.walkAll, List.cons.injEq,
      Segment.settle_eq_iff segment formed.1, Segment.settleAll_eq_iff rest formed.2,
      List.forall_mem_append]

theorem Argument.settle_eq_iff {strict : Prop} : (argument : Argument) →
    argument.WellFormed strict →
      (argument.settle = argument ↔ ∀ node ∈ argument.walk, node.TraitParted)
  | .type type, formed => by
    have inner := TypeExpr.settle_eq_iff type formed.2
    simp only [TypeExpr.Settled] at inner
    simp only [Argument.settle, Argument.walk, Argument.type.injEq, inner]
  | .binding _ value, formed => by
    have inner := TypeExpr.settle_eq_iff value formed.2.2
    simp only [TypeExpr.Settled] at inner
    simp only [Argument.settle, Argument.walk, Argument.binding.injEq, true_and, inner]
  | .constraint _ bounds, formed => by
    simp only [Argument.settle, Argument.walk, Argument.constraint.injEq, true_and,
      TypeExpr.settleAll_eq_iff bounds formed.2.2.1]

theorem Argument.settleAll_eq_iff {strict : Prop} : (arguments : List Argument) →
    Argument.WellFormedAll strict arguments →
      (Argument.settleAll arguments = arguments ↔
        ∀ node ∈ Argument.walkAll arguments, node.TraitParted)
  | [], _ => by simp [Argument.settleAll, Argument.walkAll]
  | argument :: rest, formed => by
    simp only [Argument.settleAll, Argument.walkAll, List.cons.injEq,
      Argument.settle_eq_iff argument formed.1, Argument.settleAll_eq_iff rest formed.2,
      List.forall_mem_append]

end

end CowView
