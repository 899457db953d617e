import Mathlib.Data.Prod.Basic
import CowView.Proofs.Generation
import CowView.Proofs.RoundTrip
import CowView.Proofs.UnitRoundTrip
import CowView.Proofs.Termination
import CowView.Proofs.ViewTypes

/-!
What generation prints is read again. All types that are written into generated classes come from types that the
parser gave, by replacing `Self` and by what the strategies do to them, so their renderings are read to the end
(`readUnit_prints`). The bound clauses that strategies require are read back as they are written, when each stands
alone in an annotation.
-/

namespace CowView

open TokenStream

/-! ### Reading units -/

def Token.Delivered (token : Token) : Prop := token.bare.Lexed ∨ token.bare = .last

theorem TypeOf.forms {type : TypeExpr} (read : TypeOf Token.Delivered type) (clean : type.firstVerbatim? = none) :
    type.FormsType := by
  obtain ⟨stream, left, holds, own⟩ := read
  have lexed : stream.Lexed := holds.token
  exact (((sound .verbatimFree _).type lexed own).2 clean).1

theorem NameOf.isWord {name : String} (named : NameOf Token.Delivered name) : (BareToken.name name).IsWord := by
  obtain ⟨token, own, kind, rfl⟩ := named
  rcases own with lexed | last
  · have isWord := lexed.isWord (by simp [Token.bare, kind])
    rwa [Token.bare, kind] at isWord
  · cases kind.symm.trans (congrArg BareToken.kind last)

theorem LifetimeOf.isWord {duration : Lifetime} (spelled : LifetimeOf Token.Delivered duration) :
    (BareToken.lifetime duration).IsWord := by
  obtain ⟨token, own, kind, marked⟩ := spelled
  rcases own with lexed | last
  · have isWord := lexed.isWord (by simp [Token.bare, kind])
    obtain ⟨other, found, same⟩ := isWord.ofMarked? kind
    rw [show token.bare.value = token.value from rfl, marked] at found
    cases found
    rwa [← same]
  · cases kind.symm.trans (congrArg BareToken.kind last)

theorem readUnit_delivered {text : String} {registry : List Declaration} {state : UnitState}
    (read : readUnit text registry = (none, state)) : ∀ declaration ∈ state.declared,
      declaration.WellNamed (NameOf Token.Delivered) ∧ declaration.ReadFrom Token.Delivered :=
  readUnit_holds (fun _ member => .inl (lexed_of_mem_ofText member)) (fun _ => .inr rfl) read

/-- The words that start no path where a type is expected, or that mark a reference. -/
def typeWords : List String := ["fn", "impl", "dyn", "mut"]

theorem PublicName.notMem_reserved {isMember : Bool} {name : String} (shown : PublicName isMember name)
    (free : name ∉ typeWords) : name ∉ TypeExpr.reserved := by
  intro member
  simp only [TypeExpr.reserved, List.mem_cons, List.not_mem_nil, or_false] at member
  simp only [typeWords, List.mem_cons, List.not_mem_nil, or_false, not_or] at free
  rcases member with rfl | rfl | rfl | rfl
  · exact shown.shown rfl
  · exact free.1 rfl
  · exact free.2.1 rfl
  · exact free.2.2.1 rfl

structure Declaration.FreeOfTypeWords (declaration : Declaration) : Prop where
  name : declaration.name ∉ typeWords
  parameters : ∀ parameter ∈ declaration.typeParameters, parameter.name ∉ typeWords

theorem Declaration.standsForSelf {declaration : Declaration} (named : declaration.WellNamed (NameOf Token.Delivered))
    (own : declaration.ReadFrom Token.Delivered) (free : declaration.FreeOfTypeWords) :
    declaration.signature.StandsForSelf False := by
  refine standsForSelf_signature named.word.isWord (named.shown.notMem_reserved free.name) ?_ fun parameter member => ?_
  · rintro same
    exact free.name (by simp [same, typeWords])
  · have spelled := own.parameters parameter member
    have shown := named.parameters parameter member
    cases parameter with
    | type name bounds =>
      refine ⟨shown.2.isWord, shown.1.notMem_reserved ?_⟩
      exact free.parameters (.type name bounds) (List.mem_filter.mpr ⟨member, rfl⟩)
    | lifetime duration bounds => exact spelled.isWord
    | constant => trivial

/-! ### Clauses -/

theorem Spells.inWords {text : String} {words : List BareToken} (spells : Spells text words) : InWords text words := by
  obtain ⟨placed, after, lexed, same, solid⟩ := spells.lexed
  exact ⟨placed, ⟨after, lexed⟩, same, solid⟩

def ReadsAlone (clause : String) : Prop :=
  ∀ attribution, ∃ mark left, Annotation.parse attribution (TokenStream.ofText ("@butcher(" ++ clause ++ ")")) =
    .ok mark left ∧ mark.strategy = none ∧ mark.clauses = [clause] ∧ left.words = []

theorem wording_render {type : TypeExpr} (forms : type.FormsType) :
    Wording TypeExpr.parse type.settle type.words := by
  obtain ⟨after, read⟩ := TypeExpr.parse_render forms.1 forms.2
  exact ⟨type.render, _, (type.spells forms.2).inWords, read, rfl⟩

theorem spells_capabilities {capabilities : List TypeExpr} (forms : TypeExpr.FormBounds capabilities) :
    Spells (Text.join " + " (capabilities.map TypeExpr.render))
      (BareToken.join .plus (TypeExpr.wordsAll capabilities)) := by
  rw [← TypeExpr.renderAll_eq_map]
  exact spells_join separates_plus (TypeExpr.spellsAll capabilities forms.2.1)

theorem wording_capabilities {capabilities : List TypeExpr} (forms : TypeExpr.FormBounds capabilities) :
    Wording TypeExpr.parseBounds (TypeExpr.settleAll capabilities)
      (BareToken.join .plus (TypeExpr.wordsAll capabilities)) := by
  obtain ⟨after, read⟩ := TypeExpr.parseBounds_render forms
  exact ⟨_, _, (spells_capabilities forms).inWords, read, rfl⟩

theorem clause_settle {subject : TypeExpr} {capabilities : List TypeExpr} (forms : subject.FormsType)
    (bounds : TypeExpr.FormBounds capabilities) :
    Strategy.clause subject.settle (TypeExpr.settleAll capabilities) = Strategy.clause subject capabilities := by
  have each := TypeExpr.settlesEach capabilities bounds.2.1
  rw [Strategy.clause, Strategy.clause, (subject.settles forms.2).text, ← TypeExpr.renderAll_eq_map,
    ← TypeExpr.renderAll_eq_map, TypeExpr.renderAll_settleAll each]

theorem spells_clause {subject : TypeExpr} {capabilities : List TypeExpr} (forms : subject.FormsType)
    (bounds : TypeExpr.FormBounds capabilities) : Spells (Strategy.clause subject capabilities)
      (subject.words ++ .symbol .colon :: BareToken.join .plus (TypeExpr.wordsAll capabilities)) := by
  have joined := spells_join separates_colon
    (.cons (subject.spells forms.2) (.cons (spells_capabilities bounds) .nil))
  simpa only [Strategy.clause, Text.join, BareToken.join] using joined

theorem spells_annotated {clause : String} {words : List BareToken} (spells : Spells clause words) :
    Spells ("@butcher(" ++ clause ++ ")")
      ( Annotation.bareWords ++ .symbol .openParen :: (words ++ [.symbol .closeParen])) := by
  have isWord : (BareToken.name "butcher").IsWord := isWord_of_isName (by decide +kernel)
  have call := spells_call isWord spells spells_nil
  intro rest tokens apart spelled
  have whole := Spelled.mark .atSign (by decide) (by decide) (call rest tokens apart spelled)
  simpa [ Annotation.bareWords, Annotation.keyword, TokenKind.spelling] using whole

theorem readsAlone_clause {subject : TypeExpr} {capabilities : List TypeExpr} (forms : subject.FormsType)
    (bounds : TypeExpr.FormBounds capabilities) : ReadsAlone (Strategy.clause subject capabilities) := by
  intro attribution
  have item := Annotation.Item.Written.typeClause (wording_render forms) (wording_capabilities bounds)
  rw [clause_settle forms bounds] at item
  have shown := (spells_annotated (spells_clause forms bounds)).inWords.shows
  rw [← List.append_nil (_ ++ _)] at shown
  have written : Annotation.Written none [Strategy.clause subject capabilities] _ := .listed (.last item)
  have moves : Comes (α := Annotation) _ [] ( Annotation.parse attribution _) :=
    Annotation.moves_parse written (by simp [ Annotation.bareWords]) (fun _ => by decide) _ shown
  generalize "@butcher(" ++ Strategy.clause subject capabilities ++ ")" = text at moves ⊢
  -- There are as many steps as lexemes, so they do not run out.
  have ended : Ended true (TokenStream.ofText text).extent ( Annotation.parse attribution (TokenStream.ofText text)) :=
    Annotation.ends_parse _ (sane_ofText text) (Nat.le_refl _)
  cases run : Annotation.parse attribution (TokenStream.ofText text) with
  | ok mark left =>
    rw [run] at moves
    obtain ⟨⟨strategy, clauses⟩, finished⟩ := moves
    exact ⟨mark, left, rfl, strategy, clauses, finished.words⟩
  | error fault left =>
    rw [run] at moves ended
    have dry : fault = .outOfSteps := moves
    subst dry
    exact absurd ended.1 id

/-! ### What is printed -/

def TypeExpr.ReadsBack (type : TypeExpr) : Prop :=
  ∃ back after, TypeExpr.parse (TokenStream.ofText type.render) = .ok back ⟨[], .finished after, ""⟩ ∧
    (back = type ↔ type.Settled)

theorem TypeExpr.FormsType.readsBack {type : TypeExpr} (forms : type.FormsType) : type.ReadsBack := by
  obtain ⟨after, read⟩ := TypeExpr.parse_render forms.1 forms.2
  exact ⟨type.settle, after, read, type.settle_eq_iff forms.2⟩

/-- The two types that are printed for a field, and what its strategy requires, are read again. The types are
the ones that were printed if the type in the text was settled. -/
structure FieldView.PrintsReadably (settings : Settings) (field : FieldView) : Prop where
  source : field.source.ReadsBack
  view : field.view.ReadsBack
  sourceSettled : field.source.Settled ↔ field.field.type.Settled
  viewSettled : field.field.type.Settled → field.view.Settled
  clauses : ∀ clause ∈ field.field.strategy.clauses field.source settings.lifetime, ReadsAlone clause

structure View.PrintsReadably (settings : Settings) (view : View) : Prop where
  signature : ∃ after, TypeExpr.parse (TokenStream.ofText view.signature.render) =
    .ok view.signature ⟨[], .finished after, ""⟩
  fields : ∀ field ∈ view.body.fields, field.PrintsReadably settings

section

variable {settings : Settings} {owner : Declaration}

theorem printsReadably_resolvedField (isWord : (BareToken.lifetime settings.lifetime).IsWord)
    (stands : owner.signature.StandsForSelf False) {field : Field} (forms : field.type.FormsType) :
    (View.resolvedField settings owner field).PrintsReadably settings := by
  let source := TypeExpr.substituteSelf owner.signature field.type
  have own : source.FormsType :=
    ⟨TypeExpr.isType_substituteSelf stands _ forms.1, TypeExpr.wellFormed_substituteSelf stands _ forms.2⟩
  have same : source.Settled ↔ field.type.Settled := TypeExpr.settled_substituteSelf_iff stands _
  refine ⟨own.readsBack, (Strategy.forms_viewType isWord own).readsBack, same, fun settled => ?_, ?_⟩
  · exact Strategy.settled_viewType (same.mpr settled)
  · intro clause member
    obtain ⟨⟨subject, capabilities⟩, required, rfl⟩ := List.mem_map.mp member
    obtain ⟨subjectForms, bounds⟩ := Strategy.forms_requirements isWord own _ required
    exact readsAlone_clause subjectForms bounds

theorem printsReadably_resolved (isWord : (BareToken.lifetime settings.lifetime).IsWord)
    (stands : owner.signature.StandsForSelf False) (forms : ∀ field ∈ owner.fields, field.type.FormsType) :
    (View.resolved settings owner).PrintsReadably settings := by
  constructor
  · obtain ⟨after, read⟩ := TypeExpr.parse_render stands.isType stands.formed
    rw [(TypeExpr.settle_eq_iff _ stands.formed).mpr stands.settled] at read
    exact ⟨after, read⟩
  · intro field member
    rw [View.resolved, View.fields_resolvedBody] at member
    obtain ⟨declared, known, rfl⟩ := List.mem_map.mp member
    exact printsReadably_resolvedField isWord stands (forms declared known)

end

/-- No field of an accepted unit holds verbatim text. -/
theorem View.firstVerbatim?_eq_none {settings : Settings} {declarations : List Declaration} {views : List View}
    (accepted : View.resolveAll settings declarations = .ok views) {owner : Declaration} (declared : owner ∈ declarations)
    {field : Field} (member : field ∈ owner.fields) : field.type.firstVerbatim? = none := by
  rw [View.resolveAll_eq] at accepted
  cases first : View.firstFault? (View.ownedFields declarations) with
  | some fault => simp [first] at accepted
  | none =>
    have clean := (Context.firstFault?_eq_none_iff _).mp first
    have own : (owner, field) ∈ View.ownedFields declarations :=
      List.mem_flatMap.mpr ⟨owner, declared, List.mem_map_of_mem member⟩
    exact (TypeExpr.firstVerbatim?_eq_none_iff _).mpr (clean _ own)

/-- What an accepted unit prints is in the language of types: signatures are read as they are, the types of fields
and views are read to the end, and so is each clause that a strategy requires. -/
theorem readUnit_prints {text : String} {registry : List Declaration} {state : UnitState} {settings : Settings}
    {views : List View} (read : readUnit text registry = (none, state))
    (accepted : View.resolveAll settings state.declared = .ok views)
    (isWord : (BareToken.lifetime settings.lifetime).IsWord)
    (free : ∀ declaration ∈ state.declared, declaration.FreeOfTypeWords) :
    ∀ view ∈ views, view.PrintsReadably settings := by
  intro view member
  obtain ⟨rfl, -⟩ := View.resolveAll_eq_ok settings accepted
  obtain ⟨owner, declared, rfl⟩ := List.mem_map.mp member
  obtain ⟨named, own⟩ := readUnit_delivered read owner declared
  refine printsReadably_resolved isWord (Declaration.standsForSelf named own (free owner declared)) ?_
  intro field known
  exact (own.types field known).forms (View.firstVerbatim?_eq_none accepted declared known)

theorem exists_of_readUnit (text : String) (good : UnitState → Prop)
    (run : (readUnit text []).1 = none ∧ good (readUnit text []).2) :
    ∃ state, readUnit text [] = (none, state) ∧ good state :=
  ⟨_, Prod.fst_eq_iff.mp run.1, run.2⟩

theorem readUnit_prints_nested : ∃ state views,
    readUnit "record R<'a, T>(@butcher(flatten) Vec<Self>, @butcher(unbox) Box<&'a <T as A>::B>)" [] = (none, state) ∧
    View.resolveAll .default state.declared = .ok views ∧
    (BareToken.lifetime Settings.default.lifetime).IsWord ∧
    (∀ declaration ∈ state.declared, declaration.FreeOfTypeWords) ∧
    ∀ view ∈ views, view.PrintsReadably .default := by
  obtain ⟨state, read, accepted, words⟩ := exists_of_readUnit
    "record R<'a, T>(@butcher(flatten) Vec<Self>, @butcher(unbox) Box<&'a <T as A>::B>)"
    (fun state => View.resolveAll .default state.declared = .ok (state.declared.map (View.resolved .default)) ∧
      ∀ declaration ∈ state.declared, declaration.name ∉ typeWords ∧
        ∀ parameter ∈ declaration.typeParameters, parameter.name ∉ typeWords) (by decide +kernel)
  have isWord : (BareToken.lifetime Settings.default.lifetime).IsWord :=
    .lifetime (by decide) (List.all_eq_true.mp (by decide +kernel : ['c', 'o', 'w'].all Lexer.isWordCharacter = true))
  have free : ∀ declaration ∈ state.declared, declaration.FreeOfTypeWords :=
    fun declaration member => ⟨(words declaration member).1, (words declaration member).2⟩
  exact ⟨state, _, read, accepted, isWord, free, readUnit_prints read accepted isWord free⟩

/-- Where the type of a field is not settled, what is printed for it is read as another type. -/
theorem readUnit_prints_other : ∃ state views,
    readUnit "record R<T, U, A>(<T as <U as Fn() -> A>::W>::X)" [] = (none, state) ∧
    View.resolveAll .default state.declared = .ok views ∧
    ∃ view ∈ views, ∃ field ∈ view.body.fields, ∃ back,
      TypeExpr.ofText? field.view.render = some back ∧ back ≠ field.view := by
  let back := TypeExpr.cow ⟨"cow"⟩ (.qualified (.named "T") 1
    (.call "Fn" [] (some (.path (.plain "A") [.plain "W"]))) [.plain "X"])
  obtain ⟨state, read, accepted, view, member, field, known, again, differs⟩ := exists_of_readUnit
    "record R<T, U, A>(<T as <U as Fn() -> A>::W>::X)"
    (fun state => View.resolveAll .default state.declared = .ok (state.declared.map (View.resolved .default)) ∧
      ∃ view ∈ state.declared.map (View.resolved .default), ∃ field ∈ view.body.fields,
        TypeExpr.ofText? field.view.render = some back ∧ back ≠ field.view) (by decide +kernel)
  exact ⟨state, _, read, accepted, view, member, field, known, back, again, differs⟩

end CowView
