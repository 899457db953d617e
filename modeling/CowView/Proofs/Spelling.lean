import CowView.Proofs.Grammar
import Mathlib.Data.List.Forall2

/-!
The rendering of a well-formed expression is read as its tokens: `TypeExpr.spells`. Nothing that is
rendered next to something else melts into it, since a rendering never puts two words side by side.
-/

namespace CowView

open Text

/-! ### Separators -/

def Separates (separator : String) (kind : TokenKind) : Prop :=
  StartsApart separator.toList ∧ separator.toList ≠ [] ∧
    ∀ (rest : List Char) (tokens : List BareToken), Spelled rest tokens →
      Spelled (separator.toList ++ rest) (.symbol kind :: tokens)

theorem startsApart_append {front : List Char} (apart : StartsApart front) (shown : front ≠ [])
    (rest : List Char) : StartsApart (front ++ rest) := by
  cases front with
  | nil => exact absurd rfl shown
  | cons first front => exact apart

theorem startsApart_space (rest : List Char) : StartsApart (' ' :: rest) :=
  Lexer.isWordCharacter_eq_false (by decide)

theorem startsApart_spelling {kind : TokenKind} (isSymbol : kind ∈ TokenKind.symbols)
    (rest : List Char) : StartsApart (kind.spelling.toList ++ rest) := by
  obtain ⟨first, others, spelling, -, -, stop⟩ := Lexer.spelling_eq_cons isSymbol
  rw [spelling]
  exact Lexer.isWordCharacter_eq_false stop

theorem Spelled.space {rest : List Char} {tokens : List BareToken} (later : Spelled rest tokens) :
    Spelled (' ' :: rest) tokens := .blank (by decide) later

/-- A symbol that is no colon may stand in front of everything. -/
theorem Spelled.mark (kind : TokenKind) (isSymbol : kind ∈ TokenKind.symbols)
    (plain : kind ≠ .colon) {rest : List Char} {tokens : List BareToken}
    (later : Spelled rest tokens) :
    Spelled (kind.spelling.toList ++ rest) (.symbol kind :: tokens) :=
  .symbol isSymbol (fun colon => absurd colon plain) later

theorem separates_comma : Separates ", " .comma :=
  ⟨by decide +kernel, by decide, fun _ _ later => .mark .comma (by decide) (by decide) later.space⟩

theorem separates_plus : Separates " + " .plus :=
  ⟨by decide +kernel, by decide, fun _ _ later =>
    (Spelled.mark .plus (by decide) (by decide) later.space).space⟩

theorem separates_doubleColon : Separates "::" .doubleColon :=
  ⟨by decide +kernel, by decide, fun _ _ later => .mark .doubleColon (by decide) (by decide) later⟩

theorem separates_equals : Separates " = " .equals :=
  ⟨by decide +kernel, by decide, fun _ _ later =>
    (Spelled.mark .equals (by decide) (by decide) later.space).space⟩

/-- The colon of a constraint has a blank behind it, so that it is no part of a double colon. -/
theorem separates_colon : Separates ": " .colon := by
  refine ⟨by decide +kernel, by decide, fun rest tokens later => ?_⟩
  have single : TokenKind.colon = .colon → (' ' :: rest).head? ≠ some ':' := fun _ => by simp
  exact .symbol (by decide) single later.space

theorem separates_lessThan : Separates "<" .lessThan :=
  ⟨by decide +kernel, by decide, fun _ _ later => .mark .lessThan (by decide) (by decide) later⟩

theorem spells_join {separator : String} {kind : TokenKind} (separates : Separates separator kind)
    {texts : List String} {parts : List (List BareToken)} (all : List.Forall₂ Spells texts parts) :
    Spells (Text.join separator texts) (BareToken.join kind parts) := by
  induction all with
  | nil => exact fun _ _ _ spelled => spelled
  | @cons text part texts parts first others ih =>
    cases others with
    | nil => exact first
    | @cons text' part' texts parts second others =>
      intro rest tokens apart spelled
      have later := separates.2.2 _ _ (ih rest tokens apart spelled)
      have whole := first _ _ (startsApart_append separates.1 separates.2.1 _) later
      simpa [Text.join_cons_cons, BareToken.join] using whole

/-! ### Expressions -/

theorem spells_word {text : String} {kind : TokenKind} (isWord : BareToken.IsWord ⟨kind, text⟩) :
    Spells text [⟨kind, text⟩] :=
  fun _ _ apart spelled => .word isWord apart spelled

theorem spells_measure {text : String} (isWord : (BareToken.measure text).IsWord) :
    Spells text [BareToken.measure text] := by
  unfold BareToken.measure at *
  split at isWord
  next digit =>
    rw [if_pos digit]
    exact spells_word isWord
  next noDigit =>
    rw [if_neg noDigit]
    exact spells_word isWord


theorem isWord_name (text : String) (first : Char) (rest : List Char)
    (shown : text.toList = first :: rest) (noDigit : isDigit first = false)
    (start : Lexer.startsName first = true)
    (word : ∀ character ∈ rest, Lexer.isWordCharacter character) :
    (BareToken.name text).IsWord := by
  have same : text = String.ofList (first :: rest) := by rw [← shown, String.ofList_toList]
  rw [BareToken.name, same]
  exact .identifier noDigit start word

def BareToken.isName (text : String) : Bool :=
  match text.toList with
  | first :: rest => !isDigit first && Lexer.startsName first && rest.all Lexer.isWordCharacter
  | [] => false

theorem isWord_of_isName {text : String} (fits : BareToken.isName text = true) : (BareToken.name text).IsWord := by
  unfold BareToken.isName at fits
  split at fits
  next first rest shown =>
    simp only [Bool.and_eq_true, Bool.not_eq_true', List.all_eq_true] at fits
    exact isWord_name text first rest shown fits.1.1 fits.1.2 fits.2
  · cases fits

theorem isWord_keyword : ∀ text ∈ ["as", "mut", "const", "fn", "impl", "dyn", "_"],
    (BareToken.name text).IsWord := by
  have all : ∀ text ∈ ["as", "mut", "const", "fn", "impl", "dyn", "_"], BareToken.isName text = true := by
    decide +kernel
  exact fun text member => isWord_of_isName (all text member)

theorem Spelled.keyword {text : String}
    (member : text ∈ ["as", "mut", "const", "fn", "impl", "dyn", "_"]) {rest : List Char}
    {tokens : List BareToken} (later : Spelled rest tokens) :
    Spelled (text.toList ++ ' ' :: rest) (.name text :: tokens) :=
  .word (isWord_keyword text member) (startsApart_space rest) later.space

theorem spells_qualified {subject : String} {subjectWords : List BareToken} {position : Int}
    {texts : List String} {parts : List (List BareToken)} (first : Spells subject subjectWords)
    (all : List.Forall₂ Spells texts parts) (low : 0 ≤ position)
    (high : position.toNat < texts.length) :
    Spells (TypeExpr.renderQualified subject position texts)
      (BareToken.qualified subjectWords position parts) := by
  intro rest tokens apart spelled
  have cut : TypeExpr.cut position texts.length = position.toNat := if_pos low
  have remaining := spells_join separates_doubleColon (List.forall₂_drop position.toNat all)
    rest tokens apart spelled
  obtain ⟨text, others, shown⟩ : ∃ text others, texts.drop position.toNat = text :: others := by
    refine List.exists_cons_of_ne_nil ?_
    rw [Ne, List.drop_eq_nil_iff]
    omega
  rw [shown] at remaining
  have closing := Spelled.mark .greaterThan (by decide) (by decide)
    (Spelled.mark .doubleColon (by decide) (by decide) remaining)
  have trait := spells_join separates_doubleColon (List.forall₂_take position.toNat all)
    _ _ (startsApart_spelling (by decide) _) closing
  by_cases named : 0 < position
  · have opening := Spelled.mark .lessThan (by decide) (by decide)
      (first _ _ (startsApart_space _)
        (Spelled.keyword (by decide : "as" ∈ ["as", "mut", "const", "fn", "impl", "dyn", "_"])
          trait).space)
    simpa [TypeExpr.renderQualified, BareToken.qualified, cut, shown, named, Text.join_cons_cons,
      TokenKind.spelling] using opening
  · have opening := Spelled.mark .lessThan (by decide) (by decide)
      (first _ _ (startsApart_spelling (by decide) _) closing)
    simpa [TypeExpr.renderQualified, BareToken.qualified, cut, shown, named, Text.join_cons_cons,
      TokenKind.spelling] using opening

theorem spells_closed {text : String} {words : List BareToken} (closing : TokenKind)
    (isClosing : closing ∈ TokenKind.symbols ∧ closing ≠ .colon) (inner : Spells text words) :
    Spells (text ++ closing.spelling) (words ++ [.symbol closing]) := by
  intro rest tokens apart spelled
  have whole := inner _ _ (startsApart_spelling isClosing.1 _)
    (Spelled.mark closing isClosing.1 isClosing.2 spelled)
  simpa using whole

theorem spells_enclosed {text : String} {words : List BareToken} (opening closing : TokenKind)
    (isOpening : opening ∈ TokenKind.symbols ∧ opening ≠ .colon)
    (isClosing : closing ∈ TokenKind.symbols ∧ closing ≠ .colon) (inner : Spells text words) :
    Spells (opening.spelling ++ text ++ closing.spelling)
      (.symbol opening :: (words ++ [.symbol closing])) := by
  intro rest tokens apart spelled
  have whole := Spelled.mark opening isOpening.1 isOpening.2
    (spells_closed closing isClosing inner rest tokens apart spelled)
  simpa using whole

theorem spells_call {name inputs output : String} {inputWords outputWords : List BareToken}
    (isName : (BareToken.name name).IsWord) (first : Spells inputs inputWords)
    (second : Spells output outputWords) :
    Spells (name ++ "(" ++ inputs ++ ")" ++ output)
      (.name name :: .symbol .openParen ::
        (inputWords ++ .symbol .closeParen :: outputWords)) := by
  intro rest tokens apart spelled
  have closing := Spelled.mark .closeParen (by decide) (by decide)
    (second rest tokens apart spelled)
  have opening := Spelled.mark .openParen (by decide) (by decide)
    (first _ _ (startsApart_spelling (by decide) _) closing)
  have whole := Spelled.word isName (startsApart_spelling (by decide) _) opening
  simpa [BareToken.name, TokenKind.spelling] using whole

theorem spells_nil : Spells "" [] := fun _ _ _ spelled => spelled

theorem spells_arrow {text : String} {words : List BareToken} (inner : Spells text words) :
    Spells (" -> " ++ text) (.symbol .arrow :: words) := by
  intro rest tokens apart spelled
  have whole := (Spelled.mark .arrow (by decide) (by decide)
    (inner rest tokens apart spelled).space).space
  simpa [TokenKind.spelling] using whole

/-- A word of the grammar, a blank and something else. -/
theorem spells_keyword {text : String} {words : List BareToken} (keyword : String)
    (member : keyword ∈ ["as", "mut", "const", "fn", "impl", "dyn", "_"])
    (inner : Spells text words) : Spells (keyword ++ " " ++ text) (.name keyword :: words) := by
  intro rest tokens apart spelled
  simpa using Spelled.keyword member (inner rest tokens apart spelled)

theorem spells_named {name separator text : String} {kind : TokenKind} {words : List BareToken}
    (separates : Separates separator kind) (isName : (BareToken.name name).IsWord)
    (inner : Spells text words) :
    Spells (name ++ separator ++ text) (.name name :: .symbol kind :: words) := by
  intro rest tokens apart spelled
  have whole := Spelled.word isName (startsApart_append separates.1 separates.2.1 _)
    (separates.2.2 _ _ (inner rest tokens apart spelled))
  simpa [BareToken.name] using whole

theorem Segment.length_renderAll (segments : List Segment) :
    (Segment.renderAll segments).length = segments.length := by
  induction segments with
  | nil => rfl
  | cons segment rest ih => rw [renderAll, List.length_cons, List.length_cons, ih]

namespace TypeExpr

variable {element : TypeExpr}

theorem spells_array {length : String} (inner : Spells element.render element.words)
    (measure : Spells length [.measure length]) :
    Spells (array element length).render (array element length).words := by
  intro rest tokens apart spelled
  have closing := measure _ _ (startsApart_spelling (by decide) _)
    (Spelled.mark .closeSquare (by decide) (by decide) spelled)
  have whole := Spelled.mark .openSquare (by decide) (by decide)
    (inner _ _ (startsApart_spelling (by decide) _)
      (.mark .semicolon (by decide) (by decide) closing.space))
  simpa [render, words, TokenKind.spelling] using whole

theorem spells_reference {duration : Option Lifetime} {isMutable : Bool}
    (isWord : ∀ spelled ∈ duration, (BareToken.lifetime spelled).IsWord) (inner : Spells element.render element.words) :
    Spells (reference duration isMutable element).render (reference duration isMutable element).words := by
  have target : Spells ((if isMutable then "mut " else "") ++ element.render)
      ((if isMutable then [.name "mut"] else []) ++ element.words) := by
    cases isMutable with
    | true => exact spells_keyword "mut" (by decide) inner
    | false => simpa using inner
  intro rest tokens apart spelled
  cases duration with
  | none =>
    have whole := Spelled.mark .ampersand (by decide) (by decide) (target rest tokens apart spelled)
    simpa [render, words, TokenKind.spelling] using whole
  | some duration =>
    have whole := Spelled.mark .ampersand (by decide) (by decide)
      (.word (isWord duration rfl) (startsApart_space _) (target rest tokens apart spelled).space)
    simpa [render, words, TokenKind.spelling, BareToken.lifetime] using whole

theorem spells_pointer {isMutable : Bool} (inner : Spells element.render element.words) :
    Spells (pointer isMutable element).render (pointer isMutable element).words := by
  have target : Spells ((if isMutable then "mut " else "const ") ++ element.render)
      (.name (if isMutable then "mut" else "const") :: element.words) := by
    cases isMutable with
    | true => exact spells_keyword "mut" (by decide) inner
    | false => exact spells_keyword "const" (by decide) inner
  intro rest tokens apart spelled
  have whole := Spelled.mark .star (by decide) (by decide) (target rest tokens apart spelled)
  cases isMutable <;> simpa [render, words, TokenKind.spelling] using whole

end TypeExpr

mutual

theorem TypeExpr.spells {strict : Prop} : (expr : TypeExpr) → expr.WellFormed strict →
    Spells expr.render expr.words
  | .lifetime _, isWord | .constant _, isWord => spells_word isWord
  | .inferred, _ => spells_word (isWord_keyword "_" (by decide))
  | .never, _ => fun _ _ _ spelled => .mark .bang (by decide) (by decide) spelled
  | .verbatim _, isOpaque => isOpaque.spells
  | .path first rest, formed =>
    spells_join separates_doubleColon
      (.cons (first.spells formed.1) (Segment.spellsAll rest formed.2.1))
  | .qualified subject position first rest, formed => by
    obtain ⟨⟨-, subjectFormed⟩, firstFormed, restFormed, ⟨low, high⟩, -⟩ := formed
    refine spells_qualified (subject.spells subjectFormed)
      (.cons (first.spells firstFormed) (Segment.spellsAll rest restFormed)) low ?_
    rw [List.length_cons, Segment.length_renderAll]
    omega
  | .array element length, formed =>
    TypeExpr.spells_array (element.spells formed.1.2) (spells_measure formed.2)
  | .slice element, formed =>
    spells_enclosed .openSquare .closeSquare (by decide) (by decide) (element.spells formed.2)
  | .tuple [], _ => spells_enclosed .openParen .closeParen (by decide) (by decide) spells_nil
  | .tuple [element], formed => by
    intro rest tokens apart spelled
    have closing := Spelled.mark .comma (by decide) (by decide)
      (.mark .closeParen (by decide) (by decide) spelled)
    have whole := Spelled.mark .openParen (by decide) (by decide)
      (element.spells formed.2.1 _ _ (startsApart_spelling (by decide) _) closing)
    simpa [TypeExpr.render, TypeExpr.words, TokenKind.spelling] using whole
  | .tuple (first :: second :: rest), formed =>
    spells_enclosed .openParen .closeParen (by decide) (by decide)
      (spells_join separates_comma (TypeExpr.spellsAll (first :: second :: rest) formed.2))
  | .group element, formed =>
    spells_enclosed .openParen .closeParen (by decide) (by decide) (element.spells formed)
  | .function inputs none, formed => by
    have whole := spells_call (isWord_keyword "fn" (by decide))
      (spells_join separates_comma (TypeExpr.spellsAll inputs formed.1.2)) spells_nil
    simpa [TypeExpr.render, TypeExpr.words, TypeExpr.outputWords, Spells] using whole
  | .function inputs (some output), formed => by
    have whole := spells_call (isWord_keyword "fn" (by decide))
      (spells_join separates_comma (TypeExpr.spellsAll inputs formed.1.2))
      (spells_arrow (output.spells formed.2.2))
    simpa [TypeExpr.render, TypeExpr.words, TypeExpr.outputWords, Spells] using whole
  | .reference _ _ element, formed =>
    TypeExpr.spells_reference formed.1 (element.spells formed.2.1.2)
  | .pointer _ element, formed => TypeExpr.spells_pointer (element.spells formed.2)
  | .implTrait bounds, formed =>
    spells_keyword "impl" (by decide)
      (spells_join separates_plus (TypeExpr.spellsAll bounds formed.2.1))
  | .traitObject bounds, formed =>
    spells_keyword "dyn" (by decide)
      (spells_join separates_plus (TypeExpr.spellsAll bounds formed.2.1))

theorem TypeExpr.spellsAll {strict : Prop} : (exprs : List TypeExpr) →
    TypeExpr.WellFormedAll strict exprs →
      List.Forall₂ Spells (TypeExpr.renderAll exprs) (TypeExpr.wordsAll exprs)
  | [], _ => .nil
  | expr :: rest, formed => .cons (expr.spells formed.1) (TypeExpr.spellsAll rest formed.2)

theorem Segment.spells {strict : Prop} : (segment : Segment) → segment.WellFormed strict →
    Spells segment.render segment.words
  | .plain _, isName => spells_word isName
  | .angle name arguments, formed => by
    have inner := spells_join separates_comma (Argument.spellsAll arguments formed.2)
    have whole := spells_named separates_lessThan formed.1
      (spells_closed .greaterThan (by decide) inner)
    simpa [Segment.render, Segment.words, TokenKind.spelling, String.append_assoc] using whole
  | .call name inputs none, formed => by
    have whole := spells_call formed.1
      (spells_join separates_comma (TypeExpr.spellsAll inputs formed.2.1.2)) spells_nil
    simpa [Segment.render, Segment.words, TypeExpr.outputWords, Spells] using whole
  | .call name inputs (some output), formed => by
    have whole := spells_call formed.1
      (spells_join separates_comma (TypeExpr.spellsAll inputs formed.2.1.2))
      (spells_arrow (output.spells formed.2.2.2))
    simpa [Segment.render, Segment.words, TypeExpr.outputWords, Spells] using whole

theorem Segment.spellsAll {strict : Prop} : (segments : List Segment) →
    Segment.WellFormedAll strict segments →
      List.Forall₂ Spells (Segment.renderAll segments) (Segment.wordsAll segments)
  | [], _ => .nil
  | segment :: rest, formed => .cons (segment.spells formed.1) (Segment.spellsAll rest formed.2)

theorem Argument.spells {strict : Prop} : (argument : Argument) → argument.WellFormed strict →
    Spells argument.render argument.words
  | .type type, formed => type.spells formed.2
  | .binding _ value, formed => spells_named separates_equals formed.1 (value.spells formed.2.2)
  | .constraint _ bounds, formed => by
    have inner := spells_join separates_plus (TypeExpr.spellsAll bounds formed.2.2.1)
    exact spells_named separates_colon formed.1 inner

theorem Argument.spellsAll {strict : Prop} : (arguments : List Argument) →
    Argument.WellFormedAll strict arguments →
      List.Forall₂ Spells (Argument.renderAll arguments) (Argument.wordsAll arguments)
  | [], _ => .nil
  | argument :: rest, formed => .cons (argument.spells formed.1) (Argument.spellsAll rest formed.2)

end

end CowView
