import CowView.Proofs.Soundness
import CowView.TypeExpr.Equality

/-!
What is read off the rendering of an expression that was read. The rendering is read to its end, and
gives the expression as it settles: the segments of a trait that ends in the output of another segment
move into that output, since nothing in the rendering keeps them apart.
-/

namespace CowView

open TokenStream Text

/-! ### Comments -/

theorem Lexer.isWordCharacter_slash : Lexer.isWordCharacter '/' = false :=
  Lexer.isWordCharacter_eq_false (by decide)

theorem BareToken.IsWord.commentFree {token : BareToken} (isWord : token.IsWord) :
    CommentFree token.value := by
  have apart : ∀ name : List Char, (∀ character ∈ name, Lexer.isWordCharacter character = true) →
      '/' ∉ name := by
    intro name word member
    have slash := word _ member
    rw [Lexer.isWordCharacter_slash] at slash
    cases slash
  cases isWord with
  | @identifier first rest noDigit start word =>
    rw [CommentFree, String.toList_ofList]
    refine apart _ (List.forall_mem_cons.mpr ⟨?_, word⟩)
    exact Lexer.isWordCharacter_of_startsName start
  | @number first rest digit word =>
    rw [CommentFree, String.toList_ofList]
    refine apart _ (List.forall_mem_cons.mpr ⟨?_, word⟩)
    exact Lexer.isWordCharacter_of_isDigit digit
  | @lifetime rest named word =>
    rw [CommentFree, String.toList_ofList, List.mem_cons, not_or]
    exact ⟨by decide, apart rest word⟩

theorem BareToken.Lexed.commentFree_iff {token : BareToken} (lexed : token.Lexed) :
    CommentFree token.value ↔ token.kind ≠ .comment := by
  rcases lexed with isWord | ⟨isSymbol, value⟩ | ⟨comment, slash⟩
  · refine iff_of_true isWord.commentFree fun comment => ?_
    have kind := isWord.kind_mem
    rw [comment] at kind
    exact absurd kind (by decide)
  · rw [value]
    revert isSymbol
    cases token.kind <;> decide
  · exact iff_of_false (fun plain => plain slash) (fun other => other comment)

theorem Spelled.ne_comment {characters : List Char} {tokens : List BareToken}
    (spelled : Spelled characters tokens) : ∀ token ∈ tokens, token.kind ≠ .comment := by
  induction spelled with
  | nil => nofun
  | blank isBlank later ih => exact ih
  | @symbol kind rest tokens isSymbol single later ih =>
    refine List.forall_mem_cons.mpr ⟨fun comment => ?_, ih⟩
    rw [show kind = .comment from comment] at isSymbol
    exact absurd isSymbol (by decide)
  | word isWord parted later ih =>
    exact List.forall_mem_cons.mpr
      ⟨(BareToken.Lexed.commentFree_iff (.inl isWord)).mp isWord.commentFree, ih⟩

/-! ### Reading again -/

theorem Spells.lexed {text : String} {words : List BareToken} (spells : Spells text words) :
    ∃ (placed : List Token) (after : Position), Lexeme.ofText text = (placed.map .token, .finished after) ∧
      placed.map Token.bare = words ∧ ∀ word ∈ words, word.kind ≠ .comment := by
  have spelled := spells [] [] rfl .nil
  rw [List.append_nil, List.append_nil] at spelled
  obtain ⟨placed, after, lexed, same⟩ := spelled.ofText
  exact ⟨placed, after, lexed, same, spelled.ne_comment⟩

theorem Spells.delivered {text : String} {words : List BareToken} (spells : Spells text words) :
    ∃ (placed : List Token) (after : Position), TokenStream.ofText text = delivering placed after "" ∧
      placed.map Token.bare = words ∧ ∀ token ∈ placed, token.kind ≠ .comment := by
  obtain ⟨placed, after, lexed, same, solid⟩ := spells.lexed
  refine ⟨placed, after, ?_, same, fun token member => ?_⟩
  · rw [TokenStream.ofText, lexed]
    rfl
  · exact solid token.bare (same ▸ List.mem_map_of_mem member)

theorem delivering_budget (after : Position) {placed : List Token} {words : List BareToken}
    (same : placed.map Token.bare = words) : 8 * words.length + 16 ≤ (delivering placed after "").budget := by
  simp only [budget, delivering, List.length_map, ← same]
  omega

namespace TypeExpr

/-- The whole rendering of a well-formed expression is read, and gives the expression as it settles. -/
theorem parse_render {strict : Prop} {expr : TypeExpr} (isType : expr.isType = true)
    (formed : expr.WellFormed strict) : ∃ after, parse (TokenStream.ofText expr.render) =
      .ok expr.settle ⟨[], .finished after, ""⟩ := by
  have settles := expr.settles formed
  obtain ⟨placed, after, start, same, solid⟩ := (expr.spells formed).delivered
  have enough := delivering_budget after same
  have reads := (expr.settle.readable trivial settles.formed).type (by rw [settles.isType, isType])
    (delivering placed after "").budget (by rw [settles.words]; omega)
  refine ⟨after, ?_⟩
  rw [start]
  have read := reads placed [] after "" (by rw [same, settles.words]) (by simpa using solid)
    (expr.settle.continuesAt_eq_false (by decide))
  rw [List.append_nil] at read
  exact read

theorem parseBounds_render {bounds : List TypeExpr} (forms : FormBounds bounds) :
    ∃ after, parseBounds (TokenStream.ofText (join " + " (bounds.map render))) =
      .ok (settleAll bounds) ⟨[], .finished after, ""⟩ := by
  obtain ⟨isBound, formed, some, parted⟩ := forms
  have each := settlesEach bounds formed
  have all : WellFormedAll True (settleAll bounds) := wellFormedAll_settleAll each
  have isBound' := isBound_settleAll each isBound
  have spells := spells_join separates_plus (spellsAll bounds formed)
  rw [renderAll_eq_map] at spells
  obtain ⟨placed, after, start, same, solid⟩ := spells.delivered
  have enough := delivering_budget after same
  have reads : Reads (Parser.bounds (delivering placed after "").budget) _ (settleAll bounds) _ :=
    reads_bounds (by rw [settleAll_eq_map]; simpa using some) (parted_settleAll each parted)
      (fun bound member => (readableAll trivial _ all bound member).bound (isBound' bound member))
      (by rw [wordsAll_settleAll each]; omega)
  refine ⟨after, ?_⟩
  rw [start]
  have read := reads placed [] after "" (by rw [same, wordsAll_settleAll each]) (by simpa using solid)
    ⟨by decide, lastContinuesAt_eq_false (by decide) _⟩
  rw [List.append_nil] at read
  exact read

/-- What was read off a text renders to a text that is read to its end, if no comment is inside a
macro. The same expression comes back just if it is settled. -/
theorem round_trip_iff_settled {text : String} {expr : TypeExpr} {left : TokenStream}
    (read : parse (TokenStream.ofText text) = .ok expr left) (plain : CommentFree expr.render) :
    ∃ back after, parse (TokenStream.ofText expr.render) = .ok back ⟨[], .finished after, ""⟩ ∧
      (back = expr ↔ expr.Settled) := by
  obtain ⟨-, sure⟩ := (sound .commentFree _).type (lexed_ofText text) read
  obtain ⟨⟨isType, formed⟩, -⟩ := sure plain
  obtain ⟨after, again⟩ := parse_render isType formed
  exact ⟨expr.settle, after, again, settle_eq_iff expr formed⟩

def ofText? (text : String) : Option TypeExpr :=
  match parse (TokenStream.ofText text) with
  | .ok expr _ => some expr
  | .error _ _ => none

theorem ofText?_eq_some_iff {text : String} {expr : TypeExpr} :
    ofText? text = some expr ↔ ∃ left, parse (TokenStream.ofText text) = .ok expr left := by
  unfold ofText?
  split
  next found left read => simp [read]
  next fault left read => simp [read]

theorem round_trip_reference : ∃ expr left, parse (TokenStream.ofText
      "&'a mut <[T; 4] as Iterator<Item = dyn Fn(m!(x)) -> u8 + 'a>>::Item") = .ok expr left ∧
    CommentFree expr.render ∧
    ∃ back after, parse (TokenStream.ofText expr.render) = .ok back ⟨[], .finished after, ""⟩ ∧
      (back = expr ↔ expr.Settled) := by
  let expr : TypeExpr := .reference (some ⟨"a"⟩) true (.qualified (.array (.named "T") "4") 1
    (.angle "Iterator" [.binding "Item" (.traitObject [.path (.call "Fn" [.verbatim "m!(x)"]
      (some (.named "u8"))) [], .lifetime ⟨"a"⟩])]) [.plain "Item"])
  have shown : ofText? "&'a mut <[T; 4] as Iterator<Item = dyn Fn(m!(x)) -> u8 + 'a>>::Item" =
      some expr := by decide +kernel
  obtain ⟨left, read⟩ := ofText?_eq_some_iff.mp shown
  have plain : CommentFree expr.render := by decide +kernel
  exact ⟨expr, left, read, plain, round_trip_iff_settled read plain⟩

/-- The trait of a qualified path may be qualified itself. Its own subject is dropped, and what follows
it is rendered right behind its last segment: an output there takes it in. -/
theorem round_trip_fails : ∃ expr left back after,
    parse (TokenStream.ofText "<T as <U as Fn() -> A>::W>::X") = .ok expr left ∧
      CommentFree expr.render ∧
      parse (TokenStream.ofText expr.render) = .ok back after ∧ back ≠ expr := by
  let expr : TypeExpr := .qualified (.named "T") 2 (.call "Fn" [] (some (.named "A")))
    [.plain "W", .plain "X"]
  let back : TypeExpr := .qualified (.named "T") 1
    (.call "Fn" [] (some (.path (.plain "A") [.plain "W"]))) [.plain "X"]
  have first : ofText? "<T as <U as Fn() -> A>::W>::X" = some expr := by decide +kernel
  have second : ofText? expr.render = some back := by decide +kernel
  obtain ⟨left, read⟩ := ofText?_eq_some_iff.mp first
  obtain ⟨after, again⟩ := ofText?_eq_some_iff.mp second
  exact ⟨expr, left, back, after, read, by decide +kernel, again, by decide +kernel⟩

end TypeExpr

end CowView
