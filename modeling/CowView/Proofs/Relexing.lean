import CowView.Proofs.Masking
import CowView.Text.Join

/-!
Tokens read again from their values. Where nothing but a line feed follows, the value of a token is read as that
token, whatever stood around it (`Lexer.next_rereads`). So the values of the tokens of a text, each on a line of its
own, are read as the same tokens (`Buffered.tokens_reread`).
-/

namespace CowView

open Text Lexer

/-! ### One value on a line of its own -/

namespace Lexer

def EndsLine (rest : List Char) : Prop := ∀ first ∈ rest.head?, first = '\n'

variable {rest line : List Char}

theorem EndsLine.cases (ends : EndsLine rest) : rest = [] ∨ ∃ later, rest = '\n' :: later := by
  cases rest with
  | nil => exact .inl rfl
  | cons first later => exact .inr ⟨later, by rw [ends first rfl]⟩

theorem EndsLine.head?_any (ends : EndsLine rest) {isMember : Char → Bool} (other : isMember '\n' = false) :
    rest.head?.any isMember = false := by
  rcases ends.cases with rfl | ⟨later, rfl⟩
  · rfl
  · exact other

/-- A line comment is read up to the end of its line, and the line feed is dropped. -/
theorem next_line (feedless : '\n' ∉ line) (ends : EndsLine rest) (position : Position) :
    ∃ after, Cursor.next true ⟨'/' :: '/' :: (line ++ rest), position⟩ =
        .token ⟨.comment, "//" ++ String.ofList line, position⟩ after ∧
      (after.rest = rest ∨ rest = '\n' :: after.rest) := by
  have whole : (line ++ rest).takeWhile (· ≠ '\n') = line :=
    takeWhile_append_of_all line (fun character member => by
      simpa using fun same : character = '\n' => feedless (same ▸ member)) (ends.head?_any (by simp))
  have start : Cursor.skipBlanks ⟨'/' :: '/' :: (line ++ rest), position⟩ =
      ⟨'/' :: '/' :: (line ++ rest), position⟩ := skipBlanks_eq rfl
  refine ⟨Cursor.drop ⟨'/' :: '/' :: (line ++ rest), position⟩ (line.length + 3), ?_, ?_⟩
  · rw [Cursor.next, if_pos rfl, start, Cursor.comment?]
    simp only [whole]
  · change (line ++ rest).drop (line.length + 1) = rest ∨ rest = '\n' :: (line ++ rest).drop (line.length + 1)
    rw [List.drop_length_add_append]
    rcases ends.cases with rfl | ⟨later, rfl⟩
    · exact .inl rfl
    · exact .inr rfl

end Lexer

def BareToken.Rereads (token : BareToken) : Prop :=
  ∀ (rest : List Char) (position : Position), EndsLine rest →
    ∃ after, Cursor.next true ⟨token.value.toList ++ rest, position⟩ =
        .token ⟨token.kind, token.value, position⟩ after ∧ (after.rest = rest ∨ rest = '\n' :: after.rest)

namespace Lexer

theorem rereads_word {token : BareToken} (isWord : token.IsWord) : token.Rereads := by
  intro rest position ends
  obtain ⟨first, others, spelling, solid, noSlash⟩ := value_eq_cons_of_isWord isWord
  have parted : rest.head?.any isWordCharacter = false := ends.head?_any (isWordCharacter_eq_false (by decide))
  refine ⟨⟨rest, position.advance token.value.toList⟩, ?_, .inl rfl⟩
  rw [next_eq_plain (by simp [spelling, solid]) (by simp [spelling, noSlash])]
  exact plain_word isWord parted position

/-- A single colon is no double one, since a line feed follows. -/
theorem rereads_symbol {kind : TokenKind} (isSymbol : kind ∈ TokenKind.symbols) :
    (BareToken.symbol kind).Rereads := by
  intro rest position ends
  obtain ⟨first, others, spelling, solid, noSlash, -⟩ := spelling_eq_cons isSymbol
  refine ⟨⟨rest, position.advance kind.spelling.toList⟩, ?_, .inl rfl⟩
  rw [BareToken.symbol, next_eq_plain (by simp [spelling, solid]) (by simp [spelling, noSlash])]
  refine plain_symbol isSymbol (fun _ colon => ?_) position
  exact absurd (ends ':' colon) (by decide)

theorem rereads_comment {cursor after : Cursor} {found : Token} (read : cursor.comment? = some (.token found after)) :
    found.bare.Rereads := by
  intro rest position ends
  have comment := (comment?_lexed read).1
  rcases comment?_form read with block | line
  · refine ⟨⟨rest, position.advance found.value.toList⟩, ?_, .inl rfl⟩
    rw [Token.bare, comment]
    exact next_block block rest position
  · unfold Cursor.comment? at read
    split at read
    next body shown =>
      cases read
      have feedless : '\n' ∉ body.takeWhile (· ≠ '\n') := fun member => by
        simpa using List.all_eq_true.mp (List.all_takeWhile (p := (· ≠ '\n')) (l := body)) '\n' member
      have value : ("//" ++ String.ofList (body.takeWhile (· ≠ '\n'))).toList =
          '/' :: '/' :: body.takeWhile (· ≠ '\n') := by simp
      rw [Token.bare, value]
      exact next_line feedless ends position
    next body shown =>
      split at read
      · cases read
        simp [IsLine, shown] at line
      · cases read
    · cases read

theorem next_rereads {cursor after : Cursor} {found : Token} (read : cursor.next true = .token found after) :
    found.bare.Rereads := by
  rcases next_token_cases read with comment | plain
  · exact rereads_comment comment
  · rcases plain_lexed plain with isWord | ⟨isSymbol, spelling⟩ | ⟨comment, -⟩
    · exact rereads_word isWord
    · have same : found.bare = .symbol found.kind := congrArg (BareToken.mk found.kind) spelling
      rw [same]
      exact rereads_symbol isSymbol
    · exact absurd comment (plain_kind_ne plain)

end Lexer

/-! ### The tokens of a text -/

namespace Cursor

variable {cursor : Cursor} {tokens : List Token}

theorem Reads.rereads (reads : cursor.Reads tokens) : ∀ token ∈ tokens, token.bare.Rereads := by
  induction reads with
  | finished => exact fun token member => nomatch member
  | token scan later ih => exact List.forall_mem_cons.mpr ⟨next_rereads scan, ih⟩

theorem Reads.blank {character : Char} {rest : List Char} {position : Position} (isBlank : isBlank character = true)
    (reads : Reads ⟨rest, position.step character⟩ tokens) : Reads ⟨character :: rest, position⟩ tokens := by
  have same : Cursor.next true ⟨character :: rest, position⟩ = Cursor.next true ⟨rest, position.step character⟩ := by
    simp only [Cursor.next, skipBlanks_blank isBlank]
  cases reads with
  | finished scan => exact .finished (same.trans scan)
  | token scan later => exact .token (same.trans scan) later

theorem reads_nil (position : Position) : Reads ⟨[], position⟩ [] :=
  have scan : Cursor.next true ⟨[], position⟩ = .finished ⟨[], position⟩ := rfl
  .finished scan

theorem reads_lines {words : List BareToken} (all : ∀ word ∈ words, word.Rereads) (position : Position) :
    ∃ again, Reads ⟨(join "\n" (words.map BareToken.value)).toList, position⟩ again ∧
      again.map Token.bare = words := by
  induction words generalizing position with
  | nil => exact ⟨[], reads_nil position, rfl⟩
  | cons word words ih =>
    obtain ⟨first, others⟩ := List.forall_mem_cons.mp all
    have later := ih others
    cases words with
    | nil =>
      obtain ⟨⟨rest, place⟩, scan, left⟩ := first [] position (by simp [EndsLine])
      have ended : rest = [] := by simpa using left
      subst ended
      refine ⟨[⟨word.kind, word.value, position⟩], .token ?_ (reads_nil place), rfl⟩
      rw [← scan, List.append_nil]
      rfl
    | cons second words =>
      have joined : (join "\n" ((word :: second :: words).map BareToken.value)).toList =
          word.value.toList ++ '\n' :: (join "\n" ((second :: words).map BareToken.value)).toList := by
        simp [join_cons_cons]
      obtain ⟨⟨rest, place⟩, scan, left⟩ := first
        ('\n' :: (join "\n" ((second :: words).map BareToken.value)).toList) position (by simp [EndsLine])
      rw [joined]
      -- the line feed is dropped with a line comment, and is a blank behind every other token
      obtain ⟨again, reads, same⟩ : ∃ again, Reads ⟨rest, place⟩ again ∧ again.map Token.bare = second :: words := by
        rcases left with rfl | left
        · obtain ⟨again, reads, same⟩ := later (place.step '\n')
          exact ⟨again, reads.blank rfl, same⟩
        · cases left
          exact later place
      exact ⟨⟨word.kind, word.value, position⟩ :: again, .token scan reads, by rw [List.map_cons, same]; rfl⟩

end Cursor

namespace Buffered

/-- **Token values lex back to themselves.** Where a lexer comes to the end of a text without a fault, the values of its
tokens, joined by single line feeds, are read without a fault again, as tokens of the same kinds and values. -/
theorem tokens_reread {text : String} {tokens : List Token} {last : Buffered}
    (ran : (ofText text).tokens = (tokens, none, last)) :
    ∃ again last', (ofText (join "\n" (tokens.map Token.value))).tokens = (again, none, last') ∧
      again.map Token.bare = tokens.map Token.bare := by
  have reads := (Reaches.ofText text).reads ran
  have all : ∀ word ∈ tokens.map Token.bare, word.Rereads := List.forall_mem_map.mpr reads.rereads
  obtain ⟨again, reread, same⟩ := Cursor.reads_lines all Position.start
  have values : (tokens.map Token.bare).map BareToken.value = tokens.map Token.value := by
    rw [List.map_map]
    rfl
  rw [values] at reread
  obtain ⟨last', run⟩ := (Reaches.ofText (join "\n" (tokens.map Token.value))).tokensFrom_eq reread
    (Nat.lt_succ_self _)
  exact ⟨again, last', run, same⟩

/-- Comments of both forms, and symbols that start alike. -/
theorem tokens_reread_comments : ∃ again last',
    (ofText (join "\n" ["a", "// b", ":", "::", "->", "'c", "/*\n*/", "1x"])).tokens = (again, none, last') ∧
      again.map Token.bare = [⟨.identifier, "a"⟩, ⟨.comment, "// b"⟩, ⟨.colon, ":"⟩, ⟨.doubleColon, "::"⟩,
        ⟨.arrow, "->"⟩, ⟨.lifetime, "'c"⟩, ⟨.comment, "/*\n*/"⟩, ⟨.number, "1x"⟩] := by
  have ran : (ofText "a// b\n: ::->'c/*\n*/1x").tokens =
      ([⟨.identifier, "a", ⟨0, 1, 1⟩⟩, ⟨.comment, "// b", ⟨1, 1, 2⟩⟩, ⟨.colon, ":", ⟨6, 2, 1⟩⟩,
        ⟨.doubleColon, "::", ⟨8, 2, 3⟩⟩, ⟨.arrow, "->", ⟨10, 2, 5⟩⟩, ⟨.lifetime, "'c", ⟨12, 2, 7⟩⟩,
        ⟨.comment, "/*\n*/", ⟨14, 2, 9⟩⟩, ⟨.number, "1x", ⟨19, 3, 3⟩⟩], none, ⟨[], [], true, ⟨21, 3, 5⟩, true⟩) := by
    decide +kernel
  simpa only [List.map_cons, List.map_nil, Token.bare] using tokens_reread ran

end Buffered

end CowView
