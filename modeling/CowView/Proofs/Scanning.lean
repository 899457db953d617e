import CowView.Proofs.Lexing

/-!
What the lexer cuts off a text. `Cursor.Cuts` says where a token lies: blanks come first, then the
characters of the token, and a line feed is dropped after a line comment. Every token that
`Cursor.next` reads is cut so (`next_cuts`), and the end of the text is only found behind blanks.
-/

namespace CowView

open Text

namespace Cursor

/-- The text goes on with blanks, the token and at most a line feed, and then with what is left; the
places follow from the characters. -/
structure Cuts (cursor : Cursor) (blanks : List Char) (token : Token) (feed : List Char)
    (after : Cursor) : Prop where
  text : cursor.rest = blanks ++ (token.value.toList ++ (feed ++ after.rest))
  blank : ∀ character ∈ blanks, isBlank character = true
  fed : ∀ character ∈ feed, isBlank character = true
  shown : token.value.toList ≠ []
  start : token.position = cursor.position.advance blanks
  after : after.position = token.position.advance (token.value.toList ++ feed)

/-- A scan at a cursor that is not at a blank: a token starts there, a fault blames the text, and the
text ends there or goes on. -/
def Scans (cursor : Cursor) : Scan → Prop
  | .token token after => ∃ feed, cursor.Cuts [] token feed after
  | .fault cause _ => cause.isSource = true
  | .finished after => cursor.rest = [] ∧ after = cursor

variable {cursor : Cursor}

theorem fail_scans (problem : SourceProblem) (start after : Cursor) :
    cursor.Scans (start.fail problem after) := rfl

theorem take_scans (kind : TokenKind) {count : Nat} (more : cursor.rest ≠ []) (positive : 0 < count) :
    cursor.Scans (cursor.take kind count) := by
  have parts : cursor.rest.take count ++ cursor.rest.drop count = cursor.rest := List.take_append_drop _ _
  refine ⟨[], ?_, by simp, by simp, ?_, rfl, ?_⟩
  · simp [Cursor.drop, parts]
  · simpa [Nat.pos_iff_ne_zero.mp positive] using more
  · simp [Cursor.drop]

theorem exists_line (body : List Char) : ∃ feed rest, (feed = [] ∨ feed = ['\n']) ∧
    body = body.takeWhile (· ≠ '\n') ++ (feed ++ rest) ∧
    ∀ front : List Char, (front ++ body).take (front.length + (body.takeWhile (· ≠ '\n')).length + 1) =
        front ++ (body.takeWhile (· ≠ '\n') ++ feed) ∧
      (front ++ body).drop (front.length + (body.takeWhile (· ≠ '\n')).length + 1) = rest := by
  have parts : body.takeWhile (· ≠ '\n') ++ body.dropWhile (· ≠ '\n') = body :=
    List.takeWhile_append_dropWhile
  cases ending : body.dropWhile (· ≠ '\n') with
  | nil =>
    refine ⟨[], [], .inl rfl, by rw [ending] at parts; simpa using parts.symm, fun front => ?_⟩
    rw [ending, List.append_nil] at parts
    rw [parts]
    simp [List.take_of_length_le, List.drop_eq_nil_of_le]
  | cons first rest =>
    have feed : first = '\n' := by
      have stop := List.head?_dropWhile_not (· ≠ '\n') body
      rw [ending] at stop
      simpa using stop
    subst feed
    rw [ending] at parts
    refine ⟨['\n'], rest, .inr rfl, parts.symm, fun front => ?_⟩
    generalize body.takeWhile (· ≠ '\n') = line at parts
    subst parts
    have whole : front ++ (line ++ '\n' :: rest) = (front ++ (line ++ ['\n'])) ++ rest := by simp
    rw [whole]
    constructor
    · exact List.take_left' (by simp [Nat.add_assoc])
    · exact List.drop_left' (by simp [Nat.add_assoc])

theorem lineComment_scans {body : List Char} (shown : cursor.rest = '/' :: '/' :: body) :
    cursor.Scans (.token ⟨.comment, "//" ++ String.ofList (body.takeWhile (· ≠ '\n')), cursor.position⟩
      (cursor.drop ((body.takeWhile (· ≠ '\n')).length + 3))) := by
  obtain ⟨feed, rest, feeds, parts, cut⟩ := exists_line body
  obtain ⟨taken, left⟩ := cut ['/', '/']
  have count : ['/', '/'].length + (body.takeWhile (· ≠ '\n')).length + 1 =
      (body.takeWhile (· ≠ '\n')).length + 3 := by
    simp only [List.length_cons, List.length_nil]
    omega
  rw [count] at taken left
  have value : ("//" ++ String.ofList (body.takeWhile (· ≠ '\n'))).toList =
      '/' :: '/' :: body.takeWhile (· ≠ '\n') := by simp
  refine ⟨feed, ?_, by simp, ?_, by simp, rfl, ?_⟩
  · rw [Cursor.drop, shown, value]
    change '/' :: '/' :: body = '/' :: '/' :: (body.takeWhile _ ++ (feed ++ (['/', '/'] ++ body).drop _))
    rw [left, ← parts]
  · rcases feeds with rfl | rfl <;> simp [isBlank, within, blankRanges]
  · rw [Cursor.drop, shown, value]
    exact congrArg cursor.position.advance taken

theorem comment?_scans {scan : Scan} (read : cursor.comment? = some scan) : cursor.Scans scan := by
  unfold comment? at read
  split at read
  next body shown =>
    cases read
    exact lineComment_scans shown
  next body shown =>
    cases read
    split
    · exact take_scans _ (by rw [shown]; simp) (by omega)
    · exact fail_scans _ _ _
  · cases read

theorem word_scans {first : Char} {rest : List Char} (shown : cursor.rest = first :: rest)
    (word : Lexer.isWordCharacter first = true) (kind : TokenKind) : cursor.Scans (cursor.word kind 0) := by
  refine take_scans _ (by rw [shown]; simp) ?_
  rw [shown, List.drop_zero, List.takeWhile_cons_of_pos word, List.length_cons]
  omega

theorem plain_scans : cursor.Scans cursor.plain := by
  unfold plain
  split
  next kind symbol =>
    have isSymbol := List.mem_of_find?_eq_some symbol
    have found := List.find?_some symbol
    have prefixed : kind.spelling.toList <+: cursor.rest := List.isPrefixOf_iff_prefix.mp found
    obtain ⟨first, rest, spelling, -⟩ := Lexer.spelling_eq_cons isSymbol
    rw [spelling] at prefixed
    obtain ⟨behind, same⟩ := prefixed
    refine take_scans _ (by rw [← same]; simp) ?_
    rw [← String.length_toList, spelling, List.length_cons]
    omega
  next none =>
    split
    next ended => exact ⟨ended, rfl⟩
    next first rest shown =>
      split
      · split
        · exact take_scans _ (by rw [shown]; simp) (by omega)
        · exact fail_scans _ _ _
      · split
        next digit => exact word_scans shown (Lexer.isWordCharacter_of_isDigit digit) _
        · split
          next start => exact word_scans shown (Lexer.isWordCharacter_of_startsName start) _
          · exact fail_scans _ _ _

/-- The blanks in front belong to no token. -/
theorem skipBlanks_cut (cursor : Cursor) : ∃ blanks, cursor.rest = blanks ++ cursor.skipBlanks.rest ∧
    (∀ character ∈ blanks, isBlank character = true) ∧
    cursor.skipBlanks.position = cursor.position.advance blanks := by
  have taken : cursor.rest.take (cursor.rest.takeWhile isBlank).length = cursor.rest.takeWhile isBlank :=
    (List.prefix_iff_eq_take.mp (List.takeWhile_prefix isBlank)).symm
  refine ⟨cursor.rest.takeWhile isBlank, ?_, List.all_eq_true.mp List.all_takeWhile, ?_⟩
  · calc cursor.rest
      _ = cursor.rest.take (cursor.rest.takeWhile isBlank).length ++ cursor.skipBlanks.rest :=
        (List.take_append_drop _ _).symm
      _ = cursor.rest.takeWhile isBlank ++ cursor.skipBlanks.rest := by rw [taken]
  · exact congrArg cursor.position.advance taken

theorem scans_skipBlanks (comments : Bool) (cursor : Cursor) :
    cursor.skipBlanks.Scans (cursor.next comments) := by
  unfold next
  dsimp only
  split
  next scan comment =>
    rw [Option.ite_none_right_eq_some] at comment
    exact comment?_scans comment.2
  · exact plain_scans

theorem next_cuts {token : Token} {after : Cursor} (read : cursor.next true = .token token after) :
    ∃ blanks feed, cursor.Cuts blanks token feed after := by
  obtain ⟨blanks, text, blank, position⟩ := skipBlanks_cut cursor
  have scans := scans_skipBlanks true cursor
  rw [read] at scans
  obtain ⟨feed, cut⟩ := scans
  refine ⟨blanks, feed, ?_, blank, cut.fed, cut.shown, ?_, cut.after⟩
  · rw [text, cut.text, List.nil_append]
  · rw [cut.start, Position.advance_nil, position]

theorem next_fault {cause : Fault} {after : Cursor} (read : cursor.next true = .fault cause after) :
    cause.isSource = true := by
  have scans := scans_skipBlanks true cursor
  rwa [read] at scans

/-- Nothing but blanks is left when the end of the text is found. -/
theorem next_finished {after : Cursor} (read : cursor.next true = .finished after) :
    (∀ character ∈ cursor.rest, isBlank character = true) ∧ after.rest = [] ∧
      after.position = cursor.position.advance cursor.rest := by
  obtain ⟨blanks, text, blank, position⟩ := skipBlanks_cut cursor
  have scans := scans_skipBlanks true cursor
  rw [read] at scans
  obtain ⟨ended, rfl⟩ := scans
  rw [ended, List.append_nil] at text
  subst text
  exact ⟨blank, ended, position⟩

theorem Cuts.length_lt {blanks feed : List Char} {token : Token} {after : Cursor}
    (cut : cursor.Cuts blanks token feed after) : after.rest.length < cursor.rest.length := by
  have shown := List.length_pos_iff.mpr cut.shown
  rw [cut.text]
  simp only [List.length_append]
  omega

end Cursor

end CowView
