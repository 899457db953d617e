import CowView.Proofs.Distilling
import CowView.Proofs.TransferTypes

/-!
Macros with comments. Comments between the tokens of a type do not change what is read, unless one of them stands
directly behind the bang of a macro, where the opening bracket is expected (`TypeExpr.parse_commented`). The text of
a macro keeps the comments inside of its group; it is read back as it is if all of them are block comments
(`TypeExpr.parse_kept`).
-/

namespace CowView

open TokenStream Text

/-! ### Comments between tokens -/

/-- The second row of lexemes is the first one with comments put in. -/
inductive Lexeme.Commented : List Lexeme → List Lexeme → Prop where
  | nil : Commented [] []
  | token {token placed : Token} {one two : List Lexeme} (bare : token.bare = placed.bare)
    (later : Commented one two) : Commented (.token token :: one) (.token placed :: two)
  | fault {cause cause' : Fault} {one two : List Lexeme} (later : Commented one two) :
    Commented (.fault cause :: one) (.fault cause' :: two)
  | comment {comment : Token} {one two : List Lexeme} (kind : comment.kind = .comment) (later : Commented one two) :
    Commented one (.token comment :: two)

structure TokenStream.Commented (first second : TokenStream) : Prop where
  pending : Lexeme.Commented first.pending second.pending
  ending : ∀ place, first.ending = .finished place → ∃ place', second.ending = .finished place'

def Loom.adding (tight : Token → Prop) : Loom := ⟨True, fun _ => true, tight⟩

theorem Loom.weaves_adding {tight : Token → Prop} {one two : List Lexeme} :
    (Loom.adding tight).Weaves one two ↔ Lexeme.Commented one two := by
  constructor
  · intro weaves
    induction weaves with
    | nil => exact .nil
    | fault later ih => exact .fault ih
    | same bare later ih => exact .token bare ih
    | added adds kind later ih => exact .comment kind ih
    | kept keeps => exact absurd trivial keeps
  · intro commented
    induction commented with
    | nil => exact .nil
    | token bare later ih => exact .same bare ih
    | fault later ih => exact .fault ih
    | comment kind later ih => exact .added trivial kind ih

theorem Lexeme.Commented.length_le {one two : List Lexeme} (commented : Lexeme.Commented one two) :
    one.length ≤ two.length := by
  induction commented with
  | nil => exact Nat.le_refl _
  | token bare later ih => exact Nat.succ_le_succ ih
  | fault later ih => exact Nat.succ_le_succ ih
  | comment kind later ih => exact Nat.le_succ_of_le ih

/-! ### Masked forms -/

def Sieve.ofMark (mark : List Char → Bool) : Sieve where
  mark := mark
  own text := Lexer.IsBlock text.toList ∨ Lexer.IsLine text.toList
  forms _ own := own

theorem Sieve.passes_ofText (mark : List Char → Bool) (text : String) :
    (Sieve.ofMark mark).Passes (TokenStream.ofText text) :=
  fun _ member => ⟨lexed_of_mem_ofText member,
    Lexeme.form_of_mem_readWithin (show _ ∈ (Lexeme.ofText text).1 from member)⟩

namespace TypeExpr

variable {text kept : String} {left : TokenStream}

/-- What is kept of a macro has a masked form that is read back as it is, unless there is a line comment in it. -/
theorem exists_masked {sieve : Sieve} (passes : sieve.Passes (TokenStream.ofText text))
    (read : parse (TokenStream.ofText text) = .ok (.verbatim kept) left) :
    sieve.Lined kept ∨ ∃ masked, Masks sieve.mark masked.toList kept.toList ∧ CommentFree masked ∧ Opaque masked := by
  obtain ⟨words, expr, distilled⟩ :=
    (Parser.carried sieve.transfer (Nat.le_refl _)).type _ _ left trivial passes read
  obtain ⟨masked, rfl, rel⟩ := distilled.fits.exists_verbatim
  refine rel.symm.imp id fun ⟨masks, free⟩ => ⟨masked, masks, free, ?_⟩
  -- the run on the words alone is sound, since there is no comment in what it gives
  obtain ⟨behind, written, known⟩ := distilled.passes.exists_foretold
  obtain ⟨tokens, same, own⟩ := exists_placed distilled.plain
  obtain ⟨rest, same', own'⟩ := exists_placed written
  have all := List.forall_mem_append.mpr ⟨own, own'⟩
  have run := distilled.reads tokens rest .start "" same (fun token member => (all token member).2) (by rwa [same'])
  have lexed : (delivering (tokens ++ rest) .start "").Lexed := by
    intro token member
    obtain ⟨other, known, same⟩ := List.mem_map.mp member
    cases same
    exact .inl (all _ known).1
  obtain ⟨-, sure⟩ := (sound .commentFree _).type lexed run
  exact (sure free).1.2

/-- The words of the masked text and the tokens of the text itself are woven. -/
theorem weaves_of_veils {loom : Loom} (keeps : ¬ loom.adds) {tokens placed : List Token}
    (veils : List.Forall₂ (BareToken.Veils loom.mark) (tokens.map Token.bare) placed) :
    loom.Weaves (tokens.map .token) (placed.map .token) := by
  induction tokens generalizing placed with
  | nil =>
    cases veils
    exact .nil
  | cons token tokens ih =>
    cases veils with
    | cons first others =>
      rcases first with bare | ⟨kind, block, sign⟩
      · exact .same bare (ih others)
      · exact .kept keeps kind block sign (ih others)

/-- A masked form is read back as it is, and so its comments in the text are all that is not known. -/
theorem exists_reread {mark : List Char → Bool} {masked : String} (masks : Masks mark masked.toList kept.toList)
    (formed : Opaque masked) : ∃ again docs after, parse (TokenStream.ofText kept) =
      .ok (.verbatim again) ⟨[], .finished after, docs⟩ ∧ Masks mark masked.toList again.toList := by
  obtain ⟨after, whole⟩ := parse_render (show (verbatim masked).isType = true from rfl)
    (show WellFormed False (.verbatim masked) from formed)
  have spelled := formed.spells [] [] rfl .nil
  rw [List.append_nil, List.append_nil] at spelled
  obtain ⟨tokens, place, lexed, same⟩ := spelled.ofText
  obtain ⟨placed, place', lexed', veils⟩ := spelled.readWithin_masked masks _ .start (Nat.lt_succ_self _)
  let loom : Loom := ⟨False, mark, (TokenStream.ofText kept).Tight⟩
  have first : TokenStream.ofText masked = ⟨tokens.map .token, .finished place, ""⟩ := by
    rw [TokenStream.ofText, lexed]
  have second : TokenStream.ofText kept = ⟨placed.map .token, .finished place', ""⟩ := by
    rw [TokenStream.ofText, Lexeme.ofText, Cursor.ofText, lexed']
  have woven : loom.Woven (TokenStream.ofText masked) (TokenStream.ofText kept) := by
    refine ⟨?_, fun _ _ => ⟨place', by rw [second]⟩, fun _ tight => tight⟩
    rw [first, second]
    exact weaves_of_veils id (by rwa [same])
  have enough : (TokenStream.ofText masked).budget ≤ (TokenStream.ofText kept).budget := by
    have lengths : tokens.length = placed.length := by rw [← veils.length_eq, ← same, List.length_map]
    simp only [first, second, budget, List.length_map, lengths, Nat.le_refl]
  have outcome := (Parser.carried loom.transfer enough).type.woven _ _ _ _ trivial trivial woven whole
  rcases outcome with ⟨⟨-, front, sign, rest, shown, -⟩, -⟩ | mends
  · exact absurd shown.symm (by simp)
  · change loom.Mends _ _ _ (parse (TokenStream.ofText kept)) at mends
    cases run : parse (TokenStream.ofText kept) with
    | error fault left' =>
      rw [run] at mends
      exact mends.1.elim
    | ok expr left' =>
      rw [run] at mends
      obtain ⟨fits, ended⟩ := mends
      obtain ⟨again, rfl, rel⟩ := TypeExpr.Fits.exists_verbatim fits
      obtain ⟨lexemes, ending, docs⟩ := left'
      obtain ⟨behind, finished⟩ := ended.ending after rfl
      have nothing : loom.Weaves [] lexemes := ended.pending
      cases finished
      cases nothing with
      | nil => exact ⟨again, docs, behind, rfl, rel id⟩
      | added adds => exact adds.elim

/-- The text of a macro is read back as it is, with its comments, if none of them is a line comment. -/
theorem parse_kept (read : parse (TokenStream.ofText text) = .ok (.verbatim kept) left)
    (blocks : InBlocks kept.toList) :
    ∃ docs after, parse (TokenStream.ofText kept) = .ok (.verbatim kept) ⟨[], .finished after, docs⟩ := by
  have masked (mark : List Char → Bool) := (exists_masked (Sieve.passes_ofText mark text) read).resolve_left
    fun ⟨_, front, rest, shown, inner⟩ => inner.not_line rest (shown ▸ blocks)
  -- what is read again is the same for all marks, and its masked forms determine it
  obtain ⟨first, masks, -, formed⟩ := masked fun _ => true
  obtain ⟨again, docs, after, reread, -⟩ := exists_reread masks formed
  have same : kept.toList = again.toList := by
    refine Masks.eq_of_forall blocks fun mark => ?_
    obtain ⟨other, masks, free, formed⟩ := masked mark
    obtain ⟨again', docs', after', reread', masks'⟩ := exists_reread masks formed
    cases reread.symm.trans reread'
    exact ⟨other.toList, free, masks, masks'⟩
  rw [← String.toList_injective same] at reread
  exact ⟨docs, after, reread⟩

theorem inBlocks_kept (read : parse (TokenStream.ofText text) = .ok (.verbatim kept) left)
    (blocks : ∀ token, .token token ∈ (TokenStream.ofText text).pending → token.kind = .comment →
      Lexer.IsBlock token.value.toList) : InBlocks kept.toList := by
  let sieve : Sieve := ⟨fun _ => true, fun text => Lexer.IsBlock text.toList, fun _ own => .inl own⟩
  have passes : sieve.Passes (TokenStream.ofText text) :=
    fun token member => ⟨lexed_of_mem_ofText member, blocks token member⟩
  rcases exists_masked passes read with ⟨⟨comment, block, line⟩, -⟩ | ⟨masked, masks, free, -⟩
  · obtain ⟨rest, shown⟩ := Lexer.IsBlock.eq_cons block
    obtain ⟨behind, shown'⟩ := line
    cases shown'.trans shown
  · exact masks.inBlocks free

/-- What is read off a text is read off the text with comments put in, with other comments in the groups of macros;
or reading fails at a comment directly behind a bang. -/
theorem parse_commented {first second left : TokenStream} {expr : TypeExpr} (commented : first.Commented second)
    (read : parse first = .ok expr left) :
    (∃ expr' left', parse second = .ok expr' left' ∧ expr.formName = expr'.formName ∧ left.Commented left') ∨
      ∃ comment left', second.Tight comment ∧
        parse second = .error (unexpected comment ["(", "[", "\x7b"]) left' := by
  have woven : (Loom.adding second.Tight).Woven first second :=
    ⟨Loom.weaves_adding.mpr commented.pending, commented.ending, fun _ tight => tight⟩
  have enough : first.budget ≤ second.budget := by
    have shorter := commented.pending.length_le
    rw [budget, budget]
    omega
  have outcome :=
    (Parser.carried (Loom.adding second.Tight).transfer enough).type.woven _ _ _ _ trivial trivial woven read
  rcases outcome with ⟨⟨keeps, -⟩, -⟩ | mends
  · exact absurd trivial keeps
  · change (Loom.adding second.Tight).Mends _ _ _ (parse second) at mends
    cases run : parse second with
    | error fault left' =>
      rw [run] at mends
      obtain ⟨-, comment, tight, rfl⟩ := mends
      exact .inr ⟨comment, left', tight, rfl⟩
    | ok expr' left' =>
      rw [run] at mends
      obtain ⟨fits, woven⟩ := mends
      exact .inl ⟨expr', left', rfl, fits.1, Loom.weaves_adding.mp woven.pending, woven.ending⟩

/-- A macro with comments put in is a macro still, and its text is read back to the end as the same text, if no line
comment stands in its group; or reading fails at a comment directly behind a bang. -/
theorem verbatim_commented {other : String}
    (commented : (TokenStream.ofText text).Commented (TokenStream.ofText other))
    (read : parse (TokenStream.ofText text) = .ok (.verbatim kept) left) :
    (∃ kept' left', parse (TokenStream.ofText other) = .ok (.verbatim kept') left' ∧ left.Commented left' ∧
      (InBlocks kept'.toList → ∃ docs after, parse (TokenStream.ofText (verbatim kept').render) =
        .ok (.verbatim kept') ⟨[], .finished after, docs⟩) ∧
      ((∀ token, .token token ∈ (TokenStream.ofText other).pending → token.kind = .comment →
        Lexer.IsBlock token.value.toList) → InBlocks kept'.toList)) ∨
    ∃ comment left', (TokenStream.ofText other).Tight comment ∧
      parse (TokenStream.ofText other) = .error (unexpected comment ["(", "[", "\x7b"]) left' := by
  refine (parse_commented commented read).imp (fun ⟨expr, left', again, form, behind⟩ => ?_) id
  cases expr with
  | verbatim kept' => exact ⟨kept', left', again, behind, parse_kept again, inBlocks_kept again⟩
  | _ => simp [formName] at form

/-- A line comment in front of the bang is gone, and the block comment in the group is read back. -/
theorem verbatim_commented_blocks : ∃ left left' docs after,
    (TokenStream.ofText "m!(a)").Commented (TokenStream.ofText "m // p\n !(/* q */ a)") ∧
    parse (TokenStream.ofText "m!(a)") = .ok (.verbatim "m!(a)") left ∧
    parse (TokenStream.ofText "m // p\n !(/* q */ a)") = .ok (.verbatim "m!(/* q */ a)") left' ∧ left.Commented left' ∧
    parse (TokenStream.ofText "m!(/* q */ a)") = .ok (.verbatim "m!(/* q */ a)") ⟨[], .finished after, docs⟩ := by
  have shown : ofText? "m!(a)" = some (.verbatim "m!(a)") := by decide +kernel
  obtain ⟨left, read⟩ := ofText?_eq_some_iff.mp shown
  have again : ofText? "m // p\n !(/* q */ a)" = some (.verbatim "m!(/* q */ a)") := by decide +kernel
  obtain ⟨left', read'⟩ := ofText?_eq_some_iff.mp again
  have first : TokenStream.ofText "m!(a)" = delivering [⟨.identifier, "m", ⟨0, 1, 1⟩⟩, ⟨.bang, "!", ⟨1, 1, 2⟩⟩,
    ⟨.openParen, "(", ⟨2, 1, 3⟩⟩, ⟨.identifier, "a", ⟨3, 1, 4⟩⟩, ⟨.closeParen, ")", ⟨4, 1, 5⟩⟩] ⟨5, 1, 6⟩ "" := by
    decide +kernel
  have second : TokenStream.ofText "m // p\n !(/* q */ a)" = delivering [⟨.identifier, "m", ⟨0, 1, 1⟩⟩,
    ⟨.comment, "// p", ⟨2, 1, 3⟩⟩, ⟨.bang, "!", ⟨8, 2, 2⟩⟩, ⟨.openParen, "(", ⟨9, 2, 3⟩⟩,
    ⟨.comment, "/* q */", ⟨10, 2, 4⟩⟩, ⟨.identifier, "a", ⟨18, 2, 12⟩⟩, ⟨.closeParen, ")", ⟨19, 2, 13⟩⟩]
    ⟨20, 2, 14⟩ "" := by
    decide +kernel
  have commented : (TokenStream.ofText "m!(a)").Commented (TokenStream.ofText "m // p\n !(/* q */ a)") := by
    rw [first, second]
    exact ⟨.token rfl (.comment rfl (.token rfl (.token rfl (.comment rfl (.token rfl (.token rfl .nil)))))),
      fun _ _ => ⟨_, rfl⟩⟩
  have blocks : InBlocks "m!(/* q */ a)".toList := by
    have block : Lexer.IsBlock "/* q */".toList := ⟨" q ".toList, rfl, rfl⟩
    exact .plain (by decide) (.plain (by decide) (.plain (by decide) (.block block
      (.plain (by decide) (.plain (by decide) (.plain (by decide) .nil))))))
  -- The macro is read to its end, so it does not fail at a comment.
  rcases verbatim_commented commented read with ⟨kept, behind, found, loose, back, -⟩ | ⟨comment, behind, -, failed⟩
  · rw [read'] at found
    cases found
    obtain ⟨docs, after, whole⟩ := back blocks
    exact ⟨left, left', docs, after, commented, read, read', loose, whole⟩
  · rw [read'] at failed
    cases failed

/-- A comment directly behind the bang is refused, and a line comment in a group is written on one line with the
bracket behind it, which is lost when the text is read again. -/
theorem verbatim_commented_fails :
    ((TokenStream.ofText "m!(a)").Commented (TokenStream.ofText "m! /* c */ (a)") ∧
      ofText? "m!(a)" = some (.verbatim "m!(a)") ∧ ofText? "m! /* c */ (a)" = none) ∧
    ofText? "m!(a // c\n b)" = some (.verbatim "m!(a // c b)") ∧ ofText? "m!(a // c b)" = none := by
  have first : TokenStream.ofText "m!(a)" = delivering [⟨.identifier, "m", ⟨0, 1, 1⟩⟩, ⟨.bang, "!", ⟨1, 1, 2⟩⟩,
    ⟨.openParen, "(", ⟨2, 1, 3⟩⟩, ⟨.identifier, "a", ⟨3, 1, 4⟩⟩, ⟨.closeParen, ")", ⟨4, 1, 5⟩⟩] ⟨5, 1, 6⟩ "" := by
    decide +kernel
  have second : TokenStream.ofText "m! /* c */ (a)" = delivering [⟨.identifier, "m", ⟨0, 1, 1⟩⟩,
    ⟨.bang, "!", ⟨1, 1, 2⟩⟩, ⟨.comment, "/* c */", ⟨3, 1, 4⟩⟩, ⟨.openParen, "(", ⟨11, 1, 12⟩⟩,
    ⟨.identifier, "a", ⟨12, 1, 13⟩⟩, ⟨.closeParen, ")", ⟨13, 1, 14⟩⟩] ⟨14, 1, 15⟩ "" := by
    decide +kernel
  refine ⟨⟨?_, by decide +kernel, by decide +kernel⟩, by decide +kernel, by decide +kernel⟩
  rw [first, second]
  exact ⟨.token rfl (.token rfl (.comment rfl (.token rfl (.token rfl (.token rfl .nil))))), fun _ _ => ⟨_, rfl⟩⟩

end TypeExpr

end CowView
