import CowView.Proofs.Spelling

/-!
The token groups of macros. `Balanced` says which tokens close all brackets that are open;
`TokenGroup.join` writes them so that they are read as the same tokens, whatever they are, as long as
none of them is a comment.
-/

namespace CowView

open TokenStream Text

namespace TokenGroup

/-! ### Balanced tokens -/

def awaitedAfter (kind awaited : TokenKind) (outer : List TokenKind) : List TokenKind :=
  match kind.closer? with
  | some closer => closer :: awaited :: outer
  | none => if kind = awaited then outer else awaited :: outer

/-- The tokens close the brackets awaited, the innermost first, and end with the last of these. -/
def Balanced : List TokenKind → List BareToken → Prop
  | [], tokens => tokens = []
  | _ :: _, [] => False
  | awaited :: outer, token :: rest =>
    token.kind ≠ .endOfInput ∧ Balanced (awaitedAfter token.kind awaited outer) rest

theorem readWithin_succ (steps : Nat) (awaited : TokenKind) (outer : List TokenKind)
    (values : List String) : readWithin (steps + 1) (awaited :: outer) values = (do
      let token ← TokenStream.next
      if token.kind = .endOfInput then return none
      readWithin steps (awaitedAfter token.kind awaited outer) (token.value :: values)) := by
  rw [readWithin]
  congr 1
  funext token
  cases kind : token.kind <;> simp [awaitedAfter, TokenKind.closer?]

theorem readWithin_nil {steps : Nat} (values : List String) (positive : 0 < steps) :
    readWithin steps [] values = pure (some values.reverse) := by
  obtain ⟨less, rfl⟩ := Nat.exists_eq_succ_of_ne_zero (Nat.ne_of_gt positive)
  rfl

theorem reads_readWithin {tokens : List BareToken} : ∀ {awaited : List TokenKind} (steps : Nat)
    (values : List String), Balanced awaited tokens → tokens.length < steps →
      Reads (readWithin steps awaited values) tokens
        (some (values.reverse ++ tokens.map BareToken.value)) fun _ => True := by
  induction tokens with
  | nil =>
    intro awaited steps values balanced enough
    cases awaited with
    | nil =>
      rw [readWithin_nil values enough]
      simpa using Reads.pure (some values.reverse)
    | cons => exact balanced.elim
  | cons token rest ih =>
    intro awaited steps values balanced enough
    cases awaited with
    | nil => cases balanced
    | cons awaited outer =>
      obtain ⟨less, rfl⟩ := Nat.exists_eq_succ_of_ne_zero (Nat.ne_zero_of_lt enough)
      rw [readWithin_succ]
      refine .moved fun placed same => ?_
      have kind : placed.kind = token.kind := congrArg BareToken.kind same
      have value : placed.value = token.value := congrArg BareToken.value same
      rw [if_neg (by rw [kind]; exact balanced.1), kind, value]
      have later := ih less (token.value :: values) balanced.2
        (by rw [List.length_cons] at enough; omega)
      simpa using later

theorem readWithin_ok {steps : Nat} : ∀ {awaited : List TokenKind} {values result : List String}
    {stream left : TokenStream}, stream.Lexed →
      readWithin steps awaited values stream = .ok (some result) left →
        left.Lexed ∧ ∃ tokens : List BareToken,
          result = values.reverse ++ tokens.map BareToken.value ∧ Balanced awaited tokens ∧
            ∀ token ∈ tokens, token.Lexed := by
  induction steps with
  | zero => exact fun _ read => by cases read
  | succ steps ih =>
    intro awaited values result stream left lexed read
    cases awaited with
    | nil =>
      cases read
      exact ⟨lexed, [], by simp, rfl, by simp⟩
    | cons awaited outer =>
      rw [readWithin_succ] at read
      obtain ⟨placed, between, first, later⟩ := bind_eq_ok read
      obtain ⟨lexed', front⟩ := next_ok lexed first
      split at later
      · cases later
      next more =>
        obtain ⟨lexed'', tokens, rfl, balanced, all⟩ := ih lexed' later
        have own : placed.bare.Lexed := by
          rcases lexed.front? front with own | last
          · exact own
          · exact absurd (congrArg BareToken.kind last) more
        refine ⟨lexed'', placed.bare :: tokens, by simp [Token.bare], ⟨more, balanced⟩, ?_⟩
        rintro token (_ | ⟨_, member⟩)
        · exact own
        · exact all token member

/-! ### Written balanced tokens -/

def written (isOpen : Bool) : List BareToken → List Char
  | [] => []
  | token :: rest =>
    (if isOpen || isClosing token.value.toList then token.value.toList
      else ' ' :: token.value.toList) ++ written (endsOpen token.value.toList) rest

theorem endsOpen_append {text value : List Char} (shown : value ≠ []) :
    endsOpen (text ++ value) = endsOpen value := by
  rw [endsOpen, endsOpen, List.getLast?_append]
  cases last : value.getLast? with
  | none => exact absurd (List.getLast?_eq_none_iff.mp last) shown
  | some => rfl

theorem foldl_append {tokens : List BareToken} (solid : ∀ token ∈ tokens, token.value.toList ≠ [])
    {text : List Char} (shown : text ≠ []) :
    (tokens.map fun token => token.value.toList).foldl append text =
      text ++ written (endsOpen text) tokens := by
  induction tokens generalizing text with
  | nil => simp [written]
  | cons token rest ih =>
    have own := solid token List.mem_cons_self
    have later := fun other member => solid other (List.mem_cons_of_mem token member)
    have full : text.isEmpty = false := by simp [shown]
    rw [List.map_cons, List.foldl_cons, written, append, full, Bool.false_or]
    split
    · rw [ih later (by simp [own]), endsOpen_append own, List.append_assoc]
    · rw [ih later (by simp), ← List.singleton_append, ← List.append_assoc, endsOpen_append own]
      simp

/-- A value that counts as closing starts with a closing bracket or a comma. -/
theorem startsApart_of_isClosing {value : List Char} (closing : isClosing value = true)
    (shown : value ≠ []) (rest : List Char) :
    StartsApart (value ++ rest) ∧ (value ++ rest).head? ≠ some ':' := by
  cases value with
  | nil => exact absurd rfl shown
  | cons first others =>
    have mark : first = ')' ∨ first = ']' ∨ first = '\x7d' ∨ first = ',' := by
      simp only [isClosing, occursIn, List.isPrefixOf, Bool.or_eq_true, Bool.and_eq_true,
        beq_iff_eq, List.isEmpty_cons, Bool.false_eq_true, or_false] at closing
      rcases closing with ⟨rfl, -⟩ | ⟨rfl, -⟩ | ⟨rfl, -⟩ | ⟨rfl, -⟩ <;> simp
    have apart : Lexer.isWordCharacter first = false := by
      rcases mark with rfl | rfl | rfl | rfl <;> exact Lexer.isWordCharacter_eq_false (by decide)
    refine ⟨apart, ?_⟩
    rcases mark with rfl | rfl | rfl | rfl <;> simp

def IsPlain (token : BareToken) : Prop :=
  token.IsWord ∨ (token.kind ∈ TokenKind.symbols ∧ token.value = token.kind.spelling)

theorem IsPlain.ne_nil {token : BareToken} (plain : IsPlain token) : token.value.toList ≠ [] := by
  rcases plain with isWord | ⟨isSymbol, value⟩
  · obtain ⟨first, rest, shown, -⟩ := Lexer.value_eq_cons_of_isWord isWord
    rw [shown]
    exact List.cons_ne_nil _ _
  · obtain ⟨first, rest, shown, -⟩ := Lexer.spelling_eq_cons isSymbol
    rw [value, shown]
    exact List.cons_ne_nil _ _

theorem endsOpen_of_isWord {token : BareToken} (isWord : token.IsWord) :
    endsOpen token.value.toList = false := by
  have bracket : ∀ character, Lexer.isWordCharacter character = true →
      character ∉ ['(', '[', '\x7b'] := by
    intro character word member
    have stop : within Lexer.breakRanges character = true := by
      simp only [List.mem_cons, List.not_mem_nil, or_false] at member
      rcases member with rfl | rfl | rfl <;> decide
    rw [Lexer.isWordCharacter_eq_false stop] at word
    cases word
  have ends : ∀ (front : List Char) (name : List Char), name ≠ [] →
      (∀ character ∈ name, Lexer.isWordCharacter character = true) →
        endsOpen (front ++ name) = false := by
    intro front name shown word
    rw [endsOpen_append shown, endsOpen, List.getLast?_eq_some_getLast shown]
    simpa using bracket _ (word _ (List.getLast_mem shown))
  cases isWord with
  | @identifier first rest noDigit start word =>
    rw [String.toList_ofList]
    refine ends [] (first :: rest) (List.cons_ne_nil _ _) ?_
    rintro character (_ | ⟨_, member⟩)
    · exact Lexer.isWordCharacter_of_startsName start
    · exact word character member
  | @number first rest digit word =>
    rw [String.toList_ofList]
    refine ends [] (first :: rest) (List.cons_ne_nil _ _) ?_
    rintro character (_ | ⟨_, member⟩)
    · exact Lexer.isWordCharacter_of_isDigit digit
    · exact word character member
  | @lifetime rest named word =>
    rw [String.toList_ofList]
    exact ends [Lexer.lifetimeMark] rest named word

/-- Behind a text that ends with no opening bracket the tokens are kept apart. -/
theorem startsApart_written {tokens : List BareToken} (plain : ∀ token ∈ tokens, IsPlain token)
    {rest : List Char} (apart : StartsApart rest) :
    StartsApart (written false tokens ++ rest) ∧
      (tokens ≠ [] → (written false tokens ++ rest).head? ≠ some ':') := by
  cases tokens with
  | nil => exact ⟨apart, fun shown => absurd rfl shown⟩
  | cons token others =>
    rw [written, Bool.false_or]
    split
    next closing =>
      have start := startsApart_of_isClosing closing (plain token List.mem_cons_self).ne_nil
        (written (endsOpen token.value.toList) others ++ rest)
      rw [List.append_assoc]
      exact ⟨start.1, fun _ => start.2⟩
    · exact ⟨startsApart_space _, fun _ => by simp⟩

theorem spelled_written {tokens : List BareToken} (plain : ∀ token ∈ tokens, IsPlain token)
    (last : ∀ final ∈ tokens.getLast?, final.kind ≠ .colon) {rest : List Char}
    {words : List BareToken} (apart : StartsApart rest) (later : Spelled rest words)
    (isOpen : Bool) : Spelled (written isOpen tokens ++ rest) (tokens ++ words) := by
  induction tokens generalizing isOpen with
  | nil => exact later
  | cons token others ih =>
    have own := plain token List.mem_cons_self
    have plainOthers := fun other member => plain other (List.mem_cons_of_mem token member)
    have behind : Spelled (token.value.toList ++
        (written (endsOpen token.value.toList) others ++ rest)) (token :: (others ++ words)) := by
      have next := ih plainOthers (fun final member => last final (by
        cases others with
        | nil => cases member
        | cons => rwa [List.getLast?_cons_cons])) (endsOpen token.value.toList)
      have separate := startsApart_written plainOthers apart
      rcases own with isWord | ⟨isSymbol, value⟩
      · rw [endsOpen_of_isWord isWord] at next ⊢
        exact .word isWord separate.1 next
      · have same : token = .symbol token.kind := by rw [BareToken.symbol, ← value]
        have single : token.kind = .colon →
            (written (endsOpen token.value.toList) others ++ rest).head? ≠ some ':' := by
          intro colon
          have noBracket : endsOpen token.value.toList = false := by
            rw [value, colon]
            decide
          rw [noBracket]
          refine separate.2 ?_
          rintro rfl
          exact last token rfl colon
        rw [value] at next single
        rw [same]
        exact .symbol isSymbol single next
    rw [written]
    split
    · simpa using behind
    · simpa using behind.space

/-! ### Groups -/

def closers : List TokenKind := [.closeParen, .closeSquare, .closeBrace]

theorem mem_closers {kind closer : TokenKind} (closes : kind.closer? = some closer) :
    closer ∈ closers ∧ kind ∈ TokenKind.symbols ∧ endsOpen kind.spelling.toList = true := by
  cases kind <;> cases closes <;> decide

theorem ne_of_closer? {kind closer : TokenKind} (closes : kind.closer? = some closer) :
    kind ≠ .endOfInput ∧ kind ≠ .comment := by
  cases kind <;> cases closes <;> decide

/-- Whatever token comes, closing brackets are awaited. -/
theorem closers_awaitedAfter {awaited : TokenKind} {outer : List TokenKind}
    (closing : ∀ kind ∈ awaited :: outer, kind ∈ closers) (kind : TokenKind) :
    ∀ other ∈ awaitedAfter kind awaited outer, other ∈ closers := by
  unfold awaitedAfter
  split
  next closer opens => exact List.forall_mem_cons.mpr ⟨(mem_closers opens).1, closing⟩
  · split
    · exact fun other member => closing other (List.mem_cons_of_mem _ member)
    · exact closing

theorem Balanced.getLast? {tokens : List BareToken} : ∀ {awaited : List TokenKind},
    Balanced awaited tokens → (∀ kind ∈ awaited, kind ∈ closers) →
      ∀ final ∈ tokens.getLast?, final.kind ∈ closers := by
  induction tokens with
  | nil => exact fun _ _ => nofun
  | cons token rest ih =>
    intro awaited balanced closing final member
    cases awaited with
    | nil => cases balanced
    | cons awaited outer =>
      obtain ⟨-, later⟩ := balanced
      have known := closers_awaitedAfter closing token.kind
      cases rest with
      | cons second others =>
        rw [List.getLast?_cons_cons] at member
        exact ih later known final member
      | nil =>
        obtain rfl : token = final := by simpa using member
        -- nothing is awaited any more, so the token closed the only bracket
        have done : awaitedAfter token.kind awaited outer = [] := by
          cases shown : awaitedAfter token.kind awaited outer with
          | nil => rfl
          | cons =>
            rw [shown] at later
            exact later.elim
        unfold awaitedAfter at done
        split at done
        · cases done
        · split at done
          next same =>
            rw [same]
            exact closing awaited List.mem_cons_self
          · cases done

structure IsGroup (opening : BareToken) (rest : List BareToken) : Prop where
  opens : ∃ closer, opening.kind.closer? = some closer ∧ Balanced [closer] rest
  value : opening.value = opening.kind.spelling
  plain : ∀ token ∈ rest, IsPlain token

theorem spells_join_group {opening : BareToken} {rest : List BareToken}
    (group : IsGroup opening rest) :
    Spells (join ((opening :: rest).map BareToken.value)) (opening :: rest) := by
  obtain ⟨closer, opens, balanced⟩ := group.opens
  obtain ⟨closing, isSymbol, isOpen⟩ := mem_closers opens
  intro text tokens apart spelled
  have value : opening.value.toList = opening.kind.spelling.toList := by rw [group.value]
  have solid : opening.value.toList ≠ [] := IsPlain.ne_nil (.inr ⟨isSymbol, group.value⟩)
  have last := balanced.getLast? (fun kind member => by
    rw [List.mem_singleton.mp member]
    exact closing)
  have inner := spelled_written group.plain (fun final member colon => by
    have mem := last final member
    rw [colon] at mem
    revert mem
    decide) apart spelled true
  have joined : (join ((opening :: rest).map BareToken.value)).toList =
      opening.kind.spelling.toList ++ written true rest := by
    rw [join, String.toList_ofList, List.map_map, List.map_cons, List.foldl_cons]
    have start : append [] ((String.toList ∘ BareToken.value) opening) = opening.value.toList := by
      simp [append]
    rw [start]
    have later := foldl_append (fun token member => (group.plain token member).ne_nil) solid
    rw [value, isOpen] at later
    rw [value]
    exact later
  have same : opening = .symbol opening.kind := by rw [BareToken.symbol, ← group.value]
  rw [joined, List.append_assoc, same]
  refine .mark opening.kind isSymbol ?_ inner
  intro colon
  rw [colon] at opens
  cases opens

end TokenGroup

theorem TypeExpr.Parser.macroGroup_apply {path : String} {stream : TokenStream} {bang opening : Token} {closer : TokenKind}
    (shown : stream.skipped.front? = some bang) (kind : bang.kind = .bang)
    (front : stream.skipped.advanced.front? = some opening) (closes : opening.kind.closer? = some closer) :
    macroGroup path stream = (TokenGroup.readWithin (stream.skipped.advanced.advanced.pending.length + 2) [closer]
      [opening.value] >>= fun
        | some values => return .verbatim (path ++ "!" ++ TokenGroup.join values)
        | none => throw (.source opening.line opening.column (.unterminatedMacro path))) stream.skipped.advanced.advanced := by
  unfold macroGroup
  rw [bind_apply, ensure_eq_ok_iff.mpr ⟨bang, shown, by simp [fits, kind], rfl, rfl⟩]
  dsimp only
  rw [bind_apply, next_eq_ok_iff.mpr ⟨front, rfl⟩]
  simp only [closes]
  rfl

theorem TypeExpr.Parser.macroGroup_eq_ok_iff {path : String} {stream left : TokenStream} {value : TypeExpr} :
    macroGroup path stream = .ok value left ↔ ∃ (bang opening : Token) (closer : TokenKind) (values : List String),
      stream.skipped.front? = some bang ∧ bang.kind = .bang ∧ stream.skipped.advanced.front? = some opening ∧
        opening.kind.closer? = some closer ∧
          TokenGroup.readWithin (stream.skipped.advanced.advanced.pending.length + 2) [closer] [opening.value]
            stream.skipped.advanced.advanced = .ok (some values) left ∧
              value = .verbatim (path ++ "!" ++ TokenGroup.join values) := by
  constructor
  · intro read
    obtain ⟨_, _, ensured, read⟩ := bind_eq_ok read
    obtain ⟨bang, shown, known, -, rfl⟩ := ensure_eq_ok_iff.mp ensured
    obtain ⟨opening, _, taken, read⟩ := bind_eq_ok read
    obtain ⟨front, rfl⟩ := next_eq_ok_iff.mp taken
    cases closes : opening.kind.closer? with
    | none =>
      rw [closes] at read
      cases read
    | some closer =>
      rw [closes] at read
      obtain ⟨stream, _, looked, read⟩ := bind_eq_ok read
      cases looked
      obtain ⟨found, _, group, read⟩ := bind_eq_ok read
      cases found with
      | none => cases read
      | some values =>
        cases read
        exact ⟨bang, opening, closer, values, shown, by simpa [fits] using known, front, closes, group, rfl⟩
  · rintro ⟨bang, opening, closer, values, shown, kind, front, closes, group, rfl⟩
    rw [macroGroup_apply shown kind front closes, bind_apply, group]
    rfl

theorem reads_macroGroup (path : String) {opening : BareToken} {rest : List BareToken}
    (group : TokenGroup.IsGroup opening rest) :
    Reads (TypeExpr.Parser.macroGroup path) (.symbol .bang :: opening :: rest)
      (.verbatim (path ++ "!" ++ TokenGroup.join ((opening :: rest).map BareToken.value)))
      fun _ => True := by
  obtain ⟨closer, opens, balanced⟩ := group.opens
  refine .ensured rfl (.moved fun placed same => ?_)
  have kind : placed.kind = opening.kind := congrArg BareToken.kind same
  have value : placed.value = opening.value := congrArg BareToken.value same
  simp only [kind, opens, value]
  intro tokens others after docs mapped solid _
  -- the steps given are enough for all tokens that are pending
  have read := TokenGroup.reads_readWithin ((tokens ++ others).length + 2) [opening.value] balanced
    (by rw [← mapped, List.length_map, List.length_append]; omega) tokens others after docs mapped
    solid trivial
  have pending : (delivering (tokens ++ others) after docs).pending.length =
      (tokens ++ others).length := by simp [delivering]
  change (TokenGroup.readWithin ((delivering (tokens ++ others) after docs).pending.length + 2)
    [closer] [opening.value] >>= _) _ = _
  rw [pending, bind_apply, read]
  rfl

end CowView
