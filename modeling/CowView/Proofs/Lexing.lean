import CowView.Token.Stream

/-!
What the lexer reads, with the places of the tokens left out. `BareToken.Lexed` says which tokens the
lexer delivers, `Spelled` which texts it reads as given tokens: blanks may stand anywhere between two
tokens, and a word has to be kept apart from a word after it.
-/

namespace CowView

/-! ### Classes of characters -/

namespace Text

def apart (left right : List (Nat × Nat)) : Bool :=
  left.all fun one => right.all fun other => one.2 < other.1 || other.2 < one.1

def covered (inner outer : List (Nat × Nat)) : Bool :=
  inner.all fun one => outer.any fun other => other.1 ≤ one.1 && one.2 ≤ other.2

theorem within_eq_false_of_apart {left right : List (Nat × Nat)} (separate : apart left right)
    {character : Char} (member : within left character = true) : within right character = false := by
  obtain ⟨one, oneMember, oneLow, oneHigh⟩ := (within_iff left character).mp member
  rw [Bool.eq_false_iff]
  intro other
  obtain ⟨two, twoMember, twoLow, twoHigh⟩ := (within_iff right character).mp other
  have parted := List.all_eq_true.mp (List.all_eq_true.mp separate one oneMember) two twoMember
  simp only [Bool.or_eq_true, decide_eq_true_eq] at parted
  omega

theorem within_of_covered {inner outer : List (Nat × Nat)} (cover : covered inner outer)
    {character : Char} (member : within inner character = true) : within outer character = true := by
  obtain ⟨one, oneMember, oneLow, oneHigh⟩ := (within_iff inner character).mp member
  obtain ⟨other, otherMember, spans⟩ :=
    List.any_eq_true.mp (List.all_eq_true.mp cover one oneMember)
  simp only [Bool.and_eq_true, decide_eq_true_eq] at spans
  exact (within_iff outer character).mpr ⟨other, otherMember, by omega, by omega⟩

theorem within_append_left {left : List (Nat × Nat)} (right : List (Nat × Nat)) {character : Char}
    (member : within left character = true) : within (left ++ right) character = true := by
  simp only [within, List.any_append, Bool.or_eq_true] at *
  exact .inl member

theorem within_append_right (left : List (Nat × Nat)) {right : List (Nat × Nat)} {character : Char}
    (member : within right character = true) : within (left ++ right) character = true := by
  simp only [within, List.any_append, Bool.or_eq_true] at *
  exact .inr member

end Text

namespace Lexer

open Text

def asciiWordRanges : List (Nat × Nat) := [(0x30, 0x39), (0x41, 0x5a), (0x5f, 0x5f), (0x61, 0x7a)]

def wordRanges : List (Nat × Nat) := asciiWordRanges ++ (letterRanges ++ numeralRanges)

/-- The characters that end a word and start something else: the blanks, the slash, the mark of
lifetimes and the first characters of symbols. -/
def breakRanges : List (Nat × Nat) :=
  blankRanges ++ [(0x21, 0x21), (0x26, 0x2f), (0x3a, 0x3e), (0x40, 0x40), (0x5b, 0x5d), (0x7b, 0x7d)]

theorem apart_wordRanges_breakRanges : apart wordRanges breakRanges := by decide +kernel

theorem within_wordRanges_of_isLetter {character : Char} (letter : isLetter character = true) :
    within wordRanges character = true := by
  unfold isLetter at letter
  split at letter
  · apply within_append_left
    delta Char.isAlpha Char.isUpper Char.isLower at letter
    simp only [Bool.or_eq_true, Bool.and_eq_true, decide_eq_true_eq, ge_iff_le, UInt32.le_iff_toNat_le] at letter
    refine (within_iff _ _).mpr ?_
    rcases letter with ⟨low, high⟩ | ⟨low, high⟩
    · exact ⟨(0x41, 0x5a), by decide, low, high⟩
    · exact ⟨(0x61, 0x7a), by decide, low, high⟩
  · exact within_append_right _ (within_append_left _ letter)

theorem within_asciiWordRanges_of_isDigit {character : Char} (digit : character.isDigit = true) :
    within asciiWordRanges character = true := by
  simp only [Char.isDigit, Bool.and_eq_true, decide_eq_true_eq, ge_iff_le,
    UInt32.le_iff_toNat_le] at digit
  exact (within_iff _ _).mpr ⟨(0x30, 0x39), by decide, digit.1, digit.2⟩

theorem within_wordRanges_of_isWordCharacter {character : Char}
    (word : isWordCharacter character = true) : within wordRanges character = true := by
  simp only [isWordCharacter, isAlphanumeric, Bool.or_eq_true, decide_eq_true_eq] at word
  rcases word with rfl | letter | numeral
  · decide +kernel
  · exact within_wordRanges_of_isLetter letter
  · split at numeral
    · exact within_append_left _ (within_asciiWordRanges_of_isDigit numeral)
    · exact within_append_right _ (within_append_right _ numeral)

theorem isWordCharacter_eq_false {character : Char}
    (stop : within breakRanges character = true) : isWordCharacter character = false := by
  rw [Bool.eq_false_iff]
  intro word
  have other := within_eq_false_of_apart apart_wordRanges_breakRanges
    (within_wordRanges_of_isWordCharacter word)
  rw [stop] at other
  cases other

theorem within_breakRanges_eq_false {character : Char}
    (word : isWordCharacter character = true) : within breakRanges character = false := by
  rw [Bool.eq_false_iff]
  intro stop
  rw [isWordCharacter_eq_false stop] at word
  cases word

theorem covered_digitRanges : covered digitRanges numeralRanges := by decide +kernel

theorem isWordCharacter_of_isDigit {character : Char} (digit : isDigit character = true) :
    isWordCharacter character = true := by
  unfold isDigit at digit
  unfold isWordCharacter isAlphanumeric
  split at digit
  next ascii => simp [ascii, digit]
  next beyond =>
    have numeral := within_of_covered covered_digitRanges digit
    simp [beyond, numeral]

theorem isWordCharacter_of_startsName {character : Char} (start : startsName character = true) :
    isWordCharacter character = true := by
  simp only [startsName, Bool.or_eq_true, decide_eq_true_eq] at start
  rcases start with rfl | letter
  · decide +kernel
  · simp [isWordCharacter, isAlphanumeric_of_isLetter character letter]

end Lexer

/-! ### Tokens without their places -/

structure BareToken where
  kind : TokenKind
  value : String
  deriving DecidableEq, Repr

def Token.bare (token : Token) : BareToken := ⟨token.kind, token.value⟩

namespace BareToken

open Lexer

def symbol (kind : TokenKind) : BareToken := ⟨kind, kind.spelling⟩

def name (value : String) : BareToken := ⟨.identifier, value⟩

def last : BareToken := ⟨.endOfInput, ""⟩

inductive IsWord : BareToken → Prop where
  | identifier {first : Char} {rest : List Char} (noDigit : Text.isDigit first = false)
      (start : startsName first = true) (word : ∀ character ∈ rest, isWordCharacter character) :
      IsWord ⟨.identifier, String.ofList (first :: rest)⟩
  | number {first : Char} {rest : List Char} (digit : Text.isDigit first = true)
      (word : ∀ character ∈ rest, isWordCharacter character) :
      IsWord ⟨.number, String.ofList (first :: rest)⟩
  | lifetime {rest : List Char} (named : rest ≠ [])
      (word : ∀ character ∈ rest, isWordCharacter character) :
      IsWord ⟨.lifetime, String.ofList (lifetimeMark :: rest)⟩

def Lexed (token : BareToken) : Prop :=
  token.IsWord ∨ (token.kind ∈ TokenKind.symbols ∧ token.value = token.kind.spelling) ∨
    (token.kind = .comment ∧ '/' ∈ token.value.toList)

theorem Lexed.kind_ne {token : BareToken} (lexed : token.Lexed) : token.kind ≠ .endOfInput := by
  intro last
  rcases lexed with isWord | ⟨isSymbol, -⟩ | ⟨comment, -⟩
  · cases isWord <;> cases last
  · rw [last] at isSymbol
    exact absurd isSymbol (by decide)
  · cases last.symm.trans comment

end BareToken

inductive Spelled : List Char → List BareToken → Prop where
  | nil : Spelled [] []
  | blank {character : Char} {rest : List Char} {tokens : List BareToken}
      (isBlank : Text.isBlank character = true) (later : Spelled rest tokens) :
      Spelled (character :: rest) tokens
  | symbol {kind : TokenKind} {rest : List Char} {tokens : List BareToken}
      (isSymbol : kind ∈ TokenKind.symbols) (single : kind = .colon → rest.head? ≠ some ':')
      (later : Spelled rest tokens) :
      Spelled (kind.spelling.toList ++ rest) (.symbol kind :: tokens)
  | word {token : BareToken} {rest : List Char} {tokens : List BareToken} (isWord : token.IsWord)
      (parted : rest.head?.any Lexer.isWordCharacter = false) (later : Spelled rest tokens) :
      Spelled (token.value.toList ++ rest) (token :: tokens)

/-! ### Reading a spelled text -/

namespace Lexer

open Text

theorem takeWhile_append_of_all {isMember : Char → Bool} (front : List Char) {rest : List Char}
    (all : ∀ character ∈ front, isMember character = true)
    (stop : rest.head?.any isMember = false) : (front ++ rest).takeWhile isMember = front := by
  induction front with
  | nil =>
    cases rest with
    | nil => rfl
    | cons first rest =>
      have stopped : isMember first = false := by simpa using stop
      simp [stopped]
  | cons first front ih =>
    simp only [List.cons_append, List.takeWhile_cons, all first (by simp), if_true]
    rw [ih fun character member => all character (by simp [member])]

theorem skipBlanks_blank {character : Char} (blank : isBlank character = true) (rest : List Char)
    (position : Position) : Cursor.skipBlanks ⟨character :: rest, position⟩ =
      Cursor.skipBlanks ⟨rest, position.step character⟩ := by
  simp [Cursor.skipBlanks, Cursor.drop, blank]

theorem skipBlanks_eq {cursor : Cursor} (shown : cursor.rest.head?.any isBlank = false) :
    cursor.skipBlanks = cursor := by
  have none : cursor.rest.takeWhile isBlank = [] := by
    simpa using takeWhile_append_of_all [] nofun shown
  simp [Cursor.skipBlanks, Cursor.drop, none]

theorem comment?_eq_none {cursor : Cursor} (shown : cursor.rest.head? ≠ some '/') :
    cursor.comment? = none := by
  unfold Cursor.comment?
  split <;> simp_all

theorem next_eq_plain {cursor : Cursor} (solid : cursor.rest.head?.any isBlank = false)
    (shown : cursor.rest.head? ≠ some '/') : cursor.next true = cursor.plain := by
  simp [Cursor.next, skipBlanks_eq solid, comment?_eq_none shown]

/-- The first characters of symbols are no characters of words, no blanks, and no slash. -/
theorem spelling_eq_cons {kind : TokenKind} (isSymbol : kind ∈ TokenKind.symbols) :
    ∃ first rest, kind.spelling.toList = first :: rest ∧ isBlank first = false ∧ first ≠ '/' ∧
      within breakRanges first = true := by
  have all : ∀ kind ∈ TokenKind.symbols, ((kind.spelling.toList.head?.any fun first =>
      !isBlank first && first != '/' && within breakRanges first) = true) := by decide +kernel
  have found := all kind isSymbol
  cases spelling : kind.spelling.toList with
  | nil => simp [spelling] at found
  | cons first rest =>
    simp only [spelling, List.head?_cons, Option.any_some, Bool.and_eq_true, Bool.not_eq_true',
      bne_iff_ne] at found
    exact ⟨first, rest, rfl, found.1.1, found.1.2, found.2⟩

theorem symbolAt?_spelling {kind : TokenKind} (isSymbol : kind ∈ TokenKind.symbols)
    {rest : List Char} (single : kind = .colon → rest.head? ≠ some ':') :
    symbolAt? (kind.spelling.toList ++ rest) = some kind := by
  simp only [TokenKind.symbols, List.mem_cons, List.not_mem_nil, or_false] at isSymbol
  rcases isSymbol with rfl | rfl | rfl | rfl | rfl | rfl | rfl | rfl | rfl | rfl | rfl | rfl | rfl |
    rfl | rfl | rfl | rfl | rfl | rfl | rfl
  case inr.inr.inr.inl =>
    cases rest with
    | nil => rfl
    | cons first rest =>
      have other : first ≠ ':' := by simpa using single
      simp [symbolAt?, TokenKind.symbols, TokenKind.spelling, Ne.symm other]
  all_goals rfl

theorem symbolAt?_eq_none {first : Char} (word : within breakRanges first = false)
    (rest : List Char) : symbolAt? (first :: rest) = none := by
  simp only [symbolAt?, List.find?_eq_none]
  intro kind isSymbol
  obtain ⟨mark, others, spelling, -, -, stop⟩ := spelling_eq_cons isSymbol
  rw [spelling]
  have different : mark ≠ first := by
    rintro rfl
    rw [stop] at word
    cases word
  simp [different]


theorem take_append {front rest : List Char} {position : Position} (kind : TokenKind) :
    Cursor.take ⟨front ++ rest, position⟩ kind front.length =
      .token ⟨kind, String.ofList front, position⟩ ⟨rest, position.advance front⟩ := by
  simp [Cursor.take, Cursor.drop]

theorem plain_symbol {kind : TokenKind} (isSymbol : kind ∈ TokenKind.symbols) {rest : List Char}
    (single : kind = .colon → rest.head? ≠ some ':') (position : Position) :
    Cursor.plain ⟨kind.spelling.toList ++ rest, position⟩ =
      .token ⟨kind, kind.spelling, position⟩ ⟨rest, position.advance kind.spelling.toList⟩ := by
  simp only [Cursor.plain, symbolAt?_spelling isSymbol single]
  rw [← String.length_toList, take_append, String.ofList_toList]

/-- A word is read up to the first character that belongs to no word. -/
theorem word_eq (leading : List Char) {name rest : List Char}
    (word : ∀ character ∈ name, isWordCharacter character)
    (parted : rest.head?.any isWordCharacter = false) (kind : TokenKind) (position : Position) :
    Cursor.word ⟨leading ++ name ++ rest, position⟩ kind leading.length =
      .token ⟨kind, String.ofList (leading ++ name), position⟩
        ⟨rest, position.advance (leading ++ name)⟩ := by
  have whole : (((leading ++ name) ++ rest).drop leading.length).takeWhile isWordCharacter = name := by
    rw [List.append_assoc, List.drop_left]
    exact takeWhile_append_of_all name word parted
  rw [Cursor.word]
  simp only [whole]
  rw [← List.length_append, take_append]

theorem plain_word {token : BareToken} (isWord : token.IsWord) {rest : List Char}
    (parted : rest.head?.any isWordCharacter = false) (position : Position) :
    Cursor.plain ⟨token.value.toList ++ rest, position⟩ =
      .token ⟨token.kind, token.value, position⟩ ⟨rest, position.advance token.value.toList⟩ := by
  cases isWord with
  | @identifier first others noDigit start word =>
    have own := isWordCharacter_of_startsName start
    have mark : first ≠ lifetimeMark := by
      rintro rfl
      revert own
      decide +kernel
    have none := symbolAt?_eq_none (within_breakRanges_eq_false own) (others ++ rest)
    have all : ∀ character ∈ first :: others, isWordCharacter character := by
      simpa [own] using word
    have read := word_eq [] all parted .identifier position
    simp only [List.nil_append, List.length_nil, List.cons_append] at read
    simp only [Cursor.plain, String.toList_ofList, List.cons_append, none, if_neg mark, noDigit,
      start, Bool.false_eq_true, if_false, if_true, read]
  | @number first others digit word =>
    have own := isWordCharacter_of_isDigit digit
    have mark : first ≠ lifetimeMark := by
      rintro rfl
      revert own
      decide +kernel
    have none := symbolAt?_eq_none (within_breakRanges_eq_false own) (others ++ rest)
    have all : ∀ character ∈ first :: others, isWordCharacter character := by
      simpa [own] using word
    have read := word_eq [] all parted .number position
    simp only [List.nil_append, List.length_nil, List.cons_append] at read
    simp only [Cursor.plain, String.toList_ofList, List.cons_append, none, if_neg mark, digit,
      if_true, read]
  | @lifetime name named word =>
    have none : symbolAt? (lifetimeMark :: (name ++ rest)) = Option.none := rfl
    have shown : (name ++ rest).head?.any isWordCharacter = true := by
      cases name with
      | nil => exact absurd rfl named
      | cons first name => simpa using word first (by simp)
    have read := word_eq [lifetimeMark] word parted .lifetime position
    simp only [List.cons_append, List.nil_append, List.length_singleton] at read
    simp only [Cursor.plain, String.toList_ofList, List.cons_append, none, if_true, shown, read]

theorem value_eq_cons_of_isWord {token : BareToken} (isWord : token.IsWord) :
    ∃ first rest, token.value.toList = first :: rest ∧ isBlank first = false ∧ first ≠ '/' := by
  have solid : ∀ first, isWordCharacter first = true → isBlank first = false ∧ first ≠ '/' := by
    intro first word
    have outside := within_breakRanges_eq_false word
    constructor
    · rw [Bool.eq_false_iff]
      intro blank
      rw [breakRanges, within_append_left _ blank] at outside
      cases outside
    · rintro rfl
      revert outside
      decide
  cases isWord with
  | @identifier first rest noDigit start word =>
    exact ⟨first, rest, by simp, solid first (isWordCharacter_of_startsName start)⟩
  | @number first rest digit word =>
    exact ⟨first, rest, by simp, solid first (isWordCharacter_of_isDigit digit)⟩
  | @lifetime rest named word =>
    exact ⟨lifetimeMark, rest, by simp, by decide, by decide⟩

end Lexer

theorem Spelled.readWithin {characters : List Char} {tokens : List BareToken}
    (spelled : Spelled characters tokens) : ∀ (steps : Nat) (position : Position),
    characters.length < steps → ∃ (placed : List Token) (after : Position), Lexeme.readWithin steps ⟨characters, position⟩ =
      (placed.map .token, .finished after) ∧ placed.map Token.bare = tokens := by
  induction spelled with
  | nil =>
    intro steps position enough
    obtain ⟨steps, rfl⟩ := Nat.exists_eq_succ_of_ne_zero (Nat.ne_zero_of_lt enough)
    exact ⟨[], position, rfl, rfl⟩
  | @blank character rest tokens isBlank later ih =>
    intro steps position enough
    obtain ⟨steps, rfl⟩ := Nat.exists_eq_succ_of_ne_zero (Nat.ne_zero_of_lt enough)
    obtain ⟨placed, after, read, same⟩ := ih (steps + 1) (position.step character)
      (by rw [List.length_cons] at enough; omega)
    refine ⟨placed, after, ?_, same⟩
    rw [← read, Lexeme.readWithin, Lexeme.readWithin]
    simp only [Cursor.next, Lexer.skipBlanks_blank isBlank]
  | @symbol kind rest tokens isSymbol single later ih =>
    intro steps position enough
    obtain ⟨steps, rfl⟩ := Nat.exists_eq_succ_of_ne_zero (Nat.ne_zero_of_lt enough)
    obtain ⟨first, others, spelling, solid, noSlash, -⟩ := Lexer.spelling_eq_cons isSymbol
    obtain ⟨placed, after, read, same⟩ := ih steps
      (position.advance kind.spelling.toList) (by
        rw [spelling, List.cons_append, List.length_cons, List.length_append] at enough
        omega)
    refine ⟨⟨kind, kind.spelling, position⟩ :: placed, after, ?_, by rw [List.map_cons, same]; rfl⟩
    rw [Lexeme.readWithin, Lexer.next_eq_plain (by simp [spelling, solid]) (by simp [spelling, noSlash]),
      Lexer.plain_symbol isSymbol single]
    simp only [read, List.map_cons]
  | @word token rest tokens isWord parted later ih =>
    intro steps position enough
    obtain ⟨steps, rfl⟩ := Nat.exists_eq_succ_of_ne_zero (Nat.ne_zero_of_lt enough)
    obtain ⟨first, others, spelling, solid, noSlash⟩ := Lexer.value_eq_cons_of_isWord isWord
    obtain ⟨placed, after, read, same⟩ := ih steps
      (position.advance token.value.toList) (by
        rw [spelling, List.cons_append, List.length_cons, List.length_append] at enough
        omega)
    refine ⟨⟨token.kind, token.value, position⟩ :: placed, after, ?_,
      by rw [List.map_cons, same]; rfl⟩
    rw [Lexeme.readWithin, Lexer.next_eq_plain (by simp [spelling, solid]) (by simp [spelling, noSlash]),
      Lexer.plain_word isWord parted]
    simp only [read, List.map_cons]

theorem Spelled.ofText {text : String} {tokens : List BareToken}
    (spelled : Spelled text.toList tokens) : ∃ (placed : List Token) (after : Position),
      Lexeme.ofText text = (placed.map .token, .finished after) ∧ placed.map Token.bare = tokens :=
  spelled.readWithin _ _ (Nat.lt_succ_self _)

/-! ### What the lexer delivers -/

namespace Lexer

open Text

theorem comment?_lexed {cursor after : Cursor} {found : Token}
    (read : cursor.comment? = some (.token found after)) :
    found.kind = .comment ∧ '/' ∈ found.value.toList := by
  unfold Cursor.comment? at read
  split at read
  · cases read
    simp
  next body shown =>
    split at read
    next inner _ _ =>
      cases read
      refine ⟨rfl, ?_⟩
      rw [shown]
      simp
    · cases read
  · cases read

theorem word_lexed {cursor after : Cursor} {found : Token} {kind : TokenKind}
    (leading : List Char) {rest : List Char} (shown : cursor.rest = leading ++ rest)
    (read : cursor.word kind leading.length = .token found after) :
    found.kind = kind ∧
      found.value = String.ofList (leading ++ rest.takeWhile isWordCharacter) := by
  rw [Cursor.word, Cursor.take, shown, List.drop_left] at read
  cases read
  refine ⟨rfl, ?_⟩
  change String.ofList _ = _
  rw [List.take_length_add_append]
  congr 2
  exact (List.prefix_iff_eq_take.mp (List.takeWhile_prefix _)).symm

theorem plain_lexed {cursor after : Cursor} {found : Token}
    (read : cursor.plain = .token found after) : found.bare.Lexed := by
  unfold Cursor.plain at read
  split at read
  next kind symbol =>
    have isSymbol := List.mem_of_find?_eq_some symbol
    have shown := List.find?_some symbol
    have spelling := List.prefix_iff_eq_take.mp (List.isPrefixOf_iff_prefix.mp shown)
    cases read
    refine .inr (.inl ⟨isSymbol, ?_⟩)
    change String.ofList _ = kind.spelling
    rw [← String.length_toList, ← spelling, String.ofList_toList]
  next none =>
    split at read
    · cases read
    next first rest shown =>
      have word : ∀ character ∈ rest.takeWhile isWordCharacter, isWordCharacter character = true :=
        List.all_eq_true.mp List.all_takeWhile
      split at read
      next mark =>
        split at read
        next named =>
          obtain ⟨kind, value⟩ := word_lexed [first] shown read
          refine .inl ?_
          rw [Token.bare, kind, value, mark]
          refine .lifetime ?_ word
          cases rest with
          | nil => simp at named
          | cons second rest =>
            have : isWordCharacter second = true := by simpa using named
            simp [this]
        · cases read
      next mark =>
        split at read
        next digit =>
          obtain ⟨kind, value⟩ := word_lexed [] shown read
          refine .inl ?_
          rw [Token.bare, kind, value, List.nil_append,
            List.takeWhile_cons_of_pos (isWordCharacter_of_isDigit digit)]
          exact .number digit word
        next noDigit =>
          split at read
          next start =>
            obtain ⟨kind, value⟩ := word_lexed [] shown read
            refine .inl ?_
            rw [Token.bare, kind, value, List.nil_append,
              List.takeWhile_cons_of_pos (isWordCharacter_of_startsName start)]
            exact .identifier (by simpa using noDigit) start word
          · cases read

theorem next_token_cases {cursor after : Cursor} {found : Token} (read : cursor.next true = .token found after) :
    cursor.skipBlanks.comment? = some (.token found after) ∨ cursor.skipBlanks.plain = .token found after := by
  unfold Cursor.next at read
  dsimp only at read
  rw [if_pos rfl] at read
  split at read
  next scan comment =>
    subst read
    exact .inl comment
  · exact .inr read

theorem next_lexed {cursor after : Cursor} {found : Token}
    (read : cursor.next true = .token found after) : found.bare.Lexed := by
  rcases next_token_cases read with comment | plain
  · exact .inr (.inr (comment?_lexed comment))
  · exact plain_lexed plain

end Lexer

theorem Lexeme.lexed_of_mem_readWithin (steps : Nat) (cursor : Cursor) (token : Token)
    (member : .token token ∈ (readWithin steps cursor).1) : token.bare.Lexed := by
  induction steps generalizing cursor with
  | zero => cases member
  | succ steps ih =>
    rw [readWithin] at member
    split at member
    · cases member
    next found after read =>
      rcases List.mem_cons.mp member with same | member
      · cases same
        exact Lexer.next_lexed read
      · exact ih after member
    next cause after read =>
      split at member
      · rcases List.mem_cons.mp member with same | member
        · cases same
        · exact ih after member
      · cases member

end CowView
