import CowView.Proofs.Buffering
import CowView.Proofs.RoundTrip
import CowView.Proofs.Transfer

/-!
Texts with signs in place of their comments. A text whose comments are all block comments is read as the masked
text is, with the comments back in place (`Spelled.readWithin_masked`), and is determined by its masked forms: two of them differ
at the signs and nowhere else (`Masks.eq_of_forall`).
-/

namespace CowView

open Text

/-! ### The two forms of comments -/

namespace Lexer

/-- A block comment ends with the first closing mark in it. -/
def IsBlock (text : List Char) : Prop :=
  ∃ inner, text = '/' :: '*' :: (inner ++ ['*', '/']) ∧ splitAt? ['*', '/'] (inner ++ ['*', '/']) = some (inner, [])

def IsLine (text : List Char) : Prop := ['/', '/'] <+: text

variable {mark : Char} {delimiter text inner rest : List Char}

theorem splitAt?_cut (found : splitAt? (mark :: delimiter) text = some (inner, rest)) :
    splitAt? (mark :: delimiter) (inner ++ mark :: delimiter) = some (inner, []) := by
  induction text generalizing inner rest with
  | nil => cases found
  | cons first text ih =>
    have whole := splitAt?_eq_some found
    rw [splitAt?] at found
    split at found
    next fits =>
      cases found
      simp [splitAt?]
    next misses =>
      obtain ⟨parts, split, same⟩ := Option.map_eq_some_iff.mp found
      cases same
      have shorter : first :: (parts.1 ++ mark :: delimiter) <+: first :: text := by
        rw [whole]
        exact ⟨parts.2, by simp⟩
      have other : ¬ (mark :: delimiter).isPrefixOf (first :: (parts.1 ++ mark :: delimiter)) := fun fits =>
        misses (List.isPrefixOf_iff_prefix.mpr ((List.isPrefixOf_iff_prefix.mp fits).trans shorter))
      rw [List.cons_append, splitAt?, if_neg other, ih split]
      rfl

theorem splitAt?_append (found : splitAt? (mark :: delimiter) (inner ++ mark :: delimiter) = some (inner, []))
    (rest : List Char) : splitAt? (mark :: delimiter) (inner ++ mark :: delimiter ++ rest) = some (inner, rest) := by
  induction inner with
  | nil => simp [splitAt?]
  | cons first inner ih =>
    rw [List.cons_append, splitAt?] at found
    split at found
    · cases found
    next misses =>
      obtain ⟨⟨front, back⟩, split, same⟩ := Option.map_eq_some_iff.mp found
      obtain ⟨rfl, rfl⟩ : front = inner ∧ back = [] := by simpa using same
      have other : ¬ (mark :: delimiter).isPrefixOf (first :: (front ++ mark :: delimiter ++ rest)) := fun fits => by
        refine misses (List.isPrefixOf_iff_prefix.mpr ?_)
        have longer : first :: (front ++ mark :: delimiter) <+: first :: (front ++ mark :: delimiter ++ rest) :=
          ⟨rest, by simp⟩
        exact List.prefix_of_prefix_length_le (List.isPrefixOf_iff_prefix.mp fits) longer (by simp; omega)
      rw [List.cons_append, List.cons_append, splitAt?, if_neg other, ih split]
      rfl

theorem comment?_form {cursor after : Cursor} {found : Token} (read : cursor.comment? = some (.token found after)) :
    IsBlock found.value.toList ∨ IsLine found.value.toList := by
  unfold Cursor.comment? at read
  split at read
  · cases read
    exact .inr (by simp [IsLine])
  next body shown =>
    split at read
    next inner rest split =>
      cases read
      refine .inl ⟨inner, ?_, splitAt?_cut split⟩
      have whole := splitAt?_eq_some split
      rw [shown, whole, String.toList_ofList]
      have parts : '/' :: '*' :: (inner ++ (['*', '/'] ++ rest)) = ('/' :: '*' :: (inner ++ ['*', '/'])) ++ rest := by
        simp
      rw [parts]
      exact List.take_left' (by simp)
    · cases read
  · cases read

/-- Nothing else that the lexer delivers is a comment. -/
theorem plain_kind_ne {cursor after : Cursor} {found : Token} (read : cursor.plain = .token found after) :
    found.kind ≠ .comment := by
  intro comment
  unfold Cursor.plain at read
  split at read
  next kind symbol =>
    have isSymbol := List.mem_of_find?_eq_some symbol
    cases read
    rw [show kind = .comment from comment] at isSymbol
    exact absurd isSymbol (by decide)
  · repeat' split at read
    all_goals cases read
    all_goals cases comment

theorem next_form {cursor after : Cursor} {found : Token} (read : cursor.next true = .token found after)
    (comment : found.kind = .comment) : IsBlock found.value.toList ∨ IsLine found.value.toList := by
  rcases next_token_cases read with shown | plain
  · exact comment?_form shown
  · exact absurd comment (plain_kind_ne plain)

variable {position : Position}

theorem next_block {text : String} (block : IsBlock text.toList) (rest : List Char) (position : Position) :
    Cursor.next true ⟨text.toList ++ rest, position⟩ =
      .token ⟨.comment, text, position⟩ ⟨rest, position.advance text.toList⟩ := by
  obtain ⟨inner, shown, split⟩ := block
  have length : inner.length + 4 = text.toList.length := by simp [shown]
  have comment : Cursor.comment? ⟨text.toList ++ rest, position⟩ =
      some (Cursor.take ⟨text.toList ++ rest, position⟩ .comment (inner.length + 4)) := by
    rw [Cursor.comment?]
    simp only [shown, List.cons_append, splitAt?_append split]
  have start : Cursor.skipBlanks ⟨text.toList ++ rest, position⟩ = ⟨text.toList ++ rest, position⟩ :=
    skipBlanks_eq (by rw [shown]; rfl)
  rw [Cursor.next, if_pos rfl, start, comment, length, take_append, String.ofList_toList]

end Lexer

open Lexer

theorem Lexeme.form_of_mem_readWithin {steps : Nat} {cursor : Cursor} {token : Token}
    (member : .token token ∈ (readWithin steps cursor).1) (comment : token.kind = .comment) :
    IsBlock token.value.toList ∨ IsLine token.value.toList := by
  induction steps generalizing cursor with
  | zero => cases member
  | succ steps ih =>
    rw [readWithin] at member
    split at member
    · cases member
    next found after read =>
      rcases List.mem_cons.mp member with same | member
      · cases same
        exact next_form read comment
      · exact ih member
    next cause after read =>
      split at member
      · rcases List.mem_cons.mp member with same | member
        · cases same
        · exact ih member
      · cases member

theorem Lexer.IsBlock.eq_cons {text : List Char} (block : IsBlock text) : ∃ rest, text = '/' :: '*' :: rest := by
  obtain ⟨inner, rfl, -⟩ := block
  exact ⟨_, rfl⟩

theorem Lexer.IsBlock.append_inj {text other rest behind : List Char} (block : IsBlock text) (second : IsBlock other)
    (same : text ++ rest = other ++ behind) : text = other ∧ rest = behind := by
  obtain ⟨inner, rfl, split⟩ := block
  obtain ⟨inner', rfl, split'⟩ := second
  have bodies : inner ++ ['*', '/'] ++ rest = inner' ++ ['*', '/'] ++ behind := by simpa using same
  have found := splitAt?_append split rest
  rw [bodies, splitAt?_append split' behind] at found
  cases found
  exact ⟨rfl, rfl⟩

/-! ### Texts without line comments -/

/-- Every slash of the text stands in a block comment. -/
inductive InBlocks : List Char → Prop where
  | nil : InBlocks []
  | plain {character : Char} {rest : List Char} (other : character ≠ '/') (later : InBlocks rest) :
    InBlocks (character :: rest)
  | block {text rest : List Char} (block : IsBlock text) (later : InBlocks rest) : InBlocks (text ++ rest)

namespace InBlocks

variable {text rest front : List Char} {character : Char}

theorem append (first : InBlocks front) (second : InBlocks rest) : InBlocks (front ++ rest) := by
  induction first with
  | nil => exact second
  | plain other later ih => exact .plain other ih
  | block block later ih =>
    rw [List.append_assoc]
    exact .block block ih

theorem of_cons (all : InBlocks (character :: rest)) (other : character ≠ '/') : InBlocks rest := by
  generalize whole : character :: rest = text at all
  cases all with
  | nil => cases whole
  | plain _ later =>
    cases whole
    exact later
  | block block later =>
    obtain ⟨inner, rfl⟩ := block.eq_cons
    cases whole
    exact absurd rfl other

theorem of_block (all : InBlocks (text ++ rest)) (block : IsBlock text) : InBlocks rest := by
  generalize whole : text ++ rest = both at all
  cases all with
  | nil =>
    obtain ⟨inner, rfl⟩ := block.eq_cons
    cases whole
  | plain other later =>
    obtain ⟨inner, rfl⟩ := block.eq_cons
    cases whole
    exact absurd rfl other
  | block second later =>
    obtain ⟨-, rfl⟩ := block.append_inj second whole
    exact later

/-- Behind block comments no line comment starts. -/
theorem not_line (first : InBlocks front) (rest : List Char) : ¬ InBlocks (front ++ '/' :: '/' :: rest) := by
  induction first with
  | nil =>
    intro all
    generalize whole : [] ++ '/' :: '/' :: rest = text at all
    cases all with
    | nil => cases whole
    | plain other later =>
      cases whole
      exact other rfl
    | block block later =>
      obtain ⟨inner, rfl⟩ := block.eq_cons
      cases whole
  | plain other later ih => exact fun all => ih (all.of_cons other)
  | block block later ih =>
    rw [List.append_assoc]
    exact fun all => ih (all.of_block block)

end InBlocks

/-! ### Masked texts -/

def signOf (mark : List Char → Bool) (text : List Char) : TokenKind := if mark text then .atSign else .dot

theorem signOf_mem (mark : List Char → Bool) (text : List Char) : signOf mark text ∈ TokenKind.signs := by
  unfold signOf
  split <;> decide

inductive Masks (mark : List Char → Bool) : List Char → List Char → Prop where
  | nil : Masks mark [] []
  | plain (character : Char) {one two : List Char} (later : Masks mark one two) :
    Masks mark (character :: one) (character :: two)
  | comment {text one two : List Char} (block : IsBlock text) (later : Masks mark one two) :
    Masks mark ((signOf mark text).spelling.toList ++ one) (text ++ two)

theorem spelling_signOf (mark : List Char → Bool) (text : List Char) :
    (signOf mark text).spelling.toList = [if mark text then '@' else '.'] := by
  unfold signOf
  split <;> rfl

namespace Masks

variable {mark : List Char → Bool} {one two more more' front text rest : List Char} {character : Char}

theorem refl (text : List Char) : Masks mark text text := by
  induction text with
  | nil => exact .nil
  | cons character rest ih => exact .plain character ih

theorem append (first : Masks mark one two) (second : Masks mark more more') :
    Masks mark (one ++ more) (two ++ more') := by
  induction first with
  | nil => exact second
  | plain character later ih => exact .plain character ih
  | comment block later ih =>
    rw [List.append_assoc, List.append_assoc]
    exact .comment block ih

theorem inBlocks (masks : Masks mark one two) (free : '/' ∉ one) : InBlocks two := by
  induction masks with
  | nil => exact .nil
  | plain character later ih =>
    rw [List.mem_cons, not_or] at free
    exact .plain (Ne.symm free.1) (ih free.2)
  | comment block later ih => exact .block block (ih fun member => free (List.mem_append_right _ member))

theorem eq_nil_iff (masks : Masks mark one two) : one = [] ↔ two = [] := by
  cases masks with
  | nil => simp
  | plain character later => simp
  | @comment text _ _ block later =>
    obtain ⟨rest, rfl⟩ := block.eq_cons
    simp [spelling_signOf]

/-- The second text starts as the first one does, or with a slash. -/
theorem head? (masks : Masks mark one two) : two.head? = one.head? ∨ two.head? = some '/' := by
  cases masks with
  | nil => exact .inl rfl
  | plain character later => exact .inl rfl
  | comment block later =>
    obtain ⟨rest, rfl⟩ := block.eq_cons
    exact .inr rfl

theorem cons_cases (masks : Masks mark (character :: one) two) :
    (∃ rest, two = character :: rest ∧ Masks mark one rest) ∨
      ∃ text rest, two = text ++ rest ∧ IsBlock text ∧ character = (if mark text then '@' else '.') ∧
        Masks mark one rest := by
  generalize whole : character :: one = text at masks
  cases masks with
  | nil => cases whole
  | plain _ later =>
    cases whole
    exact .inl ⟨_, rfl, later⟩
  | comment block later =>
    rw [spelling_signOf, List.singleton_append] at whole
    cases whole
    exact .inr ⟨_, _, rfl, block, rfl, later⟩

theorem of_append (apart : ∀ character ∈ front, character ≠ '@' ∧ character ≠ '.')
    (masks : Masks mark (front ++ one) two) : ∃ rest, two = front ++ rest ∧ Masks mark one rest := by
  induction front generalizing two with
  | nil => exact ⟨two, rfl, masks⟩
  | cons character front ih =>
    rcases masks.cons_cases with ⟨rest, rfl, later⟩ | ⟨text, rest, -, -, sign, -⟩
    · obtain ⟨rest, rfl, last⟩ := ih (fun other member => apart other (List.mem_cons_of_mem _ member)) later
      exact ⟨rest, rfl, last⟩
    · have first := apart character List.mem_cons_self
      rw [sign] at first
      split at first
      · exact absurd rfl first.1
      · exact absurd rfl first.2

/-- A character of the second text that starts no comment stands in both. -/
theorem cons_of (other : character ≠ '/') (masks : Masks mark one (character :: two)) :
    ∃ rest, one = character :: rest ∧ Masks mark rest two := by
  generalize whole : character :: two = text at masks
  cases masks with
  | nil => cases whole
  | plain _ later =>
    cases whole
    exact ⟨_, rfl, later⟩
  | comment block later =>
    obtain ⟨inner, rfl⟩ := block.eq_cons
    cases whole
    exact absurd rfl other

theorem comment_of (block : IsBlock text) (masks : Masks mark one (text ++ two)) (free : '/' ∉ one) :
    ∃ rest, one = (if mark text then '@' else '.') :: rest ∧ Masks mark rest two := by
  generalize whole : text ++ two = both at masks
  obtain ⟨inner, shown⟩ := block.eq_cons
  cases masks with
  | nil => simp [shown] at whole
  | plain character later =>
    rw [shown, List.cons_append] at whole
    cases whole
    exact absurd List.mem_cons_self free
  | comment second later =>
    obtain ⟨rfl, rfl⟩ := block.append_inj second whole
    exact ⟨_, by rw [spelling_signOf]; rfl, later⟩

theorem eq_of_forall (blocks : InBlocks one)
    (all : ∀ mark, ∃ text, '/' ∉ text ∧ Masks mark text one ∧ Masks mark text two) : one = two := by
  induction blocks generalizing two with
  | nil =>
    obtain ⟨text, -, first, second⟩ := all fun _ => true
    exact (second.eq_nil_iff.mp (first.eq_nil_iff.mpr rfl)).symm
  | @plain character one other later ih =>
    -- where all signs are other characters than this one, it stands in the second text too
    obtain ⟨rest, rfl⟩ : ∃ rest, two = character :: rest := by
      obtain ⟨text, -, first, second⟩ := all fun _ => character ≠ '@'
      obtain ⟨text, rfl, -⟩ := first.cons_of other
      rcases second.cons_cases with ⟨rest, same, -⟩ | ⟨comment, rest, -, -, sign, -⟩
      · exact ⟨rest, same⟩
      · by_cases same : character = '@' <;> simp [same] at sign
    refine congrArg _ (ih fun mark => ?_)
    obtain ⟨text, free, first, second⟩ := all mark
    obtain ⟨back, rfl, inner⟩ := first.cons_of other
    obtain ⟨_, same, inner'⟩ := second.cons_of other
    cases same
    exact ⟨back, fun member => free (List.mem_cons_of_mem _ member), inner, inner'⟩
  | @block comment one block later ih =>
    -- its sign is not the same in all forms
    obtain ⟨second, rest, rfl, also⟩ : ∃ second rest, two = second ++ rest ∧ IsBlock second := by
      have starts (flag : Bool) : (∃ rest, two = (if flag then '@' else '.') :: rest) ∨
          ∃ second rest, two = second ++ rest ∧ IsBlock second := by
        obtain ⟨text, free, first, second⟩ := all fun _ => flag
        obtain ⟨back, rfl, -⟩ := first.comment_of block free
        rcases second.cons_cases with ⟨rest, same, -⟩ | ⟨other, rest, same, block, -⟩
        · exact .inl ⟨rest, same⟩
        · exact .inr ⟨other, rest, same, block⟩
      rcases starts true with ⟨rest, rfl⟩ | found
      · exact (starts false).resolve_left fun ⟨_, same⟩ => by cases same
      · exact found
    obtain rfl : comment = second := by
      by_contra differ
      obtain ⟨text, free, first, second⟩ := all fun text => text = comment
      obtain ⟨_, rfl, -⟩ := first.comment_of block free
      obtain ⟨_, same, -⟩ := second.comment_of also free
      simp [Ne.symm differ] at same
    refine congrArg _ (ih fun mark => ?_)
    obtain ⟨text, free, first, second⟩ := all mark
    obtain ⟨back, rfl, inner⟩ := first.comment_of block free
    obtain ⟨_, same, inner'⟩ := second.comment_of block free
    cases same
    exact ⟨back, fun member => free (List.mem_cons_of_mem _ member), inner, inner'⟩

end Masks

/-! ### Masked groups -/

namespace TokenGroup

variable {mark : List Char → Bool} {one two : List Char} {value value' : String}

def Veils (mark : List Char → Bool) (value value' : String) : Prop :=
  value = value' ∨ (IsBlock value'.toList ∧ value = (signOf mark value'.toList).spelling)

/-- A sign and a comment are written in the same way. -/
theorem form_of_block (mark : List Char → Bool) {text : List Char} (block : IsBlock text) :
    (isClosing (signOf mark text).spelling.toList = false ∧ isClosing text = false) ∧
      endsOpen (signOf mark text).spelling.toList = false ∧ endsOpen text = false := by
  refine ⟨⟨?_, ?_⟩, ?_, ?_⟩
  · rw [spelling_signOf]
    split <;> decide
  · obtain ⟨rest, rfl⟩ := block.eq_cons
    simp [isClosing, occursIn, List.isPrefixOf]
  · rw [spelling_signOf]
    split <;> decide
  · obtain ⟨inner, rfl, -⟩ := block
    simp [endsOpen, List.getLast?_cons]

/-- Texts that go on alike: they are masked, and what is written behind them is written in the same way. -/
structure GoOn (mark : List Char → Bool) (one two : List Char) : Prop where
  masks : Masks mark one two
  empty : one.isEmpty = two.isEmpty
  ends : endsOpen one = endsOpen two

theorem GoOn.append (goOn : GoOn mark one two) (veils : Veils mark value value') :
    GoOn mark (append one value.toList) (append two value'.toList) := by
  -- what is added goes on alike and closes alike
  obtain ⟨masks, closing, ends, empty⟩ : Masks mark value.toList value'.toList ∧
      isClosing value.toList = isClosing value'.toList ∧ endsOpen value.toList = endsOpen value'.toList ∧
        (value.toList = [] ↔ value'.toList = []) := by
    rcases veils with rfl | ⟨block, rfl⟩
    · exact ⟨.refl _, rfl, rfl, Iff.rfl⟩
    · obtain ⟨closing, ends⟩ := form_of_block mark block
      have masks : Masks mark (signOf mark value'.toList).spelling.toList value'.toList := by
        have whole : Masks mark ((signOf mark value'.toList).spelling.toList ++ []) (value'.toList ++ []) :=
          .comment block .nil
        rwa [List.append_nil, List.append_nil] at whole
      exact ⟨masks, closing.1.trans closing.2.symm, ends.1.trans ends.2.symm, masks.eq_nil_iff⟩
  have written {added added' : List Char} (later : Masks mark added added') (last : endsOpen added = endsOpen added')
      (shown : added ≠ []) : GoOn mark (one ++ added) (two ++ added') := by
    have shown' : added' ≠ [] := fun none => shown (later.eq_nil_iff.mpr none)
    have full {front back : List Char} (shown : back ≠ []) : (front ++ back).isEmpty = false :=
      List.isEmpty_eq_false_iff.mpr (List.append_ne_nil_of_right_ne_nil front shown)
    refine ⟨goOn.masks.append later, by rw [full shown, full shown'], ?_⟩
    rw [endsOpen_append shown, endsOpen_append shown', last]
  rw [TokenGroup.append, TokenGroup.append, goOn.empty, goOn.ends, closing]
  by_cases none : value.toList = []
  · rw [none, empty.mp none]
    have blank : isClosing [] = true := rfl
    simpa [blank] using goOn
  · have none' : value'.toList ≠ [] := fun shown => none (empty.mpr shown)
    split
    · exact written masks ends none
    · refine written (.plain ' ' masks) ?_ (List.cons_ne_nil _ _)
      change endsOpen ([' '] ++ value.toList) = endsOpen ([' '] ++ value'.toList)
      rw [endsOpen_append none, endsOpen_append none', ends]

/-- A group is masked token by token. -/
theorem masks_join {values values' : List String} (veils : List.Forall₂ (Veils mark) values values') :
    Masks mark (join values).toList (join values').toList := by
  rw [join, join, String.toList_ofList, String.toList_ofList]
  have onward : ∀ {one two : List Char}, GoOn mark one two →
      GoOn mark ((values.map String.toList).foldl append one) ((values'.map String.toList).foldl append two) := by
    induction veils with
    | nil => exact fun goOn => goOn
    | cons first others ih => exact fun goOn => ih (goOn.append first)
  exact (onward ⟨.nil, rfl, rfl⟩).masks

end TokenGroup

/-! ### Reading a masked text -/

def BareToken.Veils (mark : List Char → Bool) (word : BareToken) (token : Token) : Prop :=
  word = token.bare ∨ (token.kind = .comment ∧ IsBlock token.value.toList ∧
    word = .symbol (signOf mark token.value.toList))

theorem Lexeme.readWithin_token {steps : Nat} {cursor after : Cursor} {found : Token}
    (read : cursor.next true = .token found after) : Lexeme.readWithin (steps + 1) cursor =
      (.token found :: (Lexeme.readWithin steps after).1, (Lexeme.readWithin steps after).2) := by
  rw [Lexeme.readWithin, read]

theorem BareToken.IsWord.apart {token : BareToken} (isWord : token.IsWord) :
    ∀ character ∈ token.value.toList, character ≠ '@' ∧ character ≠ '.' := by
  have letters : ∀ {character}, isWordCharacter character = true → character ≠ '@' ∧ character ≠ '.' := by
    intro character word
    have inside := within_breakRanges_eq_false word
    constructor <;> rintro rfl <;> exact absurd inside (by decide)
  cases isWord with
  | @identifier first rest noDigit start word =>
    rw [String.toList_ofList]
    exact List.forall_mem_cons.mpr
      ⟨letters (isWordCharacter_of_startsName start), fun _ member => letters (word _ member)⟩
  | @number first rest digit word =>
    rw [String.toList_ofList]
    exact List.forall_mem_cons.mpr ⟨letters (isWordCharacter_of_isDigit digit), fun _ member => letters (word _ member)⟩
  | @lifetime rest named word =>
    rw [String.toList_ofList]
    exact List.forall_mem_cons.mpr ⟨by decide, fun _ member => letters (word _ member)⟩

theorem TokenKind.spelling_apart {kind : TokenKind} (isSymbol : kind ∈ symbols) (other : kind ∉ signs) :
    ∀ character ∈ kind.spelling.toList, character ≠ '@' ∧ character ≠ '.' := by
  have all : ∀ kind ∈ symbols, kind ∉ signs →
      (kind.spelling.toList.all fun character => character ≠ '@' && character ≠ '.') = true := by decide
  intro character member
  simpa using List.all_eq_true.mp (all kind isSymbol other) character member

theorem Masks.symbol_cases {mark : List Char → Bool} {one two : List Char} {kind : TokenKind}
    (isSymbol : kind ∈ TokenKind.symbols) (masks : Masks mark (kind.spelling.toList ++ one) two) :
    (∃ rest, two = kind.spelling.toList ++ rest ∧ Masks mark one rest) ∨
      ∃ text rest, two = text ++ rest ∧ IsBlock text ∧ kind = signOf mark text ∧ Masks mark one rest := by
  by_cases sign : kind ∈ TokenKind.signs
  · have known : kind = .atSign ∧ kind.spelling.toList = ['@'] ∨ kind = .dot ∧ kind.spelling.toList = ['.'] := by
      revert sign
      cases kind <;> decide
    rcases known with ⟨rfl, spelling⟩ | ⟨rfl, spelling⟩
    all_goals
      rw [spelling, List.singleton_append] at masks
      rcases masks.cons_cases with ⟨rest, rfl, later⟩ | ⟨text, rest, rfl, block, same, later⟩
      · exact .inl ⟨rest, by rw [spelling]; rfl, later⟩
      · refine .inr ⟨text, rest, rfl, block, ?_, later⟩
        unfold signOf
        split at same
        · first | exact absurd same (by decide) | simp [*]
        · first | exact absurd same (by decide) | simp [*]
  · exact .inl (masks.of_append (TokenKind.spelling_apart isSymbol sign))

def ReadsVeiled (mark : List Char → Bool) (steps : Nat) (text : List Char) (position : Position)
    (words : List BareToken) : Prop :=
  ∃ (placed : List Token) (after : Position),
    Lexeme.readWithin steps ⟨text, position⟩ = (placed.map .token, .finished after) ∧
      List.Forall₂ (BareToken.Veils mark) words placed

section

variable {mark : List Char → Bool} {steps : Nat} {text rest : List Char} {position : Position} {words : List BareToken}

theorem ReadsVeiled.token {found : Token} {word : BareToken}
    (read : Cursor.next true ⟨text ++ rest, position⟩ = .token found ⟨rest, position.advance text⟩)
    (veils : word.Veils mark found) (later : ReadsVeiled mark steps rest (position.advance text) words) :
    ReadsVeiled mark (steps + 1) (text ++ rest) position (word :: words) := by
  obtain ⟨placed, after, behind, all⟩ := later
  refine ⟨found :: placed, after, ?_, .cons veils all⟩
  rw [Lexeme.readWithin_token read, behind]
  rfl

theorem ReadsVeiled.blank {character : Char} (isBlank : isBlank character = true)
    (later : ReadsVeiled mark (steps + 1) rest (position.step character) words) :
    ReadsVeiled mark (steps + 1) (character :: rest) position words := by
  obtain ⟨placed, after, read, same⟩ := later
  refine ⟨placed, after, ?_, same⟩
  rw [← read, Lexeme.readWithin, Lexeme.readWithin]
  simp only [Cursor.next, skipBlanks_blank isBlank]

theorem ReadsVeiled.symbol {kind : TokenKind} (isSymbol : kind ∈ TokenKind.symbols)
    (alone : kind = .colon → rest.head? ≠ some ':')
    (later : ReadsVeiled mark steps rest (position.advance kind.spelling.toList) words) :
    ReadsVeiled mark (steps + 1) (kind.spelling.toList ++ rest) position (.symbol kind :: words) := by
  obtain ⟨first, others, spelling, solid, noSlash, -⟩ := spelling_eq_cons isSymbol
  have read : Cursor.next true ⟨kind.spelling.toList ++ rest, position⟩ =
      .token ⟨kind, kind.spelling, position⟩ ⟨rest, position.advance kind.spelling.toList⟩ := by
    rw [next_eq_plain (by simp [spelling, solid]) (by simp [spelling, noSlash]), plain_symbol isSymbol alone]
  exact .token read (.inl rfl) later

theorem ReadsVeiled.word {token : BareToken} (isWord : token.IsWord) (alone : rest.head?.any isWordCharacter = false)
    (later : ReadsVeiled mark steps rest (position.advance token.value.toList) words) :
    ReadsVeiled mark (steps + 1) (token.value.toList ++ rest) position (token :: words) := by
  obtain ⟨first, others, spelling, solid, noSlash⟩ := value_eq_cons_of_isWord isWord
  have read : Cursor.next true ⟨token.value.toList ++ rest, position⟩ =
      .token ⟨token.kind, token.value, position⟩ ⟨rest, position.advance token.value.toList⟩ := by
    rw [next_eq_plain (by simp [spelling, solid]) (by simp [spelling, noSlash]), plain_word isWord alone]
  exact .token read (.inl rfl) later

theorem ReadsVeiled.comment {comment : List Char} (block : IsBlock comment)
    (later : ReadsVeiled mark steps rest (position.advance comment) words) :
    ReadsVeiled mark (steps + 1) (comment ++ rest) position (.symbol (signOf mark comment) :: words) := by
  have text : (String.ofList comment).toList = comment := String.toList_ofList
  have read := next_block (by rwa [text]) rest position
  rw [text] at read
  exact .token read (.inr ⟨rfl, by rwa [text], by rw [text]⟩) later

end

/-- A text is read as its masked form is, with its comments in the places of their signs. -/
theorem Spelled.readWithin_masked {mark : List Char → Bool} {one : List Char} {words : List BareToken}
    (spelled : Spelled one words) : ∀ {two : List Char}, Masks mark one two → ∀ (steps : Nat) (position : Position),
      two.length < steps → ReadsVeiled mark steps two position words := by
  -- what is read first is not empty, so there are steps enough for what is behind it
  have short {front back : List Char} {steps : Nat} (shown : front ≠ []) (less : (front ++ back).length < steps + 1) :
      back.length < steps := by
    have some := List.length_pos_iff.mpr shown
    rw [List.length_append] at less
    omega
  induction spelled with
  | nil =>
    intro two masks steps position enough
    obtain ⟨steps, rfl⟩ := Nat.exists_eq_succ_of_ne_zero (Nat.ne_zero_of_lt enough)
    rw [masks.eq_nil_iff.mp rfl]
    exact ⟨[], position, rfl, .nil⟩
  | @blank character rest tokens isBlank later ih =>
    intro two masks steps position enough
    have apart : ∀ other ∈ [character], other ≠ '@' ∧ other ≠ '.' := by
      rw [List.forall_mem_singleton]
      constructor <;> rintro rfl <;> exact absurd isBlank (by decide)
    obtain ⟨two, rfl, inner⟩ := Masks.of_append apart masks
    rw [List.singleton_append] at enough ⊢
    obtain ⟨steps, rfl⟩ := Nat.exists_eq_succ_of_ne_zero (Nat.ne_zero_of_lt enough)
    exact .blank isBlank (ih inner (steps + 1) _ (Nat.lt_of_succ_lt enough))
  | @symbol kind rest tokens isSymbol single later ih =>
    intro two masks steps position enough
    obtain ⟨steps, rfl⟩ := Nat.exists_eq_succ_of_ne_zero (Nat.ne_zero_of_lt enough)
    rcases masks.symbol_cases isSymbol with ⟨back, rfl, inner⟩ | ⟨comment, back, rfl, block, rfl, inner⟩
    · obtain ⟨first, others, spelling, -⟩ := spelling_eq_cons isSymbol
      refine .symbol isSymbol (fun colon shown => ?_)
        (ih inner steps _ (short (spelling ▸ List.cons_ne_nil first others) enough))
      rcases inner.head? with same | slash
      · exact single colon (same ▸ shown)
      · exact absurd (slash.symm.trans shown) (by decide)
    · obtain ⟨others, shown⟩ := block.eq_cons
      exact .comment block (ih inner steps _ (short (shown ▸ List.cons_ne_nil _ _) enough))
  | @word token rest tokens isWord parted later ih =>
    intro two masks steps position enough
    obtain ⟨steps, rfl⟩ := Nat.exists_eq_succ_of_ne_zero (Nat.ne_zero_of_lt enough)
    obtain ⟨first, others, spelling, -⟩ := value_eq_cons_of_isWord isWord
    obtain ⟨back, rfl, inner⟩ := masks.of_append isWord.apart
    refine .word isWord ?_ (ih inner steps _ (short (spelling ▸ List.cons_ne_nil first others) enough))
    rcases inner.head? with same | slash
    · rwa [same]
    · rw [slash]
      exact isWordCharacter_slash

end CowView
