import CowView.Proofs.Buffering
import Mathlib.Data.List.Induction
import Mathlib.Data.Nat.Find

/-!
Where the tokens of a text lie. A lexer that comes to the end of its text has lost nothing of it
(`Buffered.tokens_lossless`): each token is the piece of the text at its offsets, the pieces follow on each other,
and there are only blanks between them.
-/

namespace CowView

open Text

namespace Position

def lineStart (text : List Char) (offset : Nat) : Nat :=
  Nat.findGreatest (fun start => 0 < start ∧ text[start - 1]? = some '\n') offset

theorem lineStart_succ (text : List Char) (offset : Nat) : lineStart text (offset + 1) =
    if text[offset]? = some '\n' then offset + 1 else lineStart text offset := by
  unfold lineStart
  rw [Nat.findGreatest_succ]
  simp

theorem lineStart_le (text : List Char) (offset : Nat) : lineStart text offset ≤ offset :=
  Nat.findGreatest_le offset

theorem lineStart_append (front behind : List Char) {offset : Nat} (inside : offset ≤ front.length) :
    lineStart (front ++ behind) offset = lineStart front offset := by
  induction offset with
  | zero => rfl
  | succ offset ih =>
    rw [lineStart_succ, lineStart_succ, ih (by omega), List.getElem?_append_left (by omega)]

/-- The place behind some characters: lines are counted by their feeds, columns from the start of the line. -/
theorem start_advance (front : List Char) : start.advance front =
    ⟨front.length, 1 + front.count '\n', front.length - lineStart front front.length + 1⟩ := by
  induction front using List.reverseRecOn with
  | nil => rfl
  | append_singleton front character ih =>
    have within := lineStart_le front front.length
    rw [advance_append, ih, advance_cons, advance_nil, List.length_append, List.length_singleton, lineStart_succ,
      List.getElem?_concat_length, lineStart_append front [character] le_rfl]
    unfold step
    by_cases feed : character = '\n'
    · subst feed
      simp [Nat.add_assoc]
    · have other : ¬ some character = some '\n' := by simpa using feed
      rw [if_neg feed, if_neg other]
      simp [feed]
      omega

end Position

/-- The tokens are spread over the text in their order. Each is the piece of the text at its offsets and knows its
line and its column, and a character of the text that belongs to none is blank. -/
structure Lossless (text : List Char) (tokens : List Token) : Prop where
  ordered : tokens.Pairwise fun earlier later =>
    earlier.offset < later.offset ∧ earlier.endOffset ≤ later.offset
  inside : ∀ token ∈ tokens, 0 ≤ token.offset ∧ token.endOffset ≤ text.length
  piece : ∀ token ∈ tokens,
    text.extract token.offset.toNat token.endOffset.toNat = token.value.toList
  blank : ∀ (offset : Nat) (character : Char), text[offset]? = some character →
    (∀ token ∈ tokens, ¬ (token.offset ≤ offset ∧ offset < token.endOffset)) → isBlank character = true
  line : ∀ token ∈ tokens, token.line = 1 + (text.take token.offset.toNat).count '\n'
  column : ∀ token ∈ tokens,
    token.column = token.offset.toNat - Position.lineStart text token.offset.toNat + 1

inductive Laid : List Char → List Char → List Token → Prop where
  | finished {front rest : List Char} (blank : ∀ character ∈ rest, isBlank character = true) : Laid front rest []
  | token {front blanks feed rest : List Char} {token : Token} {tokens : List Token}
      (blank : ∀ character ∈ blanks, isBlank character = true) (shown : token.value.toList ≠ [])
      (fed : ∀ character ∈ feed, isBlank character = true) (more : token.kind ≠ .endOfInput)
      (start : token.position = Position.start.advance (front ++ blanks))
      (later : Laid (front ++ (blanks ++ (token.value.toList ++ feed))) rest tokens) :
      Laid front (blanks ++ (token.value.toList ++ (feed ++ rest))) (token :: tokens)

namespace Laid

variable {front rest : List Char} {token : Token} {tokens : List Token}

/-- A token stands in the text where its place says. -/
theorem exists_parts (laid : Laid front rest tokens) (member : token ∈ tokens) : ∃ before behind,
    front ++ rest = before ++ (token.value.toList ++ behind) ∧ front.length ≤ before.length ∧
      token.value.toList ≠ [] ∧ token.kind ≠ .endOfInput ∧ token.position = Position.start.advance before := by
  induction laid with
  | finished => cases member
  | @token front blanks feed rest first tokens blank shown fed more start later ih =>
    rcases List.mem_cons.mp member with rfl | member
    · exact ⟨front ++ blanks, feed ++ rest, by simp, by simp, shown, more, start⟩
    · obtain ⟨before, behind, text, beyond, others⟩ := ih member
      refine ⟨before, behind, ?_, ?_, others⟩
      · rw [← text]
        simp
      · simp only [List.length_append] at beyond
        omega

theorem offset_eq {before : List Char} (more : token.kind ≠ .endOfInput)
    (start : token.position = Position.start.advance before) : token.offset = before.length := by
  rw [Token.offset, if_neg more, start, Position.start_advance]

theorem ordered (laid : Laid front rest tokens) : tokens.Pairwise fun earlier later =>
    earlier.offset < later.offset ∧ earlier.endOffset ≤ later.offset := by
  induction laid with
  | finished => exact .nil
  | @token front blanks feed rest first tokens blank shown fed more start later ih =>
    refine .cons (fun other member => ?_) ih
    obtain ⟨before, -, -, beyond, -, more', start'⟩ := later.exists_parts member
    have length := List.length_pos_iff.mpr shown
    rw [Token.endOffset, offset_eq more start, offset_eq more' start', Token.length]
    simp only [List.length_append] at beyond ⊢
    omega

theorem blank (laid : Laid front rest tokens) {place : Nat} {character : Char} (found : rest[place]? = some character)
    (apart : ∀ token ∈ tokens, ¬ (token.offset ≤ front.length + place ∧ front.length + place < token.endOffset)) :
    isBlank character = true := by
  induction laid generalizing place with
  | finished blank => exact blank character (List.mem_of_getElem? found)
  | @token front blanks feed rest first tokens blank shown fed more start later ih =>
    have own := apart first (by simp)
    rw [Token.endOffset, offset_eq more start, Token.length, List.length_append] at own
    by_cases before : place < blanks.length
    · rw [List.getElem?_append_left before] at found
      exact blank character (List.mem_of_getElem? found)
    rw [List.getElem?_append_right (by omega), List.getElem?_append_right (by omega)] at found
    by_cases between : place - blanks.length - first.value.toList.length < feed.length
    · rw [List.getElem?_append_left between] at found
      exact fed character (List.mem_of_getElem? found)
    rw [List.getElem?_append_right (by omega)] at found
    refine ih found fun token member => ?_
    have other := apart token (by simp [member])
    simp only [List.length_append] at own ⊢
    omega

theorem lossless {text : List Char} (laid : Laid [] text tokens) : Lossless text tokens := by
  refine ⟨laid.ordered, fun token member => ?_, fun token member => ?_, fun offset character found apart => ?_,
    fun token member => ?_, fun token member => ?_⟩
  · obtain ⟨before, behind, text, -, -, more, start⟩ := laid.exists_parts member
    rw [List.nil_append] at text
    rw [Token.endOffset, offset_eq more start, Token.length, text]
    simp only [List.length_append]
    omega
  · obtain ⟨before, behind, text, -, -, more, start⟩ := laid.exists_parts member
    rw [List.nil_append] at text
    rw [Token.endOffset, offset_eq more start, Token.length, text, ← Int.natCast_add, Int.toNat_natCast,
      Int.toNat_natCast, List.extract_eq_take_drop, Nat.add_sub_cancel_left, List.drop_left, List.take_left]
  · refine laid.blank found ?_
    simpa using apart
  · obtain ⟨before, behind, text, -, -, more, start⟩ := laid.exists_parts member
    rw [List.nil_append] at text
    rw [Token.line, offset_eq more start, start, Position.start_advance, text, Int.toNat_natCast, List.take_left]
  · obtain ⟨before, behind, text, -, -, more, start⟩ := laid.exists_parts member
    rw [List.nil_append] at text
    rw [Token.column, offset_eq more start, start, Position.start_advance, text, Int.toNat_natCast,
      Position.lineStart_append _ _ le_rfl]

end Laid

theorem Cursor.Reads.laid {cursor : Cursor} {tokens : List Token} (reads : cursor.Reads tokens) {front : List Char}
    (place : cursor.position = Position.start.advance front) : Laid front cursor.rest tokens := by
  induction reads generalizing front with
  | finished scan => exact .finished (Cursor.next_finished scan).1
  | @token cursor after token tokens scan later ih =>
    obtain ⟨blanks, feed, cut⟩ := Cursor.next_cuts scan
    have start : token.position = Position.start.advance (front ++ blanks) := by
      rw [cut.start, place, ← Position.advance_append]
    have behind : after.position = Position.start.advance (front ++ (blanks ++ (token.value.toList ++ feed))) := by
      rw [cut.after, start, ← Position.advance_append, List.append_assoc]
    rw [cut.text]
    exact .token cut.blank cut.shown cut.fed (Lexer.next_lexed scan).kind_ne start (ih behind)

namespace Buffered

/-- **Lexing loses nothing.** When a lexer comes to the end of a text without a fault, its tokens follow on each
other in the text, each spells the characters between its offsets and knows its line and column, and every character
outside of them is blank. -/
theorem tokens_lossless {text : String} {tokens : List Token} {last : Buffered}
    (ran : (ofText text).tokens = (tokens, none, last)) : Lossless text.toList tokens :=
  ((Reaches.ofText text).reads ran).laid rfl |>.lossless

/-- A line comment without its line feed, and a symbol of two characters. -/
theorem tokens_lossless_comment : Lossless "a // b\n :: 'c".toList
    [⟨.identifier, "a", ⟨0, 1, 1⟩⟩, ⟨.comment, "// b", ⟨2, 1, 3⟩⟩, ⟨.doubleColon, "::", ⟨8, 2, 2⟩⟩,
      ⟨.lifetime, "'c", ⟨11, 2, 5⟩⟩] :=
  have ran : (ofText "a // b\n :: 'c").tokens = (_, none, ⟨[], [], true, ⟨13, 2, 7⟩, true⟩) := by decide +kernel
  tokens_lossless ran

end Buffered

end CowView
