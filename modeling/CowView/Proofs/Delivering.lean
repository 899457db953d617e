import CowView.Proofs.Enclosure
import CowView.Proofs.Noting
import Mathlib.Data.Stream.Init

/-!
What a stream of tokens delivers. A stream stands for the endless sequence of the tokens that it gives one after another
(`TokenStream.Delivers`), whatever is put back and however the end of the input came to be among the tokens put back.
Each action on a stream does one thing to that sequence (`TokenStream.Conducts`). After any run of actions, and with
tokens put back in the order opposite to the one in which they were taken, the sequence is a rest of what the lexer
delivers, of which only comments are missing (`TokenStream.Handled.delivers_rest`).
-/

namespace CowView

theorem AllComments.filter_eq_nil {comments : List Token} (all : AllComments comments) :
    comments.filter (! ·.isComment) = [] := by
  simpa [AllComments] using all

namespace TokenStream

variable {stream left : TokenStream} {sequence rest : Stream' Token} {token : Token} {kind : TokenKind}
  {wanted : Option String}

/-! ### Sequences of tokens -/

def nexts : Nat → Reading (List Token)
  | 0 => return []
  | count + 1 => do
    let token ← next
    return token :: (← nexts count)

def Delivers (stream : TokenStream) (sequence : Stream' Token) : Prop :=
  ∀ count, ∃ left, nexts count stream = .ok (sequence.take count) left

theorem nexts_succ (count : Nat) (first : next stream = .ok token left) :
    nexts (count + 1) stream = match nexts count left with
      | .ok tokens behind => .ok (token :: tokens) behind
      | .error fault behind => .error fault behind := by
  rw [nexts, bind_apply, first]
  dsimp only
  rw [bind_apply]
  cases nexts count left <;> rfl

theorem delivers_iff_next : stream.Delivers sequence ↔
    ∃ left, next stream = .ok sequence.head left ∧ left.Delivers sequence.tail := by
  constructor
  · intro delivers
    cases first : next stream with
    | error fault left =>
      obtain ⟨behind, read⟩ := delivers 1
      rw [nexts, bind_apply, first] at read
      cases read
    | ok token left =>
      have later (count : Nat) : ∃ behind, nexts count left = .ok (sequence.tail.take count) behind ∧
          token = sequence.head := by
        obtain ⟨behind, read⟩ := delivers (count + 1)
        rw [nexts_succ count first] at read
        cases run : nexts count left with
        | error fault other =>
          rw [run] at read
          cases read
        | ok tokens other =>
          rw [run, Stream'.take_succ] at read
          cases read
          exact ⟨_, rfl, rfl⟩
      obtain ⟨-, -, same⟩ := later 0
      exact ⟨left, by rw [same], fun count => (later count).imp fun _ run => run.1⟩
  · rintro ⟨left, first, later⟩ count
    cases count with
    | zero => exact ⟨stream, rfl⟩
    | succ count =>
      obtain ⟨behind, read⟩ := later count
      exact ⟨behind, by rw [nexts_succ count first, read, Stream'.take_succ]⟩

theorem Delivers.unique {other : Stream' Token} (delivers : stream.Delivers sequence)
    (again : stream.Delivers other) : sequence = other := by
  refine Stream'.take_theorem _ _ fun count => ?_
  obtain ⟨left, read⟩ := delivers count
  obtain ⟨behind, same⟩ := again count
  rw [read] at same
  injection same

theorem delivers_finished (position : Position) (docs : String) :
    Delivers ⟨[], .finished position, docs⟩ (Stream'.const (.endAt position)) := by
  intro count
  induction count with
  | zero => exact ⟨_, rfl⟩
  | succ count ih =>
    obtain ⟨left, read⟩ := ih
    have again : next ⟨[], .finished position, docs⟩ = .ok (.endAt position) ⟨[], .finished position, docs⟩ := rfl
    refine ⟨left, ?_⟩
    rw [nexts_succ count again, read, Stream'.take_succ, Stream'.tail_const]
    rfl

theorem delivers_append_iff {front : List Token} {pending : List Lexeme} {ending : Ending} {docs : String} :
    Delivers ⟨front.map .token ++ pending, ending, docs⟩ sequence ↔
      ∃ rest, sequence = front ++ₛ rest ∧ Delivers ⟨pending, ending, docs⟩ rest := by
  induction front generalizing sequence with
  | nil => simp
  | cons token front ih =>
    rw [delivers_iff_next]
    constructor
    · rintro ⟨left, first, later⟩
      cases first
      obtain ⟨rest, same, delivers⟩ := ih.mp later
      refine ⟨rest, ?_, delivers⟩
      rw [Stream'.cons_append_stream, ← same, Stream'.eta]
    · rintro ⟨rest, rfl, delivers⟩
      exact ⟨_, rfl, ih.mpr ⟨rest, rfl, delivers⟩⟩

theorem delivers_iff : stream.Delivers sequence ↔ ∃ tokens position, stream.pending = tokens.map .token ∧
    stream.ending = .finished position ∧ sequence = tokens ++ₛ Stream'.const (.endAt position) := by
  obtain ⟨pending, ending, docs⟩ := stream
  constructor
  · intro delivers
    induction pending generalizing sequence with
    | nil =>
      cases ending with
      | finished position => exact ⟨[], position, rfl, rfl, delivers.unique (delivers_finished position docs)⟩
      | stuck fault =>
        obtain ⟨left, first, -⟩ := delivers_iff_next.mp delivers
        cases first
    | cons lexeme pending ih =>
      obtain ⟨left, first, later⟩ := delivers_iff_next.mp delivers
      cases lexeme with
      | fault fault => cases first
      | token token =>
        cases first
        obtain ⟨tokens, position, rfl, rfl, same⟩ := ih later
        refine ⟨sequence.head :: tokens, position, rfl, rfl, ?_⟩
        rw [Stream'.cons_append_stream, ← same, Stream'.eta]
  · rintro ⟨tokens, position, rfl, rfl, rfl⟩
    rw [← List.append_nil (tokens.map _), delivers_append_iff]
    exact ⟨_, rfl, delivers_finished position docs⟩

namespace Delivers

theorem front? (delivers : stream.Delivers sequence) : stream.front? = some sequence.head := by
  obtain ⟨left, first, -⟩ := delivers_iff_next.mp delivers
  exact (next_eq_ok_iff.mp first).1

theorem advanced (delivers : stream.Delivers sequence) : stream.advanced.Delivers sequence.tail := by
  obtain ⟨left, first, later⟩ := delivers_iff_next.mp delivers
  rwa [(next_eq_ok_iff.mp first).2] at later

/-- The documentation on the side does not matter. -/
theorem congr (delivers : stream.Delivers sequence) (pending : left.pending = stream.pending)
    (ending : left.ending = stream.ending) : left.Delivers sequence := by
  rw [delivers_iff] at delivers ⊢
  rwa [pending, ending]

theorem nexts (delivers : stream.Delivers sequence) (count : Nat) : ∃ left,
    nexts count stream = .ok (sequence.take count) left ∧ left.Delivers (sequence.drop count) := by
  induction count generalizing stream sequence with
  | zero => exact ⟨stream, rfl, delivers⟩
  | succ count ih =>
    obtain ⟨left, first, later⟩ := delivers_iff_next.mp delivers
    obtain ⟨behind, read, rest⟩ := ih later
    exact ⟨behind, by rw [nexts_succ count first, read, Stream'.take_succ], rest⟩

/-- Tokens that are put back, the last one first, come first. -/
theorem ungets (delivers : stream.Delivers sequence) (tokens : List Token) : ∃ left,
    tokens.reverse.forM unget stream = .ok () left ∧ left.Delivers (tokens ++ₛ sequence) := by
  refine ⟨_, forM_unget _ _, delivers_append_iff.mpr ⟨sequence, ?_, delivers⟩⟩
  rw [List.reverse_reverse]

end Delivers

/-! ### Comments -/

def Skips (sequence rest : Stream' Token) : Prop :=
  ∃ comments, AllComments comments ∧ sequence = comments ++ₛ rest ∧ rest.head.isComment = false

inductive Thinned (sequence : Stream' Token) : Stream' Token → Prop
  | whole : Thinned sequence sequence
  | less {front : List Token} {comment : Token} {rest : Stream' Token} :
    Thinned sequence (front ++ₛ ([comment] ++ₛ rest)) → comment.isComment → Thinned sequence (front ++ₛ rest)

theorem Delivers.skipped (delivers : stream.Delivers sequence) :
    ∃ rest, Skips sequence rest ∧ stream.skipped.Delivers rest := by
  obtain ⟨comments, all, pending, -, settled⟩ := exists_dropped stream
  have whole : Delivers ⟨comments.map .token ++ stream.skipped.pending, stream.ending, stream.docs⟩ sequence :=
    delivers.congr pending.symm rfl
  obtain ⟨rest, same, later⟩ := delivers_append_iff.mp whole
  have behind : stream.skipped.Delivers rest := later.congr rfl rfl
  exact ⟨rest, ⟨comments, all, same, settled _ behind.front?⟩, behind⟩

namespace Thinned

variable {first second third : Stream' Token}

theorem trans (one : Thinned first second) (two : Thinned second third) : Thinned first third := by
  induction two with
  | whole => exact one
  | less _ comment ih => exact ih.less comment

theorem append (tokens : List Token) (thinned : Thinned first second) :
    Thinned (tokens ++ₛ first) (tokens ++ₛ second) := by
  induction thinned with
  | whole => exact .whole
  | less _ comment ih =>
    rw [← Stream'.append_append_stream] at ih ⊢
    exact ih.less comment

theorem comments {front comments : List Token} {rest : Stream' Token} (all : AllComments comments)
    (thinned : Thinned first (front ++ₛ (comments ++ₛ rest))) : Thinned first (front ++ₛ rest) := by
  induction comments with
  | nil => exact thinned
  | cons comment comments ih =>
    rw [← List.singleton_append, Stream'.append_append_stream] at thinned
    exact ih (fun token member => all token (List.mem_cons_of_mem _ member))
      (thinned.less (all comment List.mem_cons_self))

theorem skips (skips : Skips first second) : Thinned first second := by
  obtain ⟨comments, all, same, -⟩ := skips
  have all_ : Thinned first ([] ++ₛ (comments ++ₛ second)) := same ▸ .whole
  exact all_.comments all

theorem filter (tokens : List Token) (rest : Stream' Token) :
    Thinned (tokens ++ₛ rest) (tokens.filter (! ·.isComment) ++ₛ rest) := by
  induction tokens with
  | nil => exact .whole
  | cons token tokens ih =>
    cases comment : token.isComment with
    | true =>
      rw [List.filter_cons_of_neg (by simp [comment])]
      have less : Thinned ([] ++ₛ ([token] ++ₛ (tokens ++ₛ rest))) ([] ++ₛ (tokens ++ₛ rest)) := .less .whole comment
      exact less.trans ih
    | false =>
      rw [List.filter_cons_of_pos (by simp [comment])]
      exact ih.append [token]

end Thinned

theorem exists_of_comment {front tokens : List Token} {comment last : Token} {rest : Stream' Token}
    (same : front ++ₛ ([comment] ++ₛ rest) = tokens ++ₛ Stream'.const last) (other : comment ≠ last) :
    ∃ back, tokens = front ++ comment :: back ∧ rest = back ++ₛ Stream'.const last := by
  induction front generalizing tokens with
  | nil =>
    cases tokens with
    | nil =>
      rw [Stream'.nil_append_stream, Stream'.nil_append_stream, Stream'.const_eq] at same
      exact absurd (Stream'.cons_injective2 same).1 other
    | cons token tokens =>
      obtain ⟨rfl, rfl⟩ := Stream'.cons_injective2 same
      exact ⟨tokens, rfl, rfl⟩
  | cons ahead front ih =>
    cases tokens with
    | nil =>
      rw [Stream'.nil_append_stream, Stream'.const_eq] at same
      have later : front ++ₛ ([comment] ++ₛ rest) = [] ++ₛ Stream'.const last := (Stream'.cons_injective2 same).2
      obtain ⟨back, none, -⟩ := ih later
      exact absurd none (by simp)
    | cons token tokens =>
      obtain ⟨rfl, later⟩ := Stream'.cons_injective2 same
      obtain ⟨back, rfl, behind⟩ := ih later
      exact ⟨back, rfl, behind⟩

/-- What is thinned still has all tokens besides comments, in order, and adds none. -/
theorem Thinned.tokens {lexed : List Token} {last : Token} (plain : last.isComment = false)
    (thinned : Thinned (lexed ++ₛ Stream'.const last) sequence) : ∃ tokens,
    sequence = tokens ++ₛ Stream'.const last ∧ tokens.Sublist lexed ∧
      tokens.filter (! ·.isComment) = lexed.filter (! ·.isComment) := by
  induction thinned with
  | whole => exact ⟨lexed, rfl, .refl _, rfl⟩
  | @less front comment rest _ own ih =>
    obtain ⟨tokens, same, sublist, kept⟩ := ih
    obtain ⟨back, rfl, rfl⟩ := exists_of_comment same (by
      rintro rfl
      rw [own] at plain
      cases plain)
    refine ⟨front ++ back, (Stream'.append_append_stream _ _ _).symm, ?_, ?_⟩
    · exact ((List.sublist_cons_self comment back).append_left front).trans sublist
    · rw [← kept, List.filter_append, List.filter_append, List.filter_cons_of_neg (by simp [own])]

theorem exists_rest {front tokens : List Token} {last : Token} {rest : Stream' Token}
    (same : front ++ₛ rest = tokens ++ₛ Stream'.const last) :
    ∃ back, rest = back ++ₛ Stream'.const last ∧ back <:+ tokens := by
  induction front generalizing tokens with
  | nil => exact ⟨tokens, same, List.suffix_refl _⟩
  | cons ahead front ih =>
    cases tokens with
    | nil =>
      rw [Stream'.nil_append_stream, Stream'.const_eq] at same
      have later : front ++ₛ rest = [] ++ₛ Stream'.const last := (Stream'.cons_injective2 same).2
      exact ih later
    | cons token tokens =>
      obtain ⟨back, behind, suffix⟩ := ih (Stream'.cons_injective2 same).2
      exact ⟨back, behind, suffix.trans (List.suffix_cons token tokens)⟩

/-! ### Actions -/

def run (kind : TokenKind) : List Lexeme → List Token
  | .token token :: rest =>
    if token.isComment then run kind rest else if token.kind = kind then token :: run kind rest else []
  | _ => []

def found? (kind : TokenKind) (wanted : Option String) (token : Token) : Option Token :=
  if fits kind wanted token then some token else none

structure Tests (stream : TokenStream) (rest : Stream' Token) : Prop where
  nextIf : ∀ kind wanted consume, ∃ left,
    TokenStream.nextIf kind wanted consume true stream = .ok (found? kind wanted rest.head) left ∧
      left.Delivers (if fits kind wanted rest.head && consume then rest.tail else rest)
  peekedIs : ∀ kind wanted, ∃ left,
    TokenStream.peekedIs kind wanted stream = .ok (fits kind wanted rest.head) left ∧ left.Delivers rest
  nextIs : ∀ kind wanted, ∃ left, TokenStream.nextIs kind wanted stream = .ok (fits kind wanted rest.head) left ∧
    left.Delivers (if fits kind wanted rest.head then rest.tail else rest)
  ensured : ∀ kind wanted peekOnly, fits kind wanted rest.head = true → ∃ left,
    TokenStream.ensure kind wanted peekOnly stream = .ok rest.head.value left ∧
      left.Delivers (if peekOnly then rest else rest.tail)
  refused : ∀ kind wanted peekOnly, fits kind wanted rest.head = false → ∃ left,
    TokenStream.ensure kind wanted peekOnly stream =
      .error (unexpected rest.head [(wanted.filter (· ≠ "")).getD kind.spelling]) left ∧ left.Delivers rest

def Consumes (kind : TokenKind) (stream : TokenStream) (sequence : Stream' Token) (left : TokenStream) : Prop :=
  ∃ front rest, sequence = front ++ₛ rest ∧ left.Delivers rest ∧
    (∀ token ∈ front, token.isComment = true ∨ token.kind = kind) ∧ rest.head.isComment = false ∧
    rest.head.kind ≠ kind ∧ run kind stream.pending = front.filter (! ·.isComment)

/-- What the actions on a stream do to the sequence that it delivers. Only the end of the input can be taken forever. -/
structure Conducts (stream : TokenStream) (sequence : Stream' Token) : Prop where
  next : ∃ left, TokenStream.next stream = .ok sequence.head left ∧ left.Delivers sequence.tail
  peek : ∃ left, TokenStream.peek stream = .ok sequence.head left ∧ left.Delivers sequence
  nexts : ∀ count, ∃ left back, TokenStream.nexts count stream = .ok (sequence.take count) left ∧
    left.Delivers (sequence.drop count) ∧ (sequence.take count).reverse.forM unget left = .ok () back ∧
    back.Delivers sequence
  ungets : ∀ tokens : List Token, ∃ left,
    tokens.reverse.forM unget stream = .ok () left ∧ left.Delivers (tokens ++ₛ sequence)
  fieldName : ∃ name left, lookaheadFieldName stream = .ok name left ∧ left.Delivers sequence
  plainly : ∀ kind wanted consume, ∃ left,
    nextIf kind wanted consume false stream = .ok (found? kind wanted sequence.head) left ∧
      left.Delivers (if fits kind wanted sequence.head && consume then sequence.tail else sequence)
  skipping : ∃ rest, Skips sequence rest ∧ stream.Tests rest
  consume : ∀ kind, (∃ left, TokenStream.consume kind stream = .ok () left ∧ Consumes kind stream sequence left) ∨
    kind = .endOfInput ∧ (∃ rest, Skips sequence rest ∧ rest.head.kind = .endOfInput) ∧
      ∃ left, TokenStream.consume kind stream = .error .outOfSteps left

theorem ensure_eq_ok {peekOnly : Bool} (shown : stream.skipped.front? = some token)
    (fit : fits kind wanted token = true) : ensure kind wanted peekOnly stream =
      .ok token.value (if peekOnly then stream.skipped else stream.skipped.advanced) := by
  unfold ensure
  rw [bind_apply, peekedIs_eq_ok_iff.mpr ⟨token, shown, fit.symm, rfl⟩]
  cases peekOnly with
  | true =>
    change (peek >>= fun token => pure token.value) _ = _
    rw [bind_apply, peek_eq_ok_iff.mpr ⟨shown, rfl⟩]
    rfl
  | false =>
    change (next >>= fun token => pure token.value) _ = _
    rw [bind_apply, next_eq_ok_iff.mpr ⟨shown, rfl⟩]
    rfl

/-- A token that is not the expected one is named in the fault, whether it would have been taken or not. -/
theorem ensure_refused (peekOnly : Bool) (shown : stream.skipped.front? = some token)
    (missed : fits kind wanted token = false) : ensure kind wanted peekOnly stream =
      .error (unexpected token [(wanted.filter (· ≠ "")).getD kind.spelling]) stream.skipped := by
  have same : ensure kind wanted peekOnly stream = ensure kind wanted false stream := by
    unfold ensure
    rw [bind_apply, bind_apply, peekedIs_eq_ok_iff.mpr ⟨token, shown, missed.symm, rfl⟩]
    change (peek >>= fun token => _) _ = (peek >>= fun token => _) _
    rw [bind_apply, bind_apply, peek_eq_ok_iff.mpr ⟨shown, rfl⟩]
    rfl
  rw [same, ensure_eq_error shown missed]

namespace Delivers

theorem tests (delivers : stream.skipped.Delivers rest) : stream.Tests rest where
  nextIf kind wanted consume := by
    refine ⟨_, nextIf_eq delivers.front? kind wanted consume, ?_⟩
    split
    · exact delivers.advanced
    · exact delivers
  peekedIs kind wanted := ⟨_, peekedIs_eq_ok_iff.mpr ⟨_, delivers.front?, rfl, rfl⟩, delivers⟩
  nextIs kind wanted := by
    refine ⟨_, nextIs_eq_ok_iff.mpr ⟨_, delivers.front?, rfl, rfl⟩, ?_⟩
    split
    · exact delivers.advanced
    · exact delivers
  ensured kind wanted peekOnly fit := by
    refine ⟨_, ensure_eq_ok delivers.front? fit, ?_⟩
    split
    · exact delivers
    · exact delivers.advanced
  refused kind wanted peekOnly missed := ⟨_, ensure_refused peekOnly delivers.front? missed, delivers⟩

/-- A test that counts comments as tokens leaves them where they are. -/
theorem plainly (delivers : stream.Delivers sequence) (kind : TokenKind) (wanted : Option String) (consume : Bool) :
    ∃ left, nextIf kind wanted consume false stream = .ok (found? kind wanted sequence.head) left ∧
      left.Delivers (if fits kind wanted sequence.head && consume then sequence.tail else sequence) := by
  have noted : ∃ left, noteDocs sequence.head stream = .ok () left ∧ left.Delivers sequence := by
    unfold noteDocs
    split
    · exact ⟨_, rfl, delivers.congr rfl rfl⟩
    · exact ⟨_, rfl, delivers⟩
  obtain ⟨between, wrote, later⟩ := noted
  unfold nextIf found?
  rw [if_neg Bool.false_ne_true, bind_apply, peek_eq_ok_iff.mpr ⟨delivers.front?, rfl⟩]
  dsimp only
  rw [bind_apply, wrote]
  dsimp only
  rw [pure_bind]
  cases fits kind wanted sequence.head with
  | false => exact ⟨between, rfl, later⟩
  | true =>
    cases consume with
    | false => exact ⟨between, rfl, later⟩
    | true =>
      refine ⟨between.advanced, ?_, later.advanced⟩
      rw [if_pos rfl, if_pos rfl, bind_apply, next_eq_ok_iff.mpr ⟨later.front?, rfl⟩]
      rfl

end Delivers

/-! ### Several tokens at once -/

theorem run_dropComments (kind : TokenKind) (lexemes : List Lexeme) (docs : String) :
    run kind (dropComments docs lexemes).1 = run kind lexemes := by
  induction lexemes generalizing docs with
  | nil => rfl
  | cons lexeme lexemes ih =>
    cases lexeme with
    | fault fault => rfl
    | token token =>
      cases comment : token.isComment with
      | false => simp [dropComments, comment]
      | true => simp [dropComments, run, comment, ih]

theorem run_skipped (kind : TokenKind) (stream : TokenStream) :
    run kind stream.skipped.pending = run kind stream.pending :=
  run_dropComments kind stream.pending stream.docs

theorem run_of_front? (shown : stream.front? = some token) (plain : token.isComment = false)
    (more : token.kind = kind → kind ≠ .endOfInput) : run kind stream.pending =
      if token.kind = kind then token :: run kind stream.advanced.pending else [] := by
  obtain ⟨pending, ending, docs⟩ := stream
  unfold front? at shown
  split at shown
  next first others same =>
    cases shown
    cases same
    simp [run, plain, advanced]
  next position same _ =>
    cases shown
    cases same
    exact (if_neg fun same => more same same.symm).symm
  · cases shown

namespace Delivers

theorem consumeWithin {steps : Nat} (delivers : stream.Delivers sequence) (more : kind ≠ .endOfInput)
    (room : stream.pending.length < steps) :
    ∃ left, consumeWithin kind steps stream = .ok () left ∧ Consumes kind stream sequence left := by
  induction steps generalizing stream sequence with
  | zero => exact absurd room (Nat.not_lt_zero _)
  | succ steps ih =>
    obtain ⟨rest, ⟨comments, all, rfl, plain⟩, behind⟩ := delivers.skipped
    have own := run_of_front? behind.front? plain fun _ => more
    rw [run_skipped] at own
    unfold TokenStream.consumeWithin
    rw [bind_apply, nextIs_eq_ok_iff.mpr ⟨_, behind.front?, rfl, rfl⟩]
    cases fit : fits kind none rest.head with
    | false =>
      have other : rest.head.kind ≠ kind := by simpa [fits] using fit
      refine ⟨_, rfl, comments, rest, rfl, behind, fun token member => .inl (all token member), plain, other, ?_⟩
      rw [own, if_neg other, all.filter_eq_nil]
    | true =>
      have kind := kind_of_fits fit
      have shorter := length_advanced behind.front? (by rwa [kind])
      have fewer := (dropComments_sublist stream.pending stream.docs).length_le
      change stream.skipped.pending.length ≤ stream.pending.length at fewer
      obtain ⟨left, read, front, last, same, later, each, solid, other, taken⟩ := ih behind.advanced (by omega)
      refine ⟨left, read, comments ++ rest.head :: front, last, ?_, later, ?_, solid, other, ?_⟩
      · rw [Stream'.append_append_stream, Stream'.cons_append_stream, ← same, Stream'.eta]
      · intro token member
        rcases List.mem_append.mp member with before | member
        · exact .inl (all token before)
        · rcases List.mem_cons.mp member with rfl | member
          · exact .inr kind
          · exact each token member
      · rw [own, if_pos kind, taken, List.filter_append, all.filter_eq_nil, List.nil_append,
          List.filter_cons_of_pos (by simp [plain])]

theorem consumeWithin_endless (steps : Nat) (delivers : stream.skipped.Delivers rest)
    (ended : ∀ count, (rest.get count).kind = .endOfInput) :
    ∃ left, TokenStream.consumeWithin .endOfInput steps stream = .error .outOfSteps left := by
  induction steps generalizing stream rest with
  | zero => exact ⟨stream, rfl⟩
  | succ steps ih =>
    have fit : fits .endOfInput none rest.head = true := by simpa [fits] using ended 0
    obtain ⟨last, ⟨comments, -, same, -⟩, behind⟩ := delivers.advanced.skipped
    obtain ⟨left, read⟩ := ih behind fun count => by
      have dropped := Stream'.drop_append_stream comments last
      rw [← same] at dropped
      rw [← dropped, Stream'.get_drop, Stream'.get_tail]
      exact ended _
    refine ⟨left, ?_⟩
    unfold TokenStream.consumeWithin
    rw [bind_apply, nextIs_eq_ok_iff.mpr ⟨_, delivers.front?, rfl, rfl⟩, fit]
    exact read

theorem lookaheadFrom {steps : Nat} (delivers : stream.Delivers sequence) (room : stream.pending.length < steps)
    (depth : Int) (seen : List Token) : ∃ name front rest left,
    TokenStream.lookaheadFrom steps depth seen stream = .ok (name, front.reverse ++ seen) left ∧
      sequence = front ++ₛ rest ∧ left.Delivers rest := by
  induction steps generalizing stream sequence depth seen with
  | zero => exact absurd room (Nat.not_lt_zero _)
  | succ steps ih =>
    have alone : sequence = [sequence.head] ++ₛ sequence.tail := (Stream'.eta _).symm
    unfold TokenStream.lookaheadFrom
    rw [bind_apply, next_eq_ok_iff.mpr ⟨delivers.front?, rfl⟩]
    dsimp only
    have further (more : sequence.head.kind ≠ .endOfInput) (deeper : Int) : ∃ name front rest left,
        TokenStream.lookaheadFrom steps deeper (sequence.head :: seen) stream.advanced =
          .ok (name, front.reverse ++ seen) left ∧ sequence = front ++ₛ rest ∧ left.Delivers rest := by
      have shorter := length_advanced delivers.front? more
      obtain ⟨name, front, rest, left, read, same, later⟩ := ih delivers.advanced (by omega) deeper
        (sequence.head :: seen)
      refine ⟨name, sequence.head :: front, rest, left, ?_, ?_, later⟩
      · rw [read, List.reverse_cons, List.append_assoc]
        rfl
      · rw [Stream'.cons_append_stream, ← same, Stream'.eta]
    cases kind : sequence.head.kind
    case endOfInput => exact ⟨none, [sequence.head], _, _, rfl, alone, delivers.advanced⟩
    case identifier =>
      dsimp only
      split
      · exact ⟨some sequence.head.value, [sequence.head], _, _, rfl, alone, delivers.advanced⟩
      · exact further (by rw [kind]; decide) _
    all_goals exact further (by rw [kind]; decide) _

theorem fieldName (delivers : stream.Delivers sequence) :
    ∃ name left, lookaheadFieldName stream = .ok name left ∧ left.Delivers sequence := by
  obtain ⟨name, front, rest, left, read, rfl, later⟩ := delivers.lookaheadFrom (Nat.lt_succ_self _) 0 []
  obtain ⟨back, put, whole⟩ := later.ungets front
  refine ⟨name, back, ?_, whole⟩
  unfold lookaheadFieldName
  rw [bind_apply]
  change (TokenStream.lookaheadFrom (stream.pending.length + 1) 0 [] >>= _) stream = _
  rw [bind_apply, read]
  dsimp only
  rw [bind_apply, List.append_nil, put]
  rfl

theorem conducts (delivers : stream.Delivers sequence) (closes : ∀ count,
    (sequence.get count).kind = .endOfInput → (sequence.get (count + 1)).kind = .endOfInput) :
    stream.Conducts sequence where
  next := ⟨_, next_eq_ok_iff.mpr ⟨delivers.front?, rfl⟩, delivers.advanced⟩
  peek := ⟨_, peek_eq_ok_iff.mpr ⟨delivers.front?, rfl⟩, delivers⟩
  nexts count := by
    obtain ⟨left, read, later⟩ := delivers.nexts count
    obtain ⟨back, put, whole⟩ := later.ungets (sequence.take count)
    rw [Stream'.append_take_drop] at whole
    exact ⟨left, back, read, later, put, whole⟩
  ungets := delivers.ungets
  fieldName := delivers.fieldName
  plainly := delivers.plainly
  skipping := delivers.skipped.imp fun rest behind => ⟨behind.1, behind.2.tests⟩
  consume kind := by
    by_cases more : kind = .endOfInput
    · subst more
      obtain ⟨rest, skips, behind⟩ := delivers.skipped
      by_cases ended : rest.head.kind = .endOfInput
      · refine .inr ⟨rfl, ⟨rest, skips, ended⟩, ?_⟩
        obtain ⟨comments, -, rfl, -⟩ := skips
        refine consumeWithin_endless _ behind fun count => ?_
        induction count with
        | zero => exact ended
        | succ count ih =>
          have dropped := Stream'.drop_append_stream comments rest
          rw [← dropped, Stream'.get_drop] at ih ⊢
          exact closes _ ih
      · have missed : fits .endOfInput none rest.head = false := by simpa [fits] using ended
        obtain ⟨comments, all, rfl, plain⟩ := skips
        refine .inl ⟨stream.skipped, ?_, comments, rest, rfl, behind, fun token member => .inl (all token member),
          plain, ended, ?_⟩
        · change TokenStream.consumeWithin .endOfInput (stream.pending.length + 1) stream = _
          unfold TokenStream.consumeWithin
          rw [bind_apply, nextIs_eq_ok_iff.mpr ⟨_, behind.front?, rfl, rfl⟩, missed]
          rfl
        · rw [← run_skipped, run_of_front? behind.front? plain fun same => absurd same ended, if_neg ended]
          exact all.filter_eq_nil.symm
    · exact .inl (delivers.consumeWithin more (Nat.lt_succ_self _))

end Delivers

/-! ### Runs of actions -/

/-- What may be done with a stream, apart from putting a token back. -/
inductive Operation where
  | next
  | peek
  | nextIf (kind : TokenKind) (wanted : Option String) (consume ignoring : Bool)
  | peekedIs (kind : TokenKind) (wanted : Option String)
  | nextIs (kind : TokenKind) (wanted : Option String)
  | ensure (kind : TokenKind) (wanted : Option String) (peekOnly : Bool)
  | consume (kind : TokenKind)
  | fieldName

namespace Operation

/-- The stream afterwards, also where a fault is reported; none if the action never ends. -/
def behind {α : Type} : EStateM.Result Fault TokenStream α → Option TokenStream
  | .ok _ left => some left
  | .error .outOfSteps _ => none
  | .error _ left => some left

def leaves? (stream : TokenStream) : Operation → Option TokenStream
  | next => behind (TokenStream.next stream)
  | peek => behind (TokenStream.peek stream)
  | nextIf kind wanted taking ignoring => behind (TokenStream.nextIf kind wanted taking ignoring stream)
  | peekedIs kind wanted => behind (TokenStream.peekedIs kind wanted stream)
  | nextIs kind wanted => behind (TokenStream.nextIs kind wanted stream)
  | ensure kind wanted peekOnly => behind (TokenStream.ensure kind wanted peekOnly stream)
  | consume kind => behind (TokenStream.consume kind stream)
  | fieldName => behind (lookaheadFieldName stream)

def takes (stream : TokenStream) : Operation → List Token
  | next => stream.front?.toList
  | nextIf kind wanted true false => (stream.front?.bind (found? kind wanted)).toList
  | nextIf kind wanted true true | nextIs kind wanted | ensure kind wanted false =>
    (stream.skipped.front?.bind (found? kind wanted)).toList
  | consume kind => run kind stream.pending
  | _ => []

end Operation

/-- The streams that actions make of that of a text, each with the tokens that were taken and not put back, the last
one first. The token put back is always the one that was taken last. -/
inductive Handled (text : String) : List Token → TokenStream → Prop
  | start : Handled text [] (TokenStream.ofText text)
  | did {taken : List Token} {stream left : TokenStream} (operation : Operation) : Handled text taken stream →
    operation.leaves? stream = some left → Handled text ((operation.takes stream).reverse ++ taken) left
  | returned {token : Token} {taken : List Token} {stream left : TokenStream} :
    Handled text (token :: taken) stream → unget token stream = .ok () left → Handled text taken left

theorem Operation.left_of_ok {α : Type} {result : EStateM.Result Fault TokenStream α} {value : α} {after : TokenStream}
    (done : behind result = some left) (read : result = .ok value after) : after = left := by
  rw [read] at done
  exact Option.some.inj done

theorem Thinned.head (sequence : Stream' Token) : Thinned sequence ([sequence.head] ++ₛ sequence.tail) := by
  rw [Stream'.append_eq_cons, Stream'.eta]
  exact .whole

/-- What a test finds is taken, and where it finds nothing all stays. -/
theorem Thinned.found? (kind : TokenKind) (wanted : Option String) (sequence : Stream' Token) :
    Thinned sequence ((found? kind wanted sequence.head).toList ++ₛ
      if fits kind wanted sequence.head then sequence.tail else sequence) := by
  unfold TokenStream.found?
  split
  · exact .head sequence
  · exact .whole

/-- An action takes tokens off the front and drops nothing but comments. -/
theorem Conducts.leaves (conducts : stream.Conducts sequence) (delivers : stream.Delivers sequence)
    {operation : Operation} (done : operation.leaves? stream = some left) :
    ∃ rest, left.Delivers rest ∧ Thinned sequence (operation.takes stream ++ₛ rest) := by
  have front := delivers.front?
  obtain ⟨last, skips, skipped⟩ := delivers.skipped
  have ahead := skipped.front?
  have passed := Thinned.skips skips
  cases operation with
  | next =>
    obtain ⟨after, read, later⟩ := conducts.next
    obtain rfl := Operation.left_of_ok done read
    refine ⟨_, later, ?_⟩
    rw [Operation.takes, front]
    exact .head sequence
  | peek =>
    obtain ⟨after, read, later⟩ := conducts.peek
    obtain rfl := Operation.left_of_ok done read
    exact ⟨_, later, .whole⟩
  | nextIf kind wanted consume ignoring =>
    cases ignoring with
    | false =>
      obtain ⟨after, read, later⟩ := conducts.plainly kind wanted consume
      obtain rfl := Operation.left_of_ok done read
      refine ⟨_, later, ?_⟩
      cases consume with
      | false =>
        rw [Bool.and_false, if_neg Bool.false_ne_true]
        exact .whole
      | true =>
        rw [Bool.and_true, Operation.takes, front, Option.bind_some]
        exact .found? kind wanted sequence
    | true =>
      obtain ⟨after, read, later⟩ := skipped.tests.nextIf kind wanted consume
      obtain rfl := Operation.left_of_ok done read
      refine ⟨_, later, ?_⟩
      cases consume with
      | false =>
        rw [Bool.and_false, if_neg Bool.false_ne_true]
        exact passed
      | true =>
        rw [Bool.and_true, Operation.takes, ahead, Option.bind_some]
        exact passed.trans (.found? kind wanted last)
  | peekedIs kind wanted =>
    obtain ⟨after, read, later⟩ := skipped.tests.peekedIs kind wanted
    obtain rfl := Operation.left_of_ok done read
    exact ⟨_, later, passed⟩
  | nextIs kind wanted =>
    obtain ⟨after, read, later⟩ := skipped.tests.nextIs kind wanted
    obtain rfl := Operation.left_of_ok done read
    refine ⟨_, later, ?_⟩
    rw [Operation.takes, ahead, Option.bind_some]
    exact passed.trans (.found? kind wanted last)
  | ensure kind wanted peekOnly =>
    cases fit : fits kind wanted last.head with
    | true =>
      obtain ⟨after, read, later⟩ := skipped.tests.ensured kind wanted peekOnly fit
      obtain rfl := Operation.left_of_ok done read
      refine ⟨_, later, ?_⟩
      cases peekOnly with
      | true => exact passed
      | false =>
        rw [Operation.takes, ahead, Option.bind_some, TokenStream.found?, if_pos fit]
        exact passed.trans (.head last)
    | false =>
      -- a token that is not the expected one stays where it is
      obtain ⟨after, read, later⟩ := skipped.tests.refused kind wanted peekOnly fit
      rw [Operation.leaves?, read] at done
      cases done
      refine ⟨_, later, ?_⟩
      cases peekOnly with
      | true => exact passed
      | false =>
        rw [Operation.takes, ahead, Option.bind_some, TokenStream.found?, fit]
        exact passed
  | consume kind =>
    rcases conducts.consume kind with ⟨after, read, consumes⟩ | ⟨-, -, after, read⟩
    · obtain rfl := Operation.left_of_ok done read
      obtain ⟨taken, rest, rfl, later, -, -, -, run⟩ := consumes
      refine ⟨rest, later, ?_⟩
      rw [Operation.takes, run]
      exact .filter taken rest
    · -- at the end of the input the action never ends
      rw [Operation.leaves?, read] at done
      cases done
  | fieldName =>
    obtain ⟨name, after, read, later⟩ := conducts.fieldName
    obtain rfl := Operation.left_of_ok done read
    exact ⟨_, later, .whole⟩

theorem closes_append {tokens : List Token} (position : Position) (more : ∀ token ∈ tokens, token.kind ≠ .endOfInput)
    (count : Nat) :
    ((tokens ++ₛ Stream'.const (.endAt position)).get count).kind = .endOfInput →
      ((tokens ++ₛ Stream'.const (.endAt position)).get (count + 1)).kind = .endOfInput := by
  induction tokens generalizing count with
  | nil => exact fun _ => rfl
  | cons token tokens ih =>
    cases count with
    | zero => exact fun ended => absurd ended (more token List.mem_cons_self)
    | succ count => exact ih (fun token member => more token (List.mem_cons_of_mem _ member)) count

section

variable {text : String} {lexed taken : List Token} {position : Position}

theorem Thinned.remaining (more : ∀ token ∈ lexed, token.kind ≠ .endOfInput)
    (thinned : Thinned (lexed ++ₛ Stream'.const (.endAt position)) (taken ++ₛ sequence)) :
    ∃ tokens, sequence = tokens ++ₛ Stream'.const (.endAt position) ∧
      (∀ token ∈ tokens, token.kind ≠ .endOfInput) ∧
      tokens.filter (! ·.isComment) <:+ lexed.filter (! ·.isComment) ∧
      ∃ whole, taken ++ₛ sequence = whole ++ₛ Stream'.const (.endAt position) ∧ whole.Sublist lexed ∧
        whole.filter (! ·.isComment) = lexed.filter (! ·.isComment) := by
  obtain ⟨whole, same, sublist, kept⟩ := thinned.tokens rfl
  obtain ⟨tokens, behind, suffix⟩ := exists_rest same
  refine ⟨tokens, behind, fun token member => more token ?_, ?_, whole, same, sublist, kept⟩
  · exact sublist.subset (suffix.subset member)
  · rw [← kept]
    exact suffix.filter _

/-- What was taken and what is still delivered are the tokens of the lexer, comments aside. -/
theorem Handled.thinned (lexes : Lexeme.ofText text = (lexed.map .token, .finished position))
    (handled : Handled text taken stream) : ∃ sequence, stream.Delivers sequence ∧
      Thinned (lexed ++ₛ Stream'.const (.endAt position)) (taken.reverse ++ₛ sequence) := by
  induction handled with
  | start =>
    refine ⟨lexed ++ₛ Stream'.const (.endAt position), delivers_iff.mpr ⟨lexed, position, ?_, ?_, rfl⟩, .whole⟩
    · exact congrArg Prod.fst lexes
    · exact congrArg Prod.snd lexes
  | did operation _ done ih =>
    obtain ⟨sequence, delivers, thinned⟩ := ih
    obtain ⟨tokens, rfl, more, -⟩ := thinned.remaining (Lexes.kind_ne ⟨position, lexes⟩)
    obtain ⟨rest, later, less⟩ := (delivers.conducts (closes_append position more)).leaves delivers done
    refine ⟨rest, later, thinned.trans ?_⟩
    rw [List.reverse_append, List.reverse_reverse, Stream'.append_append_stream]
    exact less.append _
  | returned _ put ih =>
    obtain ⟨sequence, delivers, thinned⟩ := ih
    obtain ⟨back, again, whole⟩ := delivers.ungets [_]
    cases put
    cases again
    refine ⟨_, whole, ?_⟩
    rwa [List.reverse_cons, Stream'.append_append_stream] at thinned

/-- **A stream loses no token, repeats none and keeps their order.** Let the lexer read a text to its end. Whatever was
done with the stream of the text, what it delivers is a rest of the tokens of the lexer, comments aside, and then the
end of the input forever. Together with the tokens that were taken and not put back these are all tokens of the lexer, of
which only comments are missing. Each action that may follow does to what is delivered what it should. -/
theorem Handled.delivers_rest (lexes : Lexeme.ofText text = (lexed.map .token, .finished position))
    (handled : Handled text taken stream) :
    ∃ tokens, stream.Delivers (tokens ++ₛ Stream'.const (.endAt position)) ∧
      (∀ token ∈ tokens, token.kind ≠ .endOfInput) ∧
      tokens.filter (! ·.isComment) <:+ lexed.filter (! ·.isComment) ∧
      (∃ whole, taken.reverse ++ₛ (tokens ++ₛ Stream'.const (.endAt position)) =
          whole ++ₛ Stream'.const (.endAt position) ∧
        whole.Sublist lexed ∧ whole.filter (! ·.isComment) = lexed.filter (! ·.isComment)) ∧
      stream.Conducts (tokens ++ₛ Stream'.const (.endAt position)) := by
  obtain ⟨sequence, delivers, thinned⟩ := handled.thinned lexes
  obtain ⟨tokens, rfl, more, suffix, kept⟩ := thinned.remaining (Lexes.kind_ne ⟨position, lexes⟩)
  exact ⟨tokens, delivers, more, suffix, kept, delivers.conducts (closes_append position more)⟩

/-- A token is taken, a bracket is missed behind a comment, and the end of the input is taken and put back. -/
theorem handled_delivers_rest_comment :
    Lexeme.ofText "A //c" =
        ([⟨.identifier, "A", ⟨0, 1, 1⟩⟩, ⟨.comment, "//c", ⟨2, 1, 3⟩⟩].map .token, .finished ⟨5, 1, 6⟩) ∧
      Handled "A //c" [⟨.identifier, "A", ⟨0, 1, 1⟩⟩] ⟨[.token (.endAt ⟨5, 1, 6⟩)], .finished ⟨5, 1, 6⟩, ""⟩ ∧
      Delivers ⟨[.token (.endAt ⟨5, 1, 6⟩)], .finished ⟨5, 1, 6⟩, ""⟩ (Stream'.const (.endAt ⟨5, 1, 6⟩)) := by
  have lexes : Lexeme.ofText "A //c" = ([⟨.identifier, "A", ⟨0, 1, 1⟩⟩, ⟨.comment, "//c", ⟨2, 1, 3⟩⟩].map .token,
      .finished ⟨5, 1, 6⟩) := by decide
  have begun : TokenStream.ofText "A //c" = ⟨[.token ⟨.identifier, "A", ⟨0, 1, 1⟩⟩, .token ⟨.comment, "//c", ⟨2, 1, 3⟩⟩],
      .finished ⟨5, 1, 6⟩, ""⟩ := by
    rw [TokenStream.ofText, lexes]
    rfl
  have unread : Handled "A //c" [] (TokenStream.ofText "A //c") := .start
  rw [begun] at unread
  have one := unread.did .next rfl
  have two := one.did (.ensure .openParen none false) rfl
  have three := two.did .next rfl
  have handled := three.returned rfl
  refine ⟨lexes, handled, ?_⟩
  obtain ⟨tokens, delivers, more, -, -, conducts⟩ := Handled.delivers_rest lexes handled
  cases tokens with
  | nil => exact delivers
  | cons token tokens =>
    obtain ⟨left, first, -⟩ := conducts.next
    cases first
    exact absurd rfl (more _ List.mem_cons_self)

end

end TokenStream

end CowView
