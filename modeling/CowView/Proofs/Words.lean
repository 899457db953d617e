import CowView.Proofs.Ending
import Mathlib.Data.List.TakeWhile

/-!
The words of a stream: its tokens without their places, up to the end of the input, with the comments
left out that document nothing. On a clean stream, one that the lexer read to its end, the words and the
documentation that was passed over last decide what every test finds.
-/

namespace CowView

namespace BareToken

def isSilent (token : BareToken) : Bool := token.kind = .comment && !DocComment.isDoc token.value

def passed (words : List BareToken) : List BareToken := words.dropWhile (·.kind = .comment)

def noted (docs : String) : List BareToken → String
  | [] => docs
  | word :: rest => if word.kind = .comment then noted (DocComment.body word.value) rest else docs

variable {words rest : List BareToken}

theorem passed_append (solid : ∀ word ∈ rest.head?, word.kind ≠ .comment) :
    passed (words ++ rest) = passed words ++ rest := by
  induction words with
  | nil =>
    cases rest with
    | nil => rfl
    | cons word rest =>
      have kind : word.kind ≠ .comment := solid word rfl
      simp [passed, kind]
  | cons word words ih =>
    by_cases comment : word.kind = .comment
    · simpa only [passed, comment, List.cons_append, List.dropWhile_cons, decide_true, if_true] using ih
    · simp [passed, comment]

theorem passed_eq_nil_iff : passed words = [] ↔ ∀ word ∈ words, word.kind = .comment := by
  simp only [passed, List.dropWhile_eq_nil_iff, decide_eq_true_eq]

theorem noted_append (solid : ∀ word ∈ rest.head?, word.kind ≠ .comment) (docs : String) :
    noted docs (words ++ rest) = noted docs words := by
  induction words generalizing docs with
  | nil =>
    cases rest with
    | nil => rfl
    | cons word rest =>
      have kind : word.kind ≠ .comment := solid word rfl
      simp [noted, kind]
  | cons word words ih =>
    by_cases comment : word.kind = .comment
    · simpa [noted, comment] using ih _
    · simp [noted, comment]

end BareToken

def Lexeme.word? : Lexeme → Option BareToken
  | .token found => if found.kind = .endOfInput || found.bare.isSilent then none else some found.bare
  | .fault _ => none

def Lexeme.IsEnd (lexeme : Lexeme) : Prop :=
  ∃ token, lexeme = .token token ∧ token.kind = .endOfInput

namespace TokenStream

def words (stream : TokenStream) : List BareToken := stream.pending.filterMap Lexeme.word?

/-- The lexer read the text to its end; tokens of the end may have been put back. -/
structure Clean (stream : TokenStream) : Prop where
  finished : ∃ position, stream.ending = .finished position
  token : ∀ lexeme ∈ stream.pending, ∃ token, lexeme = .token token ∧ token.Marked ∧
    (token.kind = .endOfInput → token.value = "")
  last : stream.pending.Pairwise fun lexeme behind => lexeme.IsEnd → behind.IsEnd

variable {stream : TokenStream} {token : Token}

namespace Clean

theorem sane (clean : stream.Clean) : stream.Sane where
  fault fault member := by
    obtain ⟨token, same, -⟩ := clean.token _ member
    cases same
  stuck fault stuck := by
    obtain ⟨position, finished⟩ := clean.finished
    rw [finished] at stuck
    cases stuck
  marked token member := by
    obtain ⟨other, same, marked, -⟩ := clean.token _ member
    cases same
    exact marked

theorem advanced (clean : stream.Clean) : stream.advanced.Clean where
  finished := clean.finished
  token lexeme member := clean.token lexeme (List.mem_of_mem_tail member)
  last := clean.last.tail

theorem skipped (clean : stream.Clean) : stream.skipped.Clean where
  finished := clean.finished
  token lexeme member := clean.token lexeme (dropComments_subset _ _ member)
  last := clean.last.sublist (dropComments_sublist _ _)

theorem unget (clean : stream.Clean) (marked : token.Marked) (more : token.kind ≠ .endOfInput) :
    Clean { stream with pending := .token token :: stream.pending } where
  finished := clean.finished
  token lexeme member := by
    rcases List.mem_cons.mp member with rfl | member
    · exact ⟨token, rfl, marked, fun last => absurd last more⟩
    · exact clean.token lexeme member
  last := by
    refine List.pairwise_cons.mpr ⟨fun behind _ last => ?_, clean.last⟩
    obtain ⟨other, same, last⟩ := last
    cases same
    exact absurd last more

theorem words_eq_nil (clean : stream.Clean) (shown : stream.front? = some token)
    (last : token.kind = .endOfInput) : stream.words = [] := by
  obtain ⟨pending, ending, docs⟩ := stream
  unfold front? at shown
  split at shown
  next first rest same =>
    cases shown
    cases same
    refine List.filterMap_eq_nil_iff.mpr fun lexeme member => ?_
    have ends : lexeme.IsEnd := by
      rcases List.mem_cons.mp member with rfl | behind
      · exact ⟨token, rfl, last⟩
      · exact (List.pairwise_cons.mp clean.last).1 lexeme behind ⟨token, rfl, last⟩
    obtain ⟨other, rfl, kind⟩ := ends
    simp [Lexeme.word?, kind]
  next same _ =>
    cases same
    rfl
  · cases shown

theorem bare_eq_last (clean : stream.Clean) (shown : stream.front? = some token)
    (last : token.kind = .endOfInput) : token.bare = .last := by
  unfold front? at shown
  split at shown
  next first rest pending =>
    cases shown
    obtain ⟨other, same, -, empty⟩ := clean.token (.token token) (by rw [pending]; exact List.mem_cons_self)
    cases same
    rw [Token.bare, last, empty last]
    rfl
  · cases shown
    rfl
  · cases shown

end Clean

theorem words_eq_cons (shown : stream.front? = some token) (more : token.kind.IsSolid) :
    stream.words = token.bare :: stream.advanced.words := by
  obtain ⟨pending, ending, docs⟩ := stream
  unfold front? at shown
  split at shown
  next first rest same =>
    cases shown
    cases same
    have counted : Lexeme.word? (.token token) = some token.bare := by
      simp [Lexeme.word?, BareToken.isSilent, Token.bare, more.1, more.2]
    exact List.filterMap_cons_some counted
  · cases shown
    exact absurd rfl more.1
  · cases shown

theorem words_unget (stream : TokenStream) (more : token.kind.IsSolid) :
    words { stream with pending := .token token :: stream.pending } = token.bare :: stream.words := by
  have counted : Lexeme.word? (.token token) = some token.bare := by
    simp [Lexeme.word?, BareToken.isSilent, Token.bare, more.1, more.2]
  exact List.filterMap_cons_some counted

/-- What is behind the comments in front, and which documentation they leave. -/
theorem Clean.dropComments (pending : List Lexeme) (docs : String)
    (tokens : ∀ lexeme ∈ pending, ∃ token, lexeme = .token token)
    (last : pending.Pairwise fun lexeme behind => lexeme.IsEnd → behind.IsEnd) :
    (TokenStream.dropComments docs pending).1.filterMap Lexeme.word? =
        BareToken.passed (pending.filterMap Lexeme.word?) ∧
      (TokenStream.dropComments docs pending).2 = BareToken.noted docs (pending.filterMap Lexeme.word?) := by
  induction pending generalizing docs with
  | nil => exact ⟨rfl, rfl⟩
  | cons lexeme rest ih =>
    obtain ⟨token, rfl⟩ := tokens lexeme (by simp)
    have later (docs : String) := ih docs (fun lexeme member => tokens lexeme (by simp [member]))
      (List.pairwise_cons.mp last).2
    unfold TokenStream.dropComments
    split
    next comment =>
      have kind : token.kind = .comment := by simpa [Token.isComment] using comment
      by_cases doc : DocComment.isDoc token.value = true
      · have word : Lexeme.word? (.token token) = some token.bare := by
          simp [Lexeme.word?, BareToken.isSilent, Token.bare, kind, doc]
        rw [List.filterMap_cons_some word, if_pos doc]
        simpa [BareToken.passed, BareToken.noted, Token.bare, kind] using later _
      · have word : Lexeme.word? (.token token) = none := by
          simp [Lexeme.word?, BareToken.isSilent, Token.bare, kind, doc]
        rw [List.filterMap_cons_none word, if_neg doc]
        exact later _
    next other =>
      have kind : token.kind ≠ .comment := by simpa [Token.isComment] using other
      by_cases ends : token.kind = .endOfInput
      · have none : (Lexeme.token token :: rest).filterMap Lexeme.word? = [] := by
          refine List.filterMap_eq_nil_iff.mpr fun lexeme member => ?_
          have : lexeme.IsEnd := by
            rcases List.mem_cons.mp member with rfl | behind
            · exact ⟨token, rfl, ends⟩
            · exact (List.pairwise_cons.mp last).1 lexeme behind ⟨token, rfl, ends⟩
          obtain ⟨other, rfl, kind⟩ := this
          simp [Lexeme.word?, kind]
        rw [none]
        exact ⟨rfl, rfl⟩
      · have word : Lexeme.word? (.token token) = some token.bare := by
          simp [Lexeme.word?, BareToken.isSilent, Token.bare, ends, kind]
        rw [List.filterMap_cons_some word]
        simp [BareToken.passed, BareToken.noted, Token.bare, kind]

theorem Clean.words_skipped (clean : stream.Clean) : stream.skipped.words = BareToken.passed stream.words := by
  refine (Clean.dropComments _ _ (fun lexeme member => ?_) clean.last).1
  obtain ⟨token, same, -⟩ := clean.token lexeme member
  exact ⟨token, same⟩

theorem Clean.docs_skipped (clean : stream.Clean) :
    stream.skipped.docs = BareToken.noted stream.docs stream.words := by
  refine (Clean.dropComments _ _ (fun lexeme member => ?_) clean.last).2
  obtain ⟨token, same, -⟩ := clean.token lexeme member
  exact ⟨token, same⟩

theorem dropComments_cons {lexemes rest : List Lexeme} {docs : String}
    (shown : (TokenStream.dropComments docs lexemes).1 = .token token :: rest) : token.kind ≠ .comment := by
  induction lexemes generalizing docs with
  | nil => cases shown
  | cons lexeme behind ih =>
    cases lexeme with
    | fault fault => cases shown
    | token other =>
      unfold TokenStream.dropComments at shown
      split at shown
      · exact ih shown
      next plain =>
        cases shown
        simpa [Token.isComment] using plain

theorem front?_skipped (shown : stream.skipped.front? = some token) : token.kind ≠ .comment := by
  unfold front? at shown
  split at shown
  next first rest pending =>
    cases shown
    exact dropComments_cons pending
  · cases shown
    exact fun same => by cases same
  · cases shown

theorem Clean.front? (clean : stream.Clean) : ∃ token, stream.skipped.front? = some token ∧
    token.Marked ∧ token.kind ≠ .comment ∧ token.bare = BareToken.ahead stream.skipped.words := by
  have shown : ∃ token, stream.skipped.front? = some token := by
    obtain ⟨position, finished⟩ := clean.skipped.finished
    unfold TokenStream.front?
    cases pending : stream.skipped.pending with
    | nil =>
      rw [finished]
      exact ⟨_, rfl⟩
    | cons lexeme rest =>
      obtain ⟨token, rfl, -⟩ := clean.skipped.token lexeme (by rw [pending]; simp)
      exact ⟨token, rfl⟩
  obtain ⟨token, shown⟩ := shown
  have plain := front?_skipped shown
  refine ⟨token, shown, clean.skipped.sane.front? shown, plain, ?_⟩
  by_cases last : token.kind = .endOfInput
  · rw [clean.skipped.words_eq_nil shown last]
    exact clean.skipped.bare_eq_last shown last
  · rw [words_eq_cons shown ⟨last, plain⟩]
    rfl

theorem Clean.extent_eq (clean : stream.Clean) :
    stream.extent = stream.words.countP (·.kind ≠ .comment) := by
  unfold extent words
  rw [List.countP_filterMap]
  refine List.countP_congr fun lexeme member => ?_
  obtain ⟨token, rfl, -⟩ := clean.token lexeme member
  by_cases ends : token.kind = .endOfInput
  · simp [Lexeme.word?, Lexeme.counts, TokenKind.IsSolid, ends]
  · by_cases comment : token.kind = .comment
    · cases doc : DocComment.isDoc token.value <;>
        simp [Lexeme.word?, Lexeme.counts, TokenKind.IsSolid, BareToken.isSilent, Token.bare, comment, doc]
    · simp [Lexeme.word?, Lexeme.counts, TokenKind.IsSolid, BareToken.isSilent, Token.bare, ends, comment]

/-- Nothing counts exactly if nothing is left behind the comments. -/
theorem Clean.extent_eq_zero (clean : stream.Clean) : stream.extent = 0 ↔ stream.skipped.words = [] := by
  rw [clean.extent_eq, clean.words_skipped, BareToken.passed_eq_nil_iff, List.countP_eq_zero]
  simp

/-! ### The stream of a text -/

def Lexes (text : String) (tokens : List Token) : Prop :=
  ∃ position, Lexeme.ofText text = (tokens.map .token, .finished position)

variable {text : String} {tokens : List Token}

theorem Lexes.ofText (lexes : Lexes text tokens) : ∃ position,
    TokenStream.ofText text = ⟨tokens.map .token, .finished position, ""⟩ := by
  obtain ⟨position, read⟩ := lexes
  refine ⟨position, ?_⟩
  unfold TokenStream.ofText
  rw [read]

theorem Lexes.kind_ne (lexes : Lexes text tokens) : ∀ token ∈ tokens, token.kind ≠ .endOfInput := by
  intro token member
  obtain ⟨position, same⟩ := lexes.ofText
  have lexed : token.bare.Lexed := lexed_of_mem_ofText (by rw [same]; exact List.mem_map_of_mem member)
  exact lexed.kind_ne

theorem Lexes.clean (lexes : Lexes text tokens) : (TokenStream.ofText text).Clean := by
  obtain ⟨position, same⟩ := lexes.ofText
  have own : ∀ lexeme ∈ (TokenStream.ofText text).pending, ∃ token ∈ tokens, lexeme = .token token := by
    intro lexeme member
    rw [same] at member
    obtain ⟨token, known, rfl⟩ := List.mem_map.mp member
    exact ⟨token, known, rfl⟩
  refine ⟨⟨position, by rw [same]⟩, fun lexeme member => ?_, ?_⟩
  · obtain ⟨token, known, rfl⟩ := own lexeme member
    exact ⟨token, rfl, (lexed_of_mem_ofText member).marked, fun last => absurd last (lexes.kind_ne token known)⟩
  · refine List.pairwise_of_forall_mem_list fun lexeme member _ _ last => ?_
    obtain ⟨token, known, rfl⟩ := own lexeme member
    obtain ⟨other, own, last⟩ := last
    cases own
    exact absurd last (lexes.kind_ne token known)

theorem Lexes.words (lexes : Lexes text tokens) : (TokenStream.ofText text).words =
    (tokens.filter fun token => !token.bare.isSilent).map Token.bare := by
  have more := lexes.kind_ne
  obtain ⟨position, same⟩ := lexes.ofText
  rw [same, TokenStream.words]
  clear same lexes
  induction tokens with
  | nil => rfl
  | cons token tokens ih =>
    have kind : token.kind ≠ .endOfInput := more token (by simp)
    have later := ih fun token member => more token (by simp [member])
    cases silent : token.bare.isSilent <;> simpa [Lexeme.word?, kind, silent] using later

end TokenStream

end CowView
