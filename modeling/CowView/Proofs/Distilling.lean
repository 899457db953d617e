import CowView.Proofs.Termination
import CowView.Proofs.Weaving

/-!
What a run takes from a stream, without the comments. A `Sieve` passes over comments and puts signs in their places
inside of groups. It makes a transfer (`Sieve.transfer`): for every run there are words without comments that the same
action reads, and what it gives then is the masked form of what the run gave, unless a line comment is in there.
-/

namespace CowView

open TokenStream Text

structure Sieve where
  mark : List Char → Bool
  own : String → Prop
  forms : ∀ text, own text → Lexer.IsBlock text.toList ∨ Lexer.IsLine text.toList

/-! ### What is ahead -/

structure TokenStream.Foretells (stream : TokenStream) (words : List BareToken) : Prop where
  first : ∀ one, stream.ahead? = some one → BareToken.ahead words = one
  second : ∀ one two, stream.ahead? = some one → one ≠ .last → stream.skipped.advanced.ahead? = some two →
    BareToken.ahead words.tail = two

namespace TokenStream.Foretells

variable {stream : TokenStream} {words : List BareToken} {token : Token}

theorem of_skipped (foretells : stream.skipped.Foretells words) : stream.Foretells words := by
  obtain ⟨first, second⟩ := foretells
  rw [ahead?_skipped, skipped_skipped] at second
  rw [ahead?_skipped] at first
  exact ⟨first, second⟩

theorem cons (shown : stream.skipped.front? = some token) (behind : stream.skipped.advanced.Foretells words) :
    stream.Foretells (token.bare :: words) where
  first one ahead := by
    rw [ahead?_eq_of_front? shown] at ahead
    exact Option.some.inj ahead
  second _ two _ _ ahead := behind.first two ahead

/-- A token that was taken and put back is ahead as before. -/
theorem of_returned (shown : stream.front? = some token) (plain : token.kind ≠ .comment)
    (foretells : Foretells { stream.advanced.skipped with
      pending := .token token :: stream.advanced.skipped.pending } words) : stream.Foretells words := by
  generalize same : { stream.advanced.skipped with
    pending := .token token :: stream.advanced.skipped.pending : TokenStream } = left at foretells
  have front : left.front? = some token := by
    rw [← same]
    rfl
  have behind : left.advanced = stream.advanced.skipped := by
    rw [← same]
    rfl
  have still := skipped_eq_of_front? front plain
  have still' := skipped_eq_of_front? shown plain
  obtain ⟨first, second⟩ := foretells
  rw [ahead?, still, front, behind, ahead?_skipped] at second
  rw [ahead?, still, front] at first
  constructor
  · rwa [ahead?, still', shown]
  · rwa [ahead?, still', shown]

theorem tail (foretells : stream.Foretells words) (shown : stream.front? = some token) (plain : token.kind ≠ .comment)
    (more : token.bare ≠ .last) {second : Token} (ahead : stream.advanced.skipped.front? = some second) :
    words ≠ [] ∧ BareToken.ahead words = token.bare ∧ BareToken.ahead words.tail = second.bare := by
  have still := skipped_eq_of_front? shown plain
  have front : stream.ahead? = some token.bare := ahead?_eq_of_front? (by rwa [still])
  have first := foretells.first _ front
  refine ⟨?_, first, foretells.second _ _ front more ?_⟩
  · rintro rfl
    exact more first.symm
  · rw [still]
    exact ahead?_eq_of_front? ahead

end TokenStream.Foretells

/-! ### Plain words -/

namespace TokenGroup.IsPlain

variable {token : BareToken} {kind : TokenKind}

theorem lexed (plain : IsPlain token) : token.Lexed := plain.elim .inl fun symbol => .inr (.inl symbol)

theorem ne_comment (plain : IsPlain token) : token.kind ≠ .comment := by
  intro comment
  rcases plain with isWord | ⟨isSymbol, -⟩
  · have kinds := isWord.kind_mem
    rw [comment] at kinds
    exact absurd kinds (by decide)
  · rw [comment] at isSymbol
    exact absurd isSymbol (by decide)

theorem commentFree (plain : IsPlain token) : CommentFree token.value :=
  plain.lexed.commentFree_iff.mpr plain.ne_comment

theorem ne_last (plain : IsPlain token) : token ≠ .last := fun same => by
  rw [same] at plain
  exact plain.lexed.kind_ne rfl

theorem symbol (isSymbol : kind ∈ TokenKind.symbols) : IsPlain (.symbol kind) := .inr ⟨isSymbol, rfl⟩

theorem of_lexed (lexed : token.Lexed) (other : token.kind ≠ .comment) : IsPlain token := by
  rcases lexed with isWord | isSymbol | ⟨comment, -⟩
  · exact .inl isWord
  · exact .inr isSymbol
  · exact absurd comment other

end TokenGroup.IsPlain

theorem exists_placed {words : List BareToken} (plain : ∀ word ∈ words, TokenGroup.IsPlain word) :
    ∃ tokens : List Token, tokens.map Token.bare = words ∧
      ∀ token ∈ tokens, token.bare.Lexed ∧ token.kind ≠ .comment := by
  let placed (word : BareToken) : Token := ⟨word.kind, word.value, .start⟩
  have same : (words.map placed).map Token.bare = words := by
    rw [List.map_map]
    exact List.map_id _
  refine ⟨words.map placed, same, fun token member => ?_⟩
  have own := plain token.bare (same ▸ List.mem_map_of_mem member)
  exact ⟨own.lexed, own.ne_comment⟩

namespace Sieve

variable {sieve : Sieve} {stream left : TokenStream} {token : Token} {words : List BareToken} {kind : TokenKind}
  {wanted : Option String}

def Passes (sieve : Sieve) (stream : TokenStream) : Prop :=
  ∀ token, Lexeme.token token ∈ stream.pending →
    token.bare.Lexed ∧ (token.kind = .comment → sieve.own token.value)

namespace Passes

theorem skipped (passes : sieve.Passes stream) : sieve.Passes stream.skipped :=
  fun token member => passes token (dropComments_subset _ _ member)

theorem advanced (passes : sieve.Passes stream) : sieve.Passes stream.advanced :=
  fun token member => passes token (List.mem_of_mem_tail member)

theorem front? (passes : sieve.Passes stream) (shown : stream.front? = some token) (more : token.kind ≠ .endOfInput) :
    token.bare.Lexed ∧ (token.kind = .comment → sieve.own token.value) := by
  refine passes token ?_
  rw [pending_of_front? shown more]
  exact List.mem_cons_self

theorem isPlain (passes : sieve.Passes stream) (shown : stream.skipped.front? = some token)
    (more : token.kind ≠ .endOfInput) : TokenGroup.IsPlain token.bare :=
  .of_lexed (passes.skipped.front? shown more).1 (front?_skipped shown)

theorem unget (passes : sieve.Passes stream) (plain : TokenGroup.IsPlain token.bare) :
    sieve.Passes { stream with pending := .token token :: stream.pending } := by
  intro other member
  rcases List.mem_cons.mp member with same | member
  · cases same
    exact ⟨plain.lexed, fun comment => absurd comment plain.ne_comment⟩
  · exact passes other member

theorem ahead (passes : sieve.Passes stream) {one : BareToken} (shown : stream.ahead? = some one) :
    one = .last ∨ TokenGroup.IsPlain one := by
  obtain ⟨token, front, rfl⟩ := Option.map_eq_some_iff.mp shown
  by_cases more : token.kind = .endOfInput
  · left
    unfold TokenStream.front? at front
    split at front
    next first rest pending =>
      cases front
      have known := passes.skipped token (by rw [pending]; exact List.mem_cons_self)
      exact absurd more known.1.kind_ne
    · cases front
      rfl
    · cases front
  · exact .inr (passes.isPlain front more)

theorem exists_foretold (passes : sieve.Passes stream) :
    ∃ words, (∀ word ∈ words, TokenGroup.IsPlain word) ∧ stream.Foretells words := by
  -- the words for one token that is ahead
  have word {stream : TokenStream} (passes : sieve.Passes stream) : ∃ words,
      (∀ word ∈ words, TokenGroup.IsPlain word) ∧ ∀ one, stream.ahead? = some one → BareToken.ahead words = one := by
    cases shown : stream.ahead? with
    | none => exact ⟨[], nofun, nofun⟩
    | some one =>
      rcases passes.ahead shown with rfl | plain
      · exact ⟨[], nofun, fun _ same => Option.some.inj same⟩
      · exact ⟨[one], List.forall_mem_singleton.mpr plain, fun _ same => Option.some.inj same⟩
  obtain ⟨behind, others, second⟩ := word passes.skipped.advanced
  cases shown : stream.ahead? with
  | none =>
    have none {other : BareToken} (ahead : stream.ahead? = some other) : False := by cases shown.symm.trans ahead
    exact ⟨[], nofun, fun _ ahead => (none ahead).elim, fun _ _ ahead => (none ahead).elim⟩
  | some one =>
    have only {other : BareToken} (ahead : stream.ahead? = some other) : one = other :=
      Option.some.inj (shown.symm.trans ahead)
    rcases passes.ahead shown with rfl | plain
    · exact ⟨[], nofun, fun _ => only, fun _ _ ahead more => absurd (only ahead).symm more⟩
    · exact ⟨one :: behind, List.forall_mem_cons.mpr ⟨plain, others⟩, fun _ => only, fun _ two _ _ => second two⟩

end Passes

/-! ### Runs -/

def Lined (sieve : Sieve) (text : String) : Prop :=
  (∃ comment, sieve.own comment ∧ Lexer.IsLine comment.toList) ∧
    ∃ front rest, text.toList = front ++ '/' :: '/' :: rest ∧ InBlocks front

def texts (sieve : Sieve) : TextRelation where
  rel one two := (Masks sieve.mark two.toList one.toList ∧ CommentFree two) ∨ sieve.Lined one
  append {one two more more'} first second := by
    rcases first with ⟨masks, free⟩ | ⟨known, front, rest, shown, blocks⟩
    · rcases second with ⟨masks', free'⟩ | ⟨known, front, rest, shown, blocks⟩
      · left
        rw [String.toList_append, String.toList_append]
        exact ⟨masks.append masks', commentFree_append.mpr ⟨free, free'⟩⟩
      · refine .inr ⟨known, one.toList ++ front, rest, ?_, (masks.inBlocks free).append blocks⟩
        rw [String.toList_append, shown, List.append_assoc]
    · refine .inr ⟨known, front, rest ++ more.toList, ?_, blocks⟩
      rw [String.toList_append, shown]
      simp
  plain free := .inl ⟨.refl _, free⟩

theorem rel_self (plain : TokenGroup.IsPlain token.bare) : sieve.texts.rel token.value token.value :=
  sieve.texts.plain plain.commentFree

variable {α β γ δ : Type}

/-- The words are plain, the action reads them and gives what goes with the value, and they stand in front of what
the run left as they do in the stream. -/
structure Distilled (sieve : Sieve) (fit : α → β → Prop) (stream left : TokenStream) (value : α) (action : Reading β)
    (words : List BareToken) (value' : β) : Prop where
  passes : sieve.Passes left
  plain : ∀ word ∈ words, TokenGroup.IsPlain word
  fits : fit value value'
  reads : Reads action words value' left.Foretells
  foretells : ∀ rest, left.Foretells rest → stream.Foretells (words ++ rest)

/-- Runs of the first action on streams of a sort are distilled to runs of the second one. -/
def CarriesOn (sieve : Sieve) (inside : TokenStream → Prop) (fit : α → β → Prop) (one : Reading α) (two : Reading β) :
    Prop :=
  ∀ stream value left, inside stream → sieve.Passes stream → one stream = .ok value left →
    ∃ words value', sieve.Distilled fit stream left value two words value'

def Carries (sieve : Sieve) (fit : α → β → Prop) (one : Reading α) (two : Reading β) : Prop :=
  sieve.CarriesOn (fun _ => True) fit one two

def CarriesAt (sieve : Sieve) (front : BareToken) (fit : α → β → Prop) (one : Reading α) (two : Reading β) : Prop :=
  sieve.CarriesOn (fun stream => stream.front?.map Token.bare = some front) fit one two

namespace Distilled

variable {fit : α → β → Prop} {value : α} {value' : β} {action : Reading β}

/-- Comments in front of the stream do not count. -/
theorem skipped (distilled : sieve.Distilled fit stream.skipped left value action words value') :
    sieve.Distilled fit stream left value action words value' :=
  { distilled with foretells := fun rest known => (distilled.foretells rest known).of_skipped }

theorem cons {whole : Reading β}
    (distilled : sieve.Distilled fit stream.skipped.advanced left value action words value')
    (shown : stream.skipped.front? = some token) (plain : TokenGroup.IsPlain token.bare)
    (reads : Reads whole (token.bare :: words) value' left.Foretells) :
    sieve.Distilled fit stream left value whole (token.bare :: words) value' where
  passes := distilled.passes
  plain := List.forall_mem_cons.mpr ⟨plain, distilled.plain⟩
  fits := distilled.fits
  reads := reads
  foretells rest known := .cons shown (distilled.foretells rest known)

theorem ahead (distilled : sieve.Distilled fit stream left value action words value')
    (shown : stream.skipped.front? = some token) {rest : List BareToken} (known : left.Foretells rest) :
    BareToken.ahead (words ++ rest) = token.bare :=
  (distilled.foretells rest known).first _ (ahead?_eq_of_front? shown)

/-- If a token was put back and the action takes something, that token is the first of the words. -/
theorem starts (shown : stream.front? = some token) (plain : TokenGroup.IsPlain token.bare) (takes : TakesSome action)
    (distilled : sieve.Distilled fit { stream.advanced.skipped with
      pending := .token token :: stream.advanced.skipped.pending } left value action words value') :
    ∃ others, words = token.bare :: others := by
  obtain ⟨rest, written, known⟩ := distilled.passes.exists_foretold
  have taken : words ≠ [] := by
    rintro rfl
    obtain ⟨tokens, same, own⟩ := exists_placed written
    refine takes tokens .start "" value' own ?_
    exact distilled.reads [] tokens .start "" rfl (fun token member => (own token member).2) (by rwa [same])
  obtain ⟨name, others, rfl⟩ := List.exists_cons_of_ne_nil taken
  have still := skipped_eq_of_front? shown plain.ne_comment
  have first := ((distilled.foretells rest known).of_returned shown plain.ne_comment).first _
    (ahead?_eq_of_front? (by rwa [still]))
  exact ⟨others, congrArg (· :: others) first⟩

end Distilled

section

variable {fit : α → β → Prop} {fit' : γ → δ → Prop} {one : Reading α} {two : Reading β}

theorem Carries.given {value : α} {value' : β} (fits : fit value value') :
    sieve.Carries fit (return value : Reading α) (return value') := by
  intro stream found left _ passes read
  cases read
  exact ⟨[], value', passes, nofun, fits, .pure value', fun _ known => known⟩

theorem Carries.refused (refuses : Refuses one) : sieve.Carries fit one two :=
  fun stream value left _ _ read => absurd read (refuses stream value left)

theorem Carries.located (carries : sieve.Carries fit one two) (front : BareToken) :
    sieve.CarriesAt front fit one two :=
  fun stream value left _ => carries stream value left trivial

theorem Carries.followed {next : α → Reading γ} {next' : β → Reading δ} (front : sieve.Carries fit one two)
    (later : ∀ value value', fit value value' → sieve.Carries fit' (next value) (next' value')) :
    sieve.Carries fit' (one >>= next) (two >>= next') := by
  intro stream value left _ passes read
  obtain ⟨found, between, run, read⟩ := bind_eq_ok read
  obtain ⟨words, found', first⟩ := front stream found between trivial passes run
  obtain ⟨words', value', second⟩ := later found found' first.fits between value left trivial first.passes read
  refine ⟨words ++ words', value', second.passes, List.forall_mem_append.mpr ⟨first.plain, second.plain⟩, second.fits,
    first.reads.bind second.reads second.foretells, fun rest known => ?_⟩
  rw [List.append_assoc]
  exact first.foretells _ (second.foretells rest known)

theorem Carries.test {next : Bool → Reading α} {next' : Bool → Reading β} (read : kind.IsRead)
    (later : ∀ found, sieve.Carries fit (next found) (next' found)) :
    sieve.Carries fit (nextIs kind wanted >>= next) (nextIs kind wanted >>= next') := by
  intro stream value left _ passes run
  obtain ⟨found, between, tested, run⟩ := bind_eq_ok run
  obtain ⟨token, shown, rfl, rfl⟩ := nextIs_eq_ok_iff.mp tested
  cases known : fits kind wanted token with
  | true =>
    rw [known] at run
    have plain := passes.isPlain shown (by rw [kind_of_fits known]; exact read.1.1)
    obtain ⟨words, value', distilled⟩ := later true _ value left trivial passes.skipped.advanced run
    exact ⟨_, value', distilled.cons shown plain (.taken known distilled.reads)⟩
  | false =>
    rw [known] at run
    obtain ⟨words, value', distilled⟩ := later false _ value left trivial passes.skipped run
    have whole := distilled.skipped
    refine ⟨words, value', { whole with reads := .passed (fun rest known' => ?_) whole.reads }⟩
    rw [whole.ahead shown known']
    exact known

theorem Carries.glance {next : Bool → Reading α} {next' : Bool → Reading β}
    (yes : ∀ front : BareToken, front.kind = kind → sieve.CarriesAt front fit (next true) (next' true))
    (no : sieve.Carries fit (next false) (next' false)) :
    sieve.Carries fit (peekedIs kind wanted >>= next) (peekedIs kind wanted >>= next') := by
  intro stream value left _ passes run
  obtain ⟨found, between, tested, run⟩ := bind_eq_ok run
  obtain ⟨token, shown, rfl, rfl⟩ := peekedIs_eq_ok_iff.mp tested
  have later : sieve.CarriesAt token.bare fit (next (fits kind wanted token)) (next' (fits kind wanted token)) := by
    cases fit : fits kind wanted token with
    | true => exact yes token.bare (kind_of_fits fit)
    | false => exact no.located _
  obtain ⟨words, value', distilled⟩ := later _ value left (congrArg (Option.map Token.bare) shown) passes.skipped run
  have whole := distilled.skipped
  refine ⟨words, value', { whole with reads := .seen _ (fun rest known => ?_) whole.reads }⟩
  rw [whole.ahead shown known]
  rfl

theorem Carries.ensured {next : String → Reading α} {next' : String → Reading β} (read : kind.IsRead)
    (later : ∀ value, sieve.texts.rel value value → sieve.Carries fit (next value) (next' value)) :
    sieve.Carries fit (ensure kind wanted >>= next) (ensure kind wanted >>= next') := by
  intro stream value left _ passes run
  obtain ⟨found, between, tested, run⟩ := bind_eq_ok run
  obtain ⟨token, shown, known, rfl, rfl⟩ := ensure_eq_ok_iff.mp tested
  have plain := passes.isPlain shown (by rw [kind_of_fits known]; exact read.1.1)
  obtain ⟨words, value', distilled⟩ :=
    later token.value (rel_self plain) _ value left trivial passes.skipped.advanced run
  exact ⟨_, value', distilled.cons shown plain (.ensured known distilled.reads)⟩

theorem Carries.looked {next : Token → Reading α} {next' : Token → Reading β}
    (alike : ∀ front placed : Token, placed.bare = front.bare → next' placed = next' front ∨ Refuses (next front))
    (later : ∀ front : Token, sieve.CarriesAt front.bare fit (next front) (next' front)) :
    sieve.Carries fit (current >>= next) (current >>= next') := by
  intro stream value left _ passes run
  obtain ⟨token, between, seen, run⟩ := bind_eq_ok run
  obtain ⟨shown, rfl⟩ := current_eq_ok_iff.mp seen
  obtain ⟨words, value', distilled⟩ :=
    later token _ value left (congrArg (Option.map Token.bare) shown) passes.skipped run
  have whole := distilled.skipped
  refine ⟨words, value', { whole with reads := ?_ }⟩
  intro tokens rest after docs same solid known
  obtain ⟨placed, front, bare⟩ := Reads.front?_delivering after docs solid
  rw [List.map_append, same, whole.ahead shown known] at bare
  rw [bind_apply, current_eq_ok_iff.mpr ⟨front, rfl⟩, Reads.skipped_delivering solid]
  dsimp only
  rw [(alike token placed bare).resolve_right fun refuses => refuses _ value left run]
  exact whole.reads tokens rest after docs same solid known

theorem Passes.exists_front (passes : sieve.Passes stream) {front : BareToken}
    (inside : stream.front?.map Token.bare = some front) (read : front.kind.IsRead) :
    ∃ token, stream.front? = some token ∧ token.bare = front ∧ TokenGroup.IsPlain token.bare ∧
      stream.skipped = stream := by
  obtain ⟨token, shown, rfl⟩ := Option.map_eq_some_iff.mp inside
  have still := skipped_eq_of_front? shown read.1.2
  exact ⟨token, shown, rfl, passes.isPlain (by rwa [still]) read.1.1, still⟩

theorem CarriesAt.moved {front : BareToken} {next : Token → Reading α} {next' : Token → Reading β}
    (read : front.kind.IsRead) (alike : ∀ placed : Token, placed.bare = front → next placed = one ∧ next' placed = two)
    (later : sieve.texts.rel front.value front.value → sieve.Carries fit one two) :
    sieve.CarriesAt front fit (TokenStream.next >>= next) (TokenStream.next >>= next') := by
  intro stream value left inside passes run
  obtain ⟨token, shown, rfl, plain, still⟩ := passes.exists_front inside read
  rw [bind_apply, next_eq_ok_iff.mpr ⟨shown, rfl⟩] at run
  dsimp only at run
  rw [(alike token rfl).1] at run
  obtain ⟨words, value', distilled⟩ := later (rel_self plain) _ value left trivial passes.advanced run
  rw [← still] at shown distilled
  refine ⟨_, value', distilled.cons shown plain (.moved fun placed same => ?_)⟩
  rw [(alike placed same).2]
  exact distilled.reads

theorem CarriesAt.glimpsed {front : BareToken} {yes : Reading α} {yes' : Reading β} {value : α} {value' : β}
    (same : front.kind = .doubleColon) (later : sieve.Carries fit yes yes') (fits : fit value value') :
    sieve.CarriesAt front fit (do
      let colons ← next
      if ← peekedIs .lessThan then yes else do
        unget colons
        return value) (do
      let colons ← next
      if ← peekedIs .lessThan then yes' else do
        unget colons
        return value') := by
  intro stream found left inside passes run
  obtain ⟨token, shown, rfl, plain, still⟩ := passes.exists_front inside (by rw [same]; decide)
  rw [bind_apply, next_eq_ok_iff.mpr ⟨shown, rfl⟩] at run
  obtain ⟨tested, between, peeked, run⟩ := bind_eq_ok run
  obtain ⟨second, ahead, rfl, rfl⟩ := peekedIs_eq_ok_iff.mp peeked
  cases known : TokenStream.fits .lessThan none second with
  | true =>
    rw [known] at run
    obtain ⟨words, value', distilled⟩ := later _ found left trivial passes.advanced.skipped run
    have behind := distilled.skipped
    rw [← still] at shown behind
    refine ⟨_, value', behind.cons shown plain (.moved fun placed same => ?_)⟩
    refine .seen true (fun rest known' => ?_) behind.reads
    rw [behind.ahead (by rwa [still]) known']
    exact known
  | false =>
    rw [known] at run
    cases run
    refine ⟨[], value', passes.advanced.skipped.unget plain, nofun, fits, .glimpsed fun rest foretells => ?_,
      fun rest foretells => foretells.of_returned shown plain.ne_comment⟩
    have still := foretells.of_returned shown plain.ne_comment
    obtain ⟨some, -, next⟩ := still.tail shown plain.ne_comment plain.ne_last ahead
    rw [next]
    exact ⟨some, known⟩

theorem Carries.marked (later : sieve.Carries fit one two) (passes : sieve.Passes stream)
    (shown : stream.skipped.front? = some token) (known : fits kind none token = true) (read : kind.IsRead) {value : α}
    (run : one stream.skipped.advanced = .ok value left) : ∃ words value',
      sieve.Distilled fit stream left value (nextIs kind >>= fun _ => two) (token.bare :: words) value' ∧
        Reads two words value' left.Foretells := by
  have plain := passes.isPlain shown (by rw [kind_of_fits known]; exact read.1.1)
  obtain ⟨words, value', distilled⟩ := later _ value left trivial passes.skipped.advanced run
  exact ⟨words, value', distilled.cons shown plain (.taken known distilled.reads), distilled.reads⟩

theorem CarriesAt.named {front : BareToken} {bound more : String → Reading α} {bound' more' : String → Reading β}
    {bare : Reading α} {bare' : Reading β} (same : front.kind = .identifier)
    (first : ∀ value, sieve.texts.rel value value → sieve.Carries fit (bound value) (bound' value))
    (second : ∀ value, sieve.texts.rel value value → sieve.Carries fit (more value) (more' value))
    (other : sieve.Carries fit bare bare') (takes : TakesSome bare') : sieve.CarriesAt front fit (do
      let name ← next
      if ← nextIs .equals then bound name.value
      else if ← nextIs .colon then more name.value
      else do
        unget name
        bare) (do
      let name ← next
      if ← nextIs .equals then bound' name.value
      else if ← nextIs .colon then more' name.value
      else do
        unget name
        bare') := by
  intro stream found left inside passes run
  obtain ⟨token, shown, rfl, plain, still⟩ := passes.exists_front inside (by rw [same]; decide)
  rw [bind_apply, next_eq_ok_iff.mpr ⟨shown, rfl⟩] at run
  obtain ⟨tested, between, one, run⟩ := bind_eq_ok run
  obtain ⟨mark, ahead, rfl, rfl⟩ := nextIs_eq_ok_iff.mp one
  have value {placed : Token} (same : placed.bare = token.bare) : placed.value = token.value :=
    congrArg BareToken.value same
  cases equals : TokenStream.fits .equals none mark with
  | true =>
    rw [equals] at run
    obtain ⟨words, value', behind, reads⟩ :=
      (first token.value (rel_self plain)).marked passes.advanced ahead equals (by decide) run
    rw [← still] at shown behind
    refine ⟨_, value', behind.cons shown plain (.moved fun placed same => ?_)⟩
    rw [value same]
    exact .taken equals reads
  | false =>
    rw [equals] at run
    obtain ⟨tested, between, two, run⟩ := bind_eq_ok run
    obtain ⟨mark', ahead', rfl, rfl⟩ := nextIs_eq_ok_iff.mp two
    obtain rfl : mark = mark' := by
      rw [if_neg Bool.false_ne_true, skipped_skipped] at ahead'
      exact Option.some.inj (ahead.symm.trans ahead')
    rw [if_neg Bool.false_ne_true, skipped_skipped] at run
    cases colon : TokenStream.fits .colon none mark with
    | true =>
      rw [colon] at run
      obtain ⟨words, value', behind, reads⟩ :=
        (second token.value (rel_self plain)).marked passes.advanced ahead colon (by decide) run
      rw [← still] at shown behind
      refine ⟨_, value', behind.cons shown plain (.moved fun placed same => ?_)⟩
      rw [value same]
      exact .passed (fun _ _ => equals) (.taken colon reads)
    | false =>
      rw [colon] at run
      -- the name is put back, and is the first word of what is read then
      obtain ⟨words, value', distilled⟩ := other _ found left trivial (passes.advanced.skipped.unget plain) run
      have starts {rest : List BareToken} (known : left.Foretells rest) :=
        ((distilled.foretells rest known).of_returned shown plain.ne_comment).tail shown plain.ne_comment plain.ne_last
          ahead
      obtain ⟨words, rfl⟩ := distilled.starts shown plain takes
      have apart {rest : List BareToken} (known : left.Foretells rest) : BareToken.ahead (words ++ rest) = mark.bare :=
        (starts known).2.2
      refine ⟨token.bare :: words, value', { distilled with
        foretells := fun rest known => (distilled.foretells rest known).of_returned shown plain.ne_comment
        reads := .moved fun placed same => .passed (fun rest known => ?_) (.passed (fun rest known => ?_)
          (.returned placed (by rw [same]; exact distilled.reads) ?_)) }⟩
      · rw [apart known]
        exact equals
      · rw [apart known]
        exact colon
      · rw [show placed.kind = token.kind from congrArg BareToken.kind same]
        exact plain.ne_comment

end

/-! ### Groups -/

def Stands (sieve : Sieve) (value : String) (word : BareToken) : Prop :=
  word.value = value ∨ (sieve.own value ∧ word = .symbol (signOf sieve.mark value.toList))

theorem signs_symbols : ∀ kind ∈ TokenKind.signs, kind ∈ TokenKind.symbols := by decide

theorem exists_balanced {steps : Nat} : ∀ {awaited : List TokenKind} {values result : List String}
    {stream left : TokenStream}, sieve.Passes stream →
      (∀ kind ∈ awaited, kind ∈ TokenGroup.closers) →
        TokenGroup.readWithin steps awaited values stream = .ok (some result) left → sieve.Passes left ∧
          ∃ (raw : List String) (words : List BareToken), result = values.reverse ++ raw ∧
            TokenGroup.Balanced awaited words ∧ (∀ word ∈ words, TokenGroup.IsPlain word) ∧
              List.Forall₂ sieve.Stands raw words := by
  induction steps with
  | zero => exact fun _ _ read => by cases read
  | succ steps ih =>
    intro awaited values result stream left passes closing read
    cases awaited with
    | nil =>
      cases read
      exact ⟨passes, [], [], by simp, rfl, nofun, .nil⟩
    | cons awaited outer =>
      obtain ⟨_, token, rest, same, pending, more, later⟩ := TokenGroup.readWithin_eq_some read
      cases same
      obtain ⟨lexed, own⟩ := passes token (by rw [pending]; exact List.mem_cons_self)
      by_cases comment : token.kind = .comment
      · have first := (List.forall_mem_cons.mp closing).1
        rw [comment, TokenGroup.awaitedAfter_single (by decide) first] at later
        obtain ⟨passes, raw, words, rfl, balanced, plain, stands⟩ := ih passes.advanced closing later
        have sign := signOf_mem sieve.mark token.value.toList
        refine ⟨passes, token.value :: raw, .symbol (signOf sieve.mark token.value.toList) :: words, by simp, ⟨?_, ?_⟩,
          List.forall_mem_cons.mpr ⟨.symbol (signs_symbols _ sign), plain⟩, .cons (.inr ⟨own comment, rfl⟩) stands⟩
        · intro last
          rw [show signOf sieve.mark token.value.toList = .endOfInput from last] at sign
          exact absurd sign (by decide)
        · change TokenGroup.Balanced (TokenGroup.awaitedAfter (signOf _ token.value.toList) awaited outer) words
          rwa [TokenGroup.awaitedAfter_single (TokenGroup.isSingle_of_mem_signs sign) first]
      · obtain ⟨passes, raw, words, rfl, balanced, plain, stands⟩ :=
          ih passes.advanced (TokenGroup.closers_awaitedAfter closing _) later
        exact ⟨passes, token.value :: raw, token.bare :: words, by simp, ⟨more, balanced⟩,
          List.forall_mem_cons.mpr ⟨.of_lexed lexed comment, plain⟩, .cons (.inl rfl) stands⟩

theorem exists_foldl_append (text : List Char) (values : List (List Char)) :
    ∃ more, values.foldl TokenGroup.append text = text ++ more := by
  induction values generalizing text with
  | nil => exact ⟨[], by simp⟩
  | cons value values ih =>
    obtain ⟨more, shown⟩ := ih (TokenGroup.append text value)
    rw [List.foldl_cons, shown, TokenGroup.append]
    split
    · exact ⟨value ++ more, List.append_assoc _ _ _⟩
    · exact ⟨' ' :: value ++ more, by simp⟩

theorem rel_join {raw : List String} {words : List BareToken} (stands : List.Forall₂ sieve.Stands raw words)
    (plain : ∀ word ∈ words, TokenGroup.IsPlain word) :
    sieve.texts.rel (TokenGroup.join raw) (TokenGroup.join (words.map BareToken.value)) := by
  have onward : ∀ {one two : List Char}, TokenGroup.GoOn sieve.mark one two → '/' ∉ one →
      (Masks sieve.mark (((words.map BareToken.value).map String.toList).foldl TokenGroup.append one)
        ((raw.map String.toList).foldl TokenGroup.append two) ∧
          '/' ∉ ((words.map BareToken.value).map String.toList).foldl TokenGroup.append one) ∨
      ((∃ comment, sieve.own comment ∧ Lexer.IsLine comment.toList) ∧ ∃ front rest,
        (raw.map String.toList).foldl TokenGroup.append two = front ++ '/' :: '/' :: rest ∧ InBlocks front) := by
    induction stands with
    | nil => exact fun goOn free => .inl ⟨goOn.masks, free⟩
    | @cons value word raw words stands others ih =>
      intro one two goOn free
      obtain ⟨own, later⟩ := List.forall_mem_cons.mp plain
      have veiled (veils : TokenGroup.Veils sieve.mark word.value value) := ih later (goOn.append veils) (by
        unfold TokenGroup.append
        split <;> simp [free, show '/' ∉ word.value.toList from own.commentFree])
      rcases stands with same | ⟨known, rfl⟩
      · exact veiled (.inl same)
      · rcases sieve.forms value known with block | line
        · exact veiled (.inr ⟨block, rfl⟩)
        · -- behind the line comment nothing matters any more
          obtain ⟨more, shown⟩ := exists_foldl_append (TokenGroup.append two value.toList) (raw.map String.toList)
          obtain ⟨inner, lines⟩ := line
          refine .inr ⟨⟨value, known, inner, lines⟩, ?_⟩
          rw [List.map_cons, List.foldl_cons, shown, TokenGroup.append, ← lines]
          have blocks := goOn.masks.inBlocks free
          split
          · exact ⟨two, inner ++ more, by simp, blocks⟩
          · exact ⟨two ++ [' '], inner ++ more, by simp, blocks.append (.plain (by decide) .nil)⟩
  rcases onward ⟨.nil, rfl, rfl⟩ (List.not_mem_nil) with ⟨masks, free⟩ | found
  · refine .inl ⟨?_, ?_⟩
    · rwa [TokenGroup.join, TokenGroup.join, String.toList_ofList, String.toList_ofList]
    · rwa [TokenGroup.join, CommentFree, String.toList_ofList]
  · right
    rwa [Lined, TokenGroup.join, String.toList_ofList]

open TypeExpr.Parser in
theorem Carries.group {path path' : String} (rel : sieve.texts.rel path path') :
    sieve.Carries (TypeExpr.Fits sieve.texts) (macroGroup path) (macroGroup path') := by
  intro stream value left _ passes read
  obtain ⟨bang, opening, closer, values, shown, kind, front, closes, group, rfl⟩ := macroGroup_eq_ok_iff.mp read
  have isSymbol := (TokenGroup.mem_closers closes).2.1
  have mark := passes.isPlain shown (by rw [kind]; decide)
  obtain ⟨more, solid⟩ := TokenGroup.ne_of_closer? closes
  have lexed := (passes.skipped.advanced.front? front more).1
  have first : bang.bare = .symbol .bang := by
    have same := mark.lexed.eq_symbol (by rw [show bang.bare.kind = bang.kind from rfl, kind]; decide)
    rwa [show bang.bare.kind = bang.kind from rfl, kind] at same
  have second : opening.bare = .symbol opening.kind := lexed.eq_symbol isSymbol
  obtain ⟨passes, raw, words, rfl, balanced, plain, stands⟩ := exists_balanced passes.skipped.advanced.advanced
    (List.forall_mem_singleton.mpr (TokenGroup.mem_closers closes).1) group
  have isGroup : TokenGroup.IsGroup opening.bare words := by
    refine ⟨⟨closer, closes, balanced⟩, ?_, plain⟩
    rw [second]
    rfl
  have whole : List.Forall₂ sieve.Stands (opening.value :: raw) (opening.bare :: words) := .cons (.inl rfl) stands
  have joined := rel_join whole (List.forall_mem_cons.mpr ⟨.of_lexed lexed solid, plain⟩)
  have named : sieve.texts.rel (path ++ "!") (path' ++ "!") := sieve.texts.append rel (sieve.texts.plain (by decide))
  refine ⟨bang.bare :: opening.bare :: words,
    .verbatim (path' ++ "!" ++ TokenGroup.join ((opening.bare :: words).map BareToken.value)), passes, ?_,
    ⟨rfl, sieve.texts.append named joined⟩, ?_, ?_⟩
  · exact List.forall_mem_cons.mpr ⟨mark, List.forall_mem_cons.mpr ⟨.of_lexed lexed solid, plain⟩⟩
  · rw [first]
    exact (reads_macroGroup path' isGroup).strengthen fun _ _ => trivial
  · intro rest _
    constructor
    · intro one ahead
      rw [ahead?_eq_of_front? shown] at ahead
      exact Option.some.inj ahead
    · intro one two _ _ ahead
      have still := skipped_eq_of_front? front solid
      rw [ahead?_eq_of_front? (by rwa [still])] at ahead
      exact Option.some.inj ahead

def transfer (sieve : Sieve) : Transfer where
  toTextRelation := sieve.texts
  Carries := sieve.Carries
  CarriesAt := sieve.CarriesAt
  given fits := .given fits
  refused refuses := .refused refuses
  followed front later := front.followed later
  test read later := .test read later
  glance _ yes no := .glance yes no
  ensured read later := .ensured read later
  looked alike later := .looked alike later
  located carries front := carries.located front
  moved same read alike later := .moved (by rwa [same]) alike later
  glimpsed same yes fits := .glimpsed same yes fits
  named same bound more bare takes := .named same bound more bare takes
  group rel := .group rel

end Sieve

end CowView
