import CowView.Proofs.Enclosure
import CowView.Proofs.Masking
import CowView.Proofs.Noting

/-!
Runs on streams that differ in their comments. A `Loom` says how: the second stream has comments that the first one
does not have, or it has comments where the first one has signs. It makes a transfer (`Loom.transfer`): what the
parser reads off the first stream it reads off the second one, up to the comments in groups, unless a comment stands
directly behind a bang or the first run stops in front of a sign.
-/

namespace CowView

open TokenStream Text

/-- Do the two streams differ by comments that are added? If not, the second one has comments for the signs of the
first one, which are the signs of a mark. Comments directly behind a bang are tight. -/
structure Loom where
  adds : Prop
  mark : List Char → Bool
  tight : Token → Prop

def TokenStream.Tight (stream : TokenStream) (comment : Token) : Prop :=
  comment.kind = .comment ∧
    ∃ bang : Token, bang.kind = .bang ∧ [.token bang, .token comment] <:+: stream.pending

theorem TokenStream.Tight.mono {stream other : TokenStream} {comment : Token} (tight : stream.Tight comment)
    (inside : stream.pending <:+: other.pending) : other.Tight comment :=
  ⟨tight.1, tight.2.imp fun _ known => ⟨known.1, known.2.trans inside⟩⟩

namespace Loom

inductive Weaves (loom : Loom) : List Lexeme → List Lexeme → Prop where
  | nil : Weaves loom [] []
  | fault {cause cause' : Fault} {one two : List Lexeme} (later : Weaves loom one two) :
    Weaves loom (.fault cause :: one) (.fault cause' :: two)
  | same {token placed : Token} {one two : List Lexeme} (bare : token.bare = placed.bare)
    (later : Weaves loom one two) : Weaves loom (.token token :: one) (.token placed :: two)
  | added {comment : Token} {one two : List Lexeme} (adds : loom.adds) (kind : comment.kind = .comment)
    (later : Weaves loom one two) : Weaves loom one (.token comment :: two)
  | kept {token comment : Token} {one two : List Lexeme} (keeps : ¬ loom.adds) (kind : comment.kind = .comment)
    (block : Lexer.IsBlock comment.value.toList)
    (sign : token.bare = .symbol (signOf loom.mark comment.value.toList)) (later : Weaves loom one two) :
    Weaves loom (.token token :: one) (.token comment :: two)

structure Woven (loom : Loom) (first second : TokenStream) : Prop where
  pending : loom.Weaves first.pending second.pending
  ending : ∀ place, first.ending = .finished place → ∃ place', second.ending = .finished place'
  tight : ∀ comment, second.Tight comment → loom.tight comment

/-- There is a sign ahead that the parser does not get past, since no macro starts in front of it. -/
def Blocked (loom : Loom) (stream : TokenStream) : Prop :=
  ¬ loom.adds ∧ ∃ (front : List Token) (sign : Token) (rest : List Lexeme),
    stream.pending = front.map .token ++ .token sign :: rest ∧ sign.kind ∈ TokenKind.signs ∧
      ∀ token ∈ front, token.kind ≠ .bang

variable {loom : Loom} {first second stream left : TokenStream} {token one : Token}
  {lexemes lexemes' : List Lexeme} {kind : TokenKind} {wanted : Option String}

/-! ### In front of a sign -/

theorem ne_comment_of_mem_signs (sign : kind ∈ TokenKind.signs) : kind ≠ .comment := by
  rintro rfl
  exact absurd sign (by decide)

namespace Blocked

theorem skipped (blocked : loom.Blocked stream) : loom.Blocked stream.skipped := by
  obtain ⟨keeps, front, sign, rest, pending, known, quiet⟩ := blocked
  refine ⟨keeps, ?_⟩
  obtain ⟨lexemes, ending, docs⟩ := stream
  cases pending
  have plain : sign.isComment = false := by simpa [Token.isComment] using ne_comment_of_mem_signs known
  induction front generalizing docs with
  | nil => exact ⟨[], sign, rest, by simp [TokenStream.skipped, TokenStream.dropComments, plain], known, by simp⟩
  | cons token front ih =>
    cases comment : token.isComment with
    | true =>
      have later := ih (fun other member => quiet other (List.mem_cons_of_mem _ member))
        (if DocComment.isDoc token.value then DocComment.body token.value else docs)
      simpa [TokenStream.skipped, TokenStream.dropComments, comment] using later
    | false =>
      exact ⟨token :: front, sign, rest, by simp [TokenStream.skipped, TokenStream.dropComments, comment], known, quiet⟩

theorem front (blocked : loom.Blocked stream) (shown : stream.front? = some token) :
    token.kind ∈ TokenKind.signs ∨ (token.kind ≠ .bang ∧ loom.Blocked stream.advanced) := by
  obtain ⟨keeps, front, sign, rest, pending, known, quiet⟩ := blocked
  cases front with
  | nil =>
    rw [front?_cons pending] at shown
    cases shown
    exact .inl known
  | cons other front =>
    rw [front?_cons pending] at shown
    cases shown
    exact .inr ⟨quiet _ List.mem_cons_self, keeps, front, sign, rest, by rw [advanced, pending]; rfl, known,
      fun other member => quiet other (List.mem_cons_of_mem _ member)⟩

theorem unget (blocked : loom.Blocked stream) (quiet : token.kind ≠ .bang) :
    loom.Blocked { stream with pending := .token token :: stream.pending } := by
  obtain ⟨keeps, front, sign, rest, pending, known, others⟩ := blocked
  refine ⟨keeps, token :: front, sign, rest, ?_, known, List.forall_mem_cons.mpr ⟨quiet, others⟩⟩
  rw [pending]
  rfl

theorem advanced (blocked : loom.Blocked stream) (shown : stream.front? = some token) (read : token.kind.IsRead) :
    loom.Blocked stream.advanced :=
  ((blocked.front shown).resolve_left read.2).2

/-- A test of the token in front does not get past the sign. -/
theorem tested (blocked : loom.Blocked stream) (shown : stream.front? = some token) (read : kind.IsRead) :
    loom.Blocked (if fits kind wanted token then stream.advanced else stream) := by
  cases fit : fits kind wanted token with
  | false => exact blocked
  | true => exact blocked.advanced shown (by rwa [kind_of_fits fit])

end Blocked

/-! ### Woven streams -/

/-- The comments in front are dropped from both, unless a sign is left in front of the first stream. -/
theorem Weaves.dropComments (weaves : loom.Weaves lexemes lexemes') : ∀ docs docs' : String,
    loom.Weaves (TokenStream.dropComments docs lexemes).1 (TokenStream.dropComments docs' lexemes').1 ∨
      (¬ loom.adds ∧ ∃ (sign : Token) (rest : List Lexeme),
        (TokenStream.dropComments docs lexemes).1 = .token sign :: rest ∧ sign.kind ∈ TokenKind.signs) := by
  induction weaves with
  | nil => exact fun _ _ => .inl .nil
  | fault later => exact fun _ _ => .inl (.fault later)
  | @same token placed one two bare later ih =>
    intro docs docs'
    have kinds : token.isComment = placed.isComment := by
      rw [Token.isComment, Token.isComment, show token.kind = placed.kind from congrArg BareToken.kind bare]
    rw [TokenStream.dropComments, TokenStream.dropComments, ← kinds]
    split
    · exact ih _ _
    · exact .inl (.same bare later)
  | @added comment one two adds kind later ih =>
    intro docs docs'
    have dropped : comment.isComment = true := by simp [Token.isComment, kind]
    rw [TokenStream.dropComments.eq_1 docs', if_pos dropped]
    exact ih _ _
  | @kept token comment one two keeps kind block sign later ih =>
    intro docs docs'
    have known : token.kind ∈ TokenKind.signs := by
      rw [show token.kind = _ from congrArg BareToken.kind sign]
      exact signOf_mem _ _
    have plain : token.isComment = false := by simpa [Token.isComment] using ne_comment_of_mem_signs known
    refine .inr ⟨keeps, token, one, ?_, known⟩
    rw [TokenStream.dropComments, if_neg (by simp [plain])]

namespace Woven

theorem skipped (woven : loom.Woven first second) :
    loom.Blocked first.skipped ∨ loom.Woven first.skipped second.skipped := by
  rcases woven.pending.dropComments first.docs second.docs with weaves | ⟨keeps, sign, rest, shown, known⟩
  · -- what is left is a suffix, so no comment gets behind a bang
    obtain ⟨comments, -, parts, -⟩ := second.exists_dropped
    refine .inr ⟨weaves, woven.ending, fun comment tight => woven.tight comment (tight.mono ?_)⟩
    rw [parts]
    exact (List.suffix_append _ _).isInfix
  · exact .inl ⟨keeps, [], sign, rest, shown, known, nofun⟩

theorem advanced (woven : loom.Woven first second)
    (weaves : loom.Weaves first.advanced.pending second.advanced.pending) :
    loom.Woven first.advanced second.advanced where
  pending := weaves
  ending := woven.ending
  tight comment tight := woven.tight comment (tight.mono (List.tail_suffix _).isInfix)

theorem unget {placed : Token} (woven : loom.Woven first second) (bare : token.bare = placed.bare)
    (quiet : token.kind ≠ .bang) :
    loom.Woven { first with pending := .token token :: first.pending }
      { second with pending := .token placed :: second.pending } where
  pending := .same bare woven.pending
  ending := woven.ending
  tight comment tight := by
    obtain ⟨kind, bang, known, inside⟩ := tight
    refine woven.tight comment ⟨kind, bang, known, ?_⟩
    rcases List.infix_cons_iff.mp inside with starts | inside
    · obtain ⟨same, -⟩ := List.cons_prefix_cons.mp starts
      cases same
      exact absurd (Eq.trans (congrArg BareToken.kind bare) known) quiet
    · exact inside

/-- A comment of the second stream is passed over. -/
theorem behind {comment : Token} {two : List Lexeme} {ending : Ending} {docs : String}
    (woven : loom.Woven first ⟨.token comment :: two, ending, docs⟩) (weaves : loom.Weaves first.pending two) :
    loom.Woven first ⟨two, ending, docs⟩ where
  pending := weaves
  ending := woven.ending
  tight other tight := woven.tight other (tight.mono (List.suffix_cons _ _).isInfix)

theorem front? (woven : loom.Woven first second) (settled : second.Settled) (shown : first.front? = some one) :
    ∃ two, second.front? = some two ∧ one.bare = two.bare ∧ loom.Woven first.advanced second.advanced := by
  obtain ⟨lexemes, ending, docs⟩ := first
  obtain ⟨lexemes', ending', docs'⟩ := second
  have apart {comment : Token} {two : List Lexeme} (pending : lexemes' = .token comment :: two) :
      comment.kind ≠ .comment := by
    simpa [Token.isComment] using settled comment (front?_cons pending)
  rcases woven with ⟨weaves, ends, tight⟩
  have whole : loom.Woven ⟨lexemes, ending, docs⟩ ⟨lexemes', ending', docs'⟩ := ⟨weaves, ends, tight⟩
  change loom.Weaves lexemes lexemes' at weaves
  cases weaves with
  | nil =>
    cases ending with
    | stuck fault => cases shown
    | finished place =>
      obtain ⟨place', rfl⟩ := ends place rfl
      cases shown
      exact ⟨.endAt place', rfl, rfl, whole.advanced .nil⟩
  | fault later => cases shown
  | same bare later =>
    cases shown
    exact ⟨_, rfl, bare, whole.advanced later⟩
  | added adds kind later => exact absurd kind (apart rfl)
  | kept keeps kind => exact absurd kind (apart rfl)

/-- Behind the comments in front both streams show the same token, unless a sign is left in front. -/
theorem ahead (woven : loom.Woven first second) (shown : first.skipped.front? = some one) :
    loom.Blocked first.skipped ∨ ∃ two, second.skipped.front? = some two ∧ one.bare = two.bare ∧
      loom.Woven first.skipped second.skipped ∧ loom.Woven first.skipped.advanced second.skipped.advanced := by
  refine woven.skipped.imp id fun woven => ?_
  obtain ⟨-, -, -, -, settled⟩ := second.exists_dropped
  obtain ⟨two, shown', bare, behind⟩ := woven.front? settled shown
  exact ⟨two, shown', bare, woven, behind⟩

end Woven

/-! ### Runs -/

def texts (loom : Loom) : TextRelation where
  rel one two := ¬ loom.adds → Masks loom.mark one.toList two.toList
  append first second keeps := by
    rw [String.toList_append, String.toList_append]
    exact (first keeps).append (second keeps)
  plain _ _ := .refl _

variable {α β γ δ : Type}

def Lost (loom : Loom) (fit : α → β → Prop) (value : α) (left : TokenStream) : Prop :=
  loom.Blocked left ∧ ∃ value', fit value value'

/-- The second run gives what the first one gave, or it fails at a comment directly behind a bang. -/
def Mends (loom : Loom) (fit : α → β → Prop) (value : α) (left : TokenStream) :
    EStateM.Result Fault TokenStream β → Prop
  | .ok value' left' => fit value value' ∧ loom.Woven left left'
  | .error fault _ => loom.adds ∧ ∃ comment, loom.tight comment ∧ fault = unexpected comment ["(", "[", "\x7b"]

/-- What the first action does in front of a sign, and what the second one does on a woven stream. Only streams of a
sort count. -/
structure CarriesOn (loom : Loom) (inside : TokenStream → Prop) (fit : α → β → Prop) (one : Reading α)
    (two : Reading β) : Prop where
  blocked : ∀ stream value left, inside stream → loom.Blocked stream → one stream = .ok value left →
    loom.Lost fit value left
  woven : ∀ first second value left, inside first → inside second → loom.Woven first second →
    one first = .ok value left → loom.Lost fit value left ∨ loom.Mends fit value left (two second)

def Carries (loom : Loom) (fit : α → β → Prop) (one : Reading α) (two : Reading β) : Prop :=
  loom.CarriesOn (fun _ => True) fit one two

def CarriesAt (loom : Loom) (front : BareToken) (fit : α → β → Prop) (one : Reading α) (two : Reading β) : Prop :=
  loom.CarriesOn (fun stream => stream.front?.map Token.bare = some front) fit one two

section

variable {fit : α → β → Prop} {fit' : γ → δ → Prop} {one : Reading α} {two : Reading β}

theorem Carries.given {value : α} {value' : β} (fits : fit value value') :
    loom.Carries fit (return value : Reading α) (return value') where
  blocked stream _ _ _ blocked read := by
    cases read
    exact ⟨blocked, value', fits⟩
  woven _ _ _ _ _ _ woven read := by
    cases read
    exact .inr ⟨fits, woven⟩

theorem Carries.refused (refuses : Refuses one) : loom.Carries fit one two where
  blocked stream value left _ _ read := absurd read (refuses stream value left)
  woven first _ value left _ _ _ read := absurd read (refuses first value left)

theorem Carries.located (carries : loom.Carries fit one two) (front : BareToken) :
    loom.CarriesAt front fit one two where
  blocked stream value left _ := carries.blocked stream value left trivial
  woven first second value left _ _ := carries.woven first second value left trivial trivial

theorem Carries.followed {next : α → Reading γ} {next' : β → Reading δ} (front : loom.Carries fit one two)
    (later : ∀ value value', fit value value' → loom.Carries fit' (next value) (next' value')) :
    loom.Carries fit' (one >>= next) (two >>= next') where
  blocked stream value left _ blocked read := by
    obtain ⟨found, between, run, read⟩ := bind_eq_ok read
    obtain ⟨blocked, found', fits⟩ := front.blocked stream found between trivial blocked run
    exact (later found found' fits).blocked between value left trivial blocked read
  woven first second value left _ _ woven read := by
    obtain ⟨found, between, run, read⟩ := bind_eq_ok read
    rcases front.woven first second found between trivial trivial woven run with ⟨blocked, found', fits⟩ | mends
    · exact .inl ((later found found' fits).blocked between value left trivial blocked read)
    · rw [bind_apply]
      cases run' : two second with
      | ok found' between' =>
        rw [run'] at mends
        exact (later found found' mends.1).woven between between' value left trivial trivial mends.2 read
      | error fault left' =>
        rw [run'] at mends
        exact .inr mends

theorem Carries.test {next : Bool → Reading α} {next' : Bool → Reading β} (read : kind.IsRead)
    (later : ∀ found, loom.Carries fit (next found) (next' found)) :
    loom.Carries fit (nextIs kind wanted >>= next) (nextIs kind wanted >>= next') := by
  have behind {stream left : TokenStream} {token : Token} {value : α} (blocked : loom.Blocked stream.skipped)
      (shown : stream.skipped.front? = some token)
      (run : next (fits kind wanted token)
        (if fits kind wanted token then stream.skipped.advanced else stream.skipped) = .ok value left) :
      loom.Lost fit value left :=
    (later _).blocked _ value left trivial (blocked.tested shown read) run
  constructor
  · intro stream value left _ blocked run
    obtain ⟨found, between, tested, run⟩ := bind_eq_ok run
    obtain ⟨token, shown, rfl, rfl⟩ := nextIs_eq_ok_iff.mp tested
    exact behind blocked.skipped shown run
  · intro first second value left _ _ woven run
    obtain ⟨found, between, tested, run⟩ := bind_eq_ok run
    obtain ⟨token, shown, rfl, rfl⟩ := nextIs_eq_ok_iff.mp tested
    rcases woven.ahead shown with blocked | ⟨placed, shown', bare, skipped, advanced⟩
    · exact .inl (behind blocked shown run)
    · rw [bind_apply, nextIs_eq_ok_iff.mpr ⟨placed, shown', rfl, rfl⟩, ← fits_congr bare]
      refine (later _).woven _ _ value left trivial trivial ?_ run
      split
      · exact advanced
      · exact skipped

theorem Carries.glance {next : Bool → Reading α} {next' : Bool → Reading β}
    (yes : ∀ front : BareToken, front.kind = kind → loom.CarriesAt front fit (next true) (next' true))
    (no : loom.Carries fit (next false) (next' false)) :
    loom.Carries fit (peekedIs kind wanted >>= next) (peekedIs kind wanted >>= next') := by
  have later {token : Token} : loom.CarriesAt token.bare fit (next (fits kind wanted token))
      (next' (fits kind wanted token)) := by
    cases fit : fits kind wanted token with
    | true => exact yes token.bare (kind_of_fits fit)
    | false => exact no.located _
  constructor
  · intro stream value left _ blocked run
    obtain ⟨found, between, tested, run⟩ := bind_eq_ok run
    obtain ⟨token, shown, rfl, rfl⟩ := peekedIs_eq_ok_iff.mp tested
    exact later.blocked _ value left (by rw [shown]; rfl) blocked.skipped run
  · intro first second value left _ _ woven run
    obtain ⟨found, between, tested, run⟩ := bind_eq_ok run
    obtain ⟨token, shown, rfl, rfl⟩ := peekedIs_eq_ok_iff.mp tested
    rcases woven.ahead shown with blocked | ⟨placed, shown', bare, skipped, -⟩
    · exact .inl (later.blocked _ value left (by rw [shown]; rfl) blocked run)
    · rw [bind_apply, peekedIs_eq_ok_iff.mpr ⟨placed, shown', rfl, rfl⟩, ← fits_congr bare]
      exact later.woven _ _ value left (by rw [shown]; rfl) (by rw [shown', bare]; rfl) skipped run

theorem Carries.ensured {next : String → Reading α} {next' : String → Reading β} (read : kind.IsRead)
    (later : ∀ value, loom.Carries fit (next value) (next' value)) :
    loom.Carries fit (ensure kind wanted >>= next) (ensure kind wanted >>= next') := by
  have behind {stream left : TokenStream} {token : Token} {value : α} (blocked : loom.Blocked stream.skipped)
      (shown : stream.skipped.front? = some token) (known : fits kind wanted token = true)
      (run : next token.value stream.skipped.advanced = .ok value left) : loom.Lost fit value left :=
    (later _).blocked _ value left trivial (blocked.advanced shown (by rwa [kind_of_fits known])) run
  constructor
  · intro stream value left _ blocked run
    obtain ⟨found, between, tested, run⟩ := bind_eq_ok run
    obtain ⟨token, shown, known, rfl, rfl⟩ := ensure_eq_ok_iff.mp tested
    exact behind blocked.skipped shown known run
  · intro first second value left _ _ woven run
    obtain ⟨found, between, tested, run⟩ := bind_eq_ok run
    obtain ⟨token, shown, known, rfl, rfl⟩ := ensure_eq_ok_iff.mp tested
    rcases woven.ahead shown with blocked | ⟨placed, shown', bare, -, advanced⟩
    · exact .inl (behind blocked shown known run)
    · have values : token.value = placed.value := congrArg BareToken.value bare
      rw [bind_apply, ensure_eq_ok_iff.mpr ⟨placed, shown', by rwa [← fits_congr bare], rfl, rfl⟩, ← values]
      exact (later _).woven _ _ value left trivial trivial advanced run

theorem Carries.looked {next : Token → Reading α} {next' : Token → Reading β}
    (alike : ∀ front placed : Token, placed.bare = front.bare → next' placed = next' front ∨ Refuses (next front))
    (later : ∀ front : Token, loom.CarriesAt front.bare fit (next front) (next' front)) :
    loom.Carries fit (current >>= next) (current >>= next') := by
  constructor
  · intro stream value left _ blocked run
    obtain ⟨token, between, seen, run⟩ := bind_eq_ok run
    obtain ⟨shown, rfl⟩ := current_eq_ok_iff.mp seen
    exact (later token).blocked _ value left (by rw [shown]; rfl) blocked.skipped run
  · intro first second value left _ _ woven run
    obtain ⟨token, between, seen, run⟩ := bind_eq_ok run
    obtain ⟨shown, rfl⟩ := current_eq_ok_iff.mp seen
    rcases woven.ahead shown with blocked | ⟨placed, shown', bare, skipped, -⟩
    · exact .inl ((later token).blocked _ value left (by rw [shown]; rfl) blocked run)
    · rw [bind_apply, current_eq_ok_iff.mpr ⟨shown', rfl⟩]
      dsimp only
      rcases alike token placed bare.symm with same | refuses
      · rw [same]
        exact (later token).woven _ _ value left (by rw [shown]; rfl) (by rw [shown', bare]; rfl) skipped run
      · exact absurd run (refuses _ value left)

theorem CarriesAt.taken {front : BareToken} {next : Token → Reading α} {next' : Token → Reading β}
    (read : front.kind.IsRead)
    (later : ∀ token placed : Token, token.bare = front → placed.bare = front →
      loom.Carries fit (next token) (next' placed)) :
    loom.CarriesAt front fit (TokenStream.next >>= next) (TokenStream.next >>= next') := by
  have known {token : Token} (bare : token.bare = front) : token.kind.IsRead := by
    rwa [← show token.bare.kind = token.kind from rfl, bare]
  constructor
  · intro stream value left inside blocked run
    obtain ⟨token, between, taken, run⟩ := bind_eq_ok run
    obtain ⟨shown, rfl⟩ := next_eq_ok_iff.mp taken
    have bare : token.bare = front := by simpa [shown] using inside
    exact (later token token bare bare).blocked _ value left trivial (blocked.advanced shown (known bare)) run
  · intro first second value left inside inside' woven run
    obtain ⟨token, between, taken, run⟩ := bind_eq_ok run
    obtain ⟨shown, rfl⟩ := next_eq_ok_iff.mp taken
    have bare : token.bare = front := by simpa [shown] using inside
    have settled : second.Settled := fun placed shown' =>
      isComment_of_isSolid (known (by simpa [shown'] using inside')).1
    obtain ⟨placed, shown', bare', advanced⟩ := woven.front? settled shown
    rw [bind_apply, next_eq_ok_iff.mpr ⟨shown', rfl⟩]
    exact (later token placed bare (bare'.symm.trans bare)).woven _ _ value left trivial trivial advanced run

/-- A token is put back on both streams. -/
theorem Carries.returned {token placed : Token} (bare : token.bare = placed.bare) (quiet : token.kind ≠ .bang)
    (later : loom.Carries fit one two) :
    loom.Carries fit (unget token >>= fun _ => one) (unget placed >>= fun _ => two) where
  blocked _ value left _ blocked run := later.blocked _ value left trivial (blocked.unget quiet) run
  woven _ _ value left _ _ woven run :=
    later.woven _ _ value left trivial trivial (woven.unget bare quiet) run

theorem Carries.glanced {yes no : Reading α} {yes' no' : Reading β}
    (first : ∀ front : BareToken, front.kind = kind → loom.CarriesAt front fit yes yes')
    (second : loom.Carries fit no no') :
    loom.Carries fit (peekedIs kind wanted >>= fun found => if found = true then yes else no)
      (peekedIs kind wanted >>= fun found => if found = true then yes' else no') :=
  .glance first second

theorem Carries.tested {yes no : Reading α} {yes' no' : Reading β} (read : kind.IsRead)
    (first : loom.Carries fit yes yes') (second : loom.Carries fit no no') :
    loom.Carries fit (nextIs kind wanted >>= fun found => if found = true then yes else no)
      (nextIs kind wanted >>= fun found => if found = true then yes' else no') := by
  refine .test read fun found => ?_
  cases found
  · exact second
  · exact first

end

end Loom

/-! ### Groups -/

namespace TokenGroup

variable {kind : TokenKind} {stream left : TokenStream} {token : Token}

/-- A sign opens nothing and closes nothing. -/
theorem isSingle_of_mem_signs (sign : kind ∈ TokenKind.signs) : kind.IsSingle := by
  revert kind
  decide

/-- A group that was closed was read from its first token on. -/
theorem readWithin_eq_some {steps : Nat} {awaited : TokenKind} {outer : List TokenKind} {values result : List String}
    (read : readWithin steps (awaited :: outer) values stream = .ok (some result) left) :
    ∃ less token rest, steps = less + 1 ∧ stream.pending = .token token :: rest ∧ token.kind ≠ .endOfInput ∧
      readWithin less (awaitedAfter token.kind awaited outer) (token.value :: values)
        stream.advanced = .ok (some result) left := by
  cases steps with
  | zero => cases read
  | succ less =>
    rw [readWithin_succ] at read
    obtain ⟨token, between, taken, read⟩ := bind_eq_ok read
    obtain ⟨shown, rfl⟩ := next_eq_ok_iff.mp taken
    by_cases more : token.kind = .endOfInput
    · rw [if_pos more] at read
      cases read
    · rw [if_neg more] at read
      exact ⟨less, token, _, rfl, pending_of_front? shown more, more, read⟩

end TokenGroup

theorem TypeExpr.Parser.macroGroup_refused {path : String} {stream : TokenStream} {bang opening : Token}
    (shown : stream.skipped.front? = some bang) (kind : bang.kind = .bang)
    (front : stream.skipped.advanced.front? = some opening) (open_ : opening.kind.closer? = none) :
    macroGroup path stream =
      .error (unexpected opening ["(", "[", "\x7b"]) stream.skipped.advanced.advanced := by
  unfold macroGroup
  rw [bind_apply, ensure_eq_ok_iff.mpr ⟨bang, shown, by simp [fits, kind], rfl, rfl⟩]
  dsimp only
  rw [bind_apply, next_eq_ok_iff.mpr ⟨front, rfl⟩]
  simp only [open_]
  rfl

namespace Loom

variable {loom : Loom}

theorem Woven.readWithin {less : Nat} : ∀ {steps : Nat} {awaited : List TokenKind} {values values' result : List String}
    {first second left : TokenStream}, loom.Woven first second → second.pending.length < less →
      (∀ kind ∈ awaited, kind ∈ TokenGroup.closers) →
        (¬ loom.adds → List.Forall₂ (TokenGroup.Veils loom.mark) values values') →
          TokenGroup.readWithin steps awaited values first = .ok (some result) left →
            ∃ result' left', TokenGroup.readWithin less awaited values' second = .ok (some result') left' ∧
              (¬ loom.adds → List.Forall₂ (TokenGroup.Veils loom.mark) result result') ∧ loom.Woven left left' := by
  -- over the steps of the second run: it takes a token in each of them, the first run takes none for an added comment
  induction less with
  | zero => exact fun _ enough => absurd enough (Nat.not_lt_zero _)
  | succ less ih =>
    intro steps awaited values values' result first second left woven enough closing veils read
    cases awaited with
    | nil =>
      cases steps with
      | zero => cases read
      | succ steps =>
        cases read
        exact ⟨values'.reverse, second, rfl, fun keeps => List.rel_reverse (veils keeps), woven⟩
    | cons awaited outer =>
      have own := (List.forall_mem_cons.mp closing).1
      obtain ⟨steps', token, rest, rfl, pending, more, later⟩ := TokenGroup.readWithin_eq_some read
      obtain ⟨lexemes, ending, docs⟩ := first
      obtain ⟨lexemes', ending', docs'⟩ := second
      cases pending
      have whole := woven
      obtain ⟨weaves, -, -⟩ := woven
      change loom.Weaves (.token token :: rest) lexemes' at weaves
      cases weaves with
      | @same _ placed _ two bare behind =>
        have kinds : token.kind = placed.kind := congrArg BareToken.kind bare
        have spelled : token.value = placed.value := congrArg BareToken.value bare
        rw [TokenGroup.readWithin_token rfl (by rwa [← kinds]), ← kinds, ← spelled]
        exact ih (whole.advanced behind) (Nat.lt_of_succ_lt_succ enough) (TokenGroup.closers_awaitedAfter closing _)
          (fun keeps => .cons (.inl rfl) (veils keeps)) later
      | @added comment _ two adds kind behind =>
        rw [TokenGroup.readWithin_token rfl (by rw [kind]; decide), kind, TokenGroup.awaitedAfter_single (by decide) own]
        refine ih (whole.behind behind) (Nat.lt_of_succ_lt_succ enough) closing (fun keeps => absurd adds keeps) read
      | @kept _ comment _ two keeps kind block sign behind =>
        have known : token.kind ∈ TokenKind.signs := by
          rw [show token.kind = _ from congrArg BareToken.kind sign]
          exact signOf_mem _ _
        have spelled : token.value = (signOf loom.mark comment.value.toList).spelling := congrArg BareToken.value sign
        rw [TokenGroup.awaitedAfter_single (TokenGroup.isSingle_of_mem_signs known) own] at later
        rw [TokenGroup.readWithin_token rfl (by rw [kind]; decide), kind, TokenGroup.awaitedAfter_single (by decide) own]
        exact ih (whole.advanced behind) (Nat.lt_of_succ_lt_succ enough) closing
          (fun keeps => .cons (.inr ⟨block, spelled⟩) (veils keeps)) later

theorem Blocked.ne_bang {stream : TokenStream} {bang : Token} (blocked : loom.Blocked stream) (shown : stream.front? = some bang) :
    bang.kind ≠ .bang := by
  rcases blocked.front shown with sign | ⟨other, -⟩
  · intro same
    rw [same] at sign
    exact absurd sign (by decide)
  · exact other

/-- A comment that is next where a bang was taken stands directly behind it. -/
theorem tight_of_bang {stream : TokenStream} {bang comment : Token} {rest : List Lexeme} (shown : stream.skipped.front? = some bang)
    (kind : bang.kind = .bang) (behind : stream.skipped.advanced.pending = .token comment :: rest)
    (known : comment.kind = .comment) : stream.Tight comment := by
  have whole : stream.skipped.pending = .token bang :: .token comment :: rest := by
    rw [pending_of_front? shown (by rw [kind]; decide), behind]
  have tight : stream.skipped.Tight comment := ⟨known, bang, kind, [], rest, by rw [whole]; rfl⟩
  obtain ⟨comments, -, parts, -⟩ := stream.exists_dropped
  refine tight.mono ?_
  rw [parts]
  exact (List.suffix_append _ _).isInfix

open TypeExpr.Parser in
/-- A macro is read in the same way if its bracket stands directly behind its bang on the second stream too. -/
theorem Woven.macroGroup {first second left : TokenStream} {path path' : String} {bang opening : Token}
    {closer : TokenKind} {values : List String} {steps : Nat}
    (woven : loom.Woven first second.skipped.advanced.advanced) (rel : loom.texts.rel path path')
    (shown : second.skipped.front? = some bang) (kind : bang.kind = .bang)
    (front : second.skipped.advanced.front? = some opening) (closes : opening.kind.closer? = some closer)
    (group : TokenGroup.readWithin steps [closer] [opening.value] first = .ok (some values) left) :
    ∃ values' left', macroGroup path' second = .ok (.verbatim (path' ++ "!" ++ TokenGroup.join values')) left' ∧
      loom.texts.rel (path ++ "!" ++ TokenGroup.join values) (path' ++ "!" ++ TokenGroup.join values') ∧
        loom.Woven left left' := by
  have enough : second.skipped.advanced.advanced.pending.length <
      second.skipped.advanced.advanced.pending.length + 2 := by omega
  have start : List.Forall₂ (TokenGroup.Veils loom.mark) [opening.value] [opening.value] := .cons (.inl rfl) .nil
  obtain ⟨values', left', read, veils, woven'⟩ := woven.readWithin enough
    (List.forall_mem_singleton.mpr (TokenGroup.mem_closers closes).1) (fun _ => start) group
  have named : loom.texts.rel (path ++ "!") (path' ++ "!") := loom.texts.append rel fun _ => .refl _
  exact ⟨values', left', macroGroup_eq_ok_iff.mpr ⟨bang, opening, closer, values', shown, kind, front, closes, read, rfl⟩,
    loom.texts.append named fun keeps => TokenGroup.masks_join (veils keeps), woven'⟩

open TypeExpr.Parser in
theorem Carries.group {path path' : String} (rel : loom.texts.rel path path') :
    loom.Carries (TypeExpr.Fits loom.texts) (macroGroup path) (macroGroup path') := by
  constructor
  · intro stream value left _ blocked read
    obtain ⟨bang, -, -, -, shown, kind, -⟩ := macroGroup_eq_ok_iff.mp read
    exact absurd kind (blocked.skipped.ne_bang shown)
  · intro first second value left _ _ woven read
    obtain ⟨bang, opening, closer, values, shown, kind, front, closes, group, rfl⟩ := macroGroup_eq_ok_iff.mp read
    rcases woven.ahead shown with blocked | ⟨placed, shown', bare, -, advanced⟩
    · exact absurd kind (blocked.ne_bang shown)
    have kind' : placed.kind = .bang := (congrArg BareToken.kind bare).symm.trans kind
    have behind : loom.Weaves _ second.skipped.advanced.pending := advanced.pending
    rw [pending_of_front? front (TokenGroup.ne_of_closer? closes).1] at behind
    -- the bracket is taken as it stands: what the second stream has directly behind its bang decides
    generalize same : second.skipped.advanced.pending = lexemes at behind
    right
    cases behind with
    | @same _ placed' _ two bare' later =>
      have kinds : opening.kind = placed'.kind := congrArg BareToken.kind bare'
      have spelled : opening.value = placed'.value := congrArg BareToken.value bare'
      have onward : loom.Woven first.skipped.advanced.advanced second.skipped.advanced.advanced := by
        refine advanced.advanced ?_
        change loom.Weaves _ second.skipped.advanced.pending.tail
        rw [same]
        exact later
      rw [kinds] at closes
      rw [spelled] at group
      obtain ⟨values', left', whole, fits, woven⟩ := onward.macroGroup rel shown' kind' (front?_cons same) closes group
      rw [whole]
      exact ⟨⟨rfl, fits⟩, woven⟩
    | @added comment _ two adds known later =>
      rw [macroGroup_refused shown' kind' (front?_cons same) (by rw [known]; rfl)]
      exact ⟨adds, comment, woven.tight comment (tight_of_bang shown' kind' same known), rfl⟩
    | @kept _ comment _ two keeps known block sign later =>
      have mem : opening.kind ∈ TokenKind.signs := by
        rw [show opening.kind = _ from congrArg BareToken.kind sign]
        exact signOf_mem _ _
      have none : opening.kind.closer? = none := by
        revert mem
        cases opening.kind <;> decide
      rw [none] at closes
      cases closes

def transfer (loom : Loom) : Transfer where
  toTextRelation := loom.texts
  Carries := loom.Carries
  CarriesAt := loom.CarriesAt
  given fits := .given fits
  refused refuses := .refused refuses
  followed front later := front.followed later
  test read later := .test read later
  glance _ yes no := .glance yes no
  ensured read later := .ensured read fun value => later value fun _ => .refl _
  looked alike later := .looked alike later
  located carries front := carries.located front
  moved same read alike later := .taken (by rwa [same]) fun token placed bare bare' => by
    rw [(alike token bare).1, (alike placed bare').2]
    exact later fun _ => .refl _
  glimpsed same yes fits := .taken (by rw [same]; decide) fun token placed bare bare' => by
    have quiet : token.kind ≠ .bang := by
      rw [show token.kind = _ from congrArg BareToken.kind bare, same]
      decide
    exact .glanced (fun _ _ => yes.located _) (.returned (bare.trans bare'.symm) quiet (.given fits))
  named {_ _ _ _ bound more bound' more' _ _} same first second bare _ :=
    .taken (by rw [same]; decide) fun token placed known known' => by
      have quiet : token.kind ≠ .bang := by
        rw [show token.kind = _ from congrArg BareToken.kind known, same]
        decide
      have values : placed.value = token.value := congrArg BareToken.value (known'.trans known.symm)
      rw [values]
      exact .tested (by decide) (first _ fun _ => .refl _) (.tested (by decide) (second _ fun _ => .refl _)
        (.returned (known.trans known'.symm) quiet bare))
  group rel := .group rel

end Loom

end CowView
