import CowView.Proofs.Lexing

/-!
Reading tokens. `Reads` is a triple for the actions on a stream: where the stream goes on with some
tokens and then with others that are fit to follow, the action takes the former and gives a value.
Its rules go forward through an action. The lemmas about `ahead?` go backward, from the result of a
test to what the stream must have held.
-/

namespace CowView

open TokenStream

/-! ### Results of the actions -/

namespace TokenStream

theorem bind_apply {α β : Type} (action : Reading α) (next : α → Reading β) (stream : TokenStream) :
    (action >>= next) stream = match action stream with
      | .ok value left => next value left
      | .error fault left => .error fault left := by
  change EStateM.bind action next stream = _
  rw [EStateM.bind]
  cases action stream <;> rfl

def skipped (stream : TokenStream) : TokenStream :=
  { stream with
    pending := (dropComments stream.docs stream.pending).1
    docs := (dropComments stream.docs stream.pending).2 }

def advanced (stream : TokenStream) : TokenStream := { stream with pending := stream.pending.tail }

def front? (stream : TokenStream) : Option Token :=
  match stream.pending, stream.ending with
  | .token token :: _, _ => some token
  | [], .finished position => some (.endAt position)
  | _, _ => none

theorem peek_eq_ok_iff {stream left : TokenStream} {token : Token} :
    peek stream = .ok token left ↔ stream.front? = some token ∧ left = stream := by
  obtain ⟨pending, ending, docs⟩ := stream
  rcases pending with _ | ⟨token | fault, rest⟩
  · cases ending <;> simp [peek, front?, eq_comm]
  · simp [peek, front?, eq_comm]
  · simp [peek, front?]

theorem next_eq_ok_iff {stream left : TokenStream} {token : Token} :
    next stream = .ok token left ↔ stream.front? = some token ∧ left = stream.advanced := by
  obtain ⟨pending, ending, docs⟩ := stream
  rcases pending with _ | ⟨token | fault, rest⟩
  · cases ending <;> simp [next, front?, advanced, eq_comm]
  · simp [next, front?, advanced, eq_comm]
  · simp [next, front?]

theorem current_eq_ok_iff {stream left : TokenStream} {token : Token} :
    current stream = .ok token left ↔
      stream.skipped.front? = some token ∧ left = stream.skipped := by
  rw [← peek_eq_ok_iff]
  rfl

theorem nextIf_eq {stream : TokenStream} {token : Token}
    (shown : stream.skipped.front? = some token) (kind : TokenKind) (value : Option String)
    (consume : Bool) : nextIf kind value consume true stream =
      .ok (if fits kind value token then some token else none)
        (if fits kind value token && consume then stream.skipped.advanced else stream.skipped) := by
  have seen := current_eq_ok_iff.mpr ⟨shown, rfl⟩
  have taken := next_eq_ok_iff.mpr ⟨shown, rfl⟩
  unfold nextIf
  rw [if_pos rfl, bind_apply, seen]
  dsimp only
  cases fit : fits kind value token with
  | false => rfl
  | true =>
    cases consume with
    | false => rfl
    | true =>
      rw [if_pos rfl, if_pos rfl, bind_apply, taken]
      rfl

theorem nextIf_eq_ok {kind : TokenKind} {value : Option String} {consume : Bool}
    {stream left : TokenStream} {found : Option Token}
    (read : nextIf kind value consume true stream = .ok found left) :
    ∃ token, stream.skipped.front? = some token ∧
      found = (if fits kind value token then some token else none) ∧
      left = if fits kind value token && consume then stream.skipped.advanced
        else stream.skipped := by
  cases shown : stream.skipped.front? with
  | some token =>
    rw [nextIf_eq shown] at read
    cases read
    exact ⟨token, rfl, rfl, rfl⟩
  | none =>
    unfold nextIf at read
    rw [if_pos rfl, bind_apply] at read
    split at read
    next token between seen =>
      rw [(current_eq_ok_iff.mp seen).1] at shown
      cases shown
    · cases read

theorem nextIs_eq_ok_iff {kind : TokenKind} {value : Option String} {stream left : TokenStream}
    {found : Bool} : nextIs kind value stream = .ok found left ↔
      ∃ token, stream.skipped.front? = some token ∧ found = fits kind value token ∧
        left = if found then stream.skipped.advanced else stream.skipped := by
  unfold nextIs
  rw [bind_apply]
  constructor
  · intro read
    split at read
    next seen between first =>
      obtain ⟨token, shown, rfl, rfl⟩ := nextIf_eq_ok first
      refine ⟨token, shown, ?_⟩
      cases read
      cases fits kind value token <;> simp
    · cases read
  · rintro ⟨token, shown, rfl, rfl⟩
    rw [nextIf_eq shown]
    cases fits kind value token <;> rfl

theorem peekedIs_eq_ok_iff {kind : TokenKind} {value : Option String} {stream left : TokenStream}
    {found : Bool} : peekedIs kind value stream = .ok found left ↔
      ∃ token, stream.skipped.front? = some token ∧ found = fits kind value token ∧
        left = stream.skipped := by
  unfold peekedIs
  rw [bind_apply]
  constructor
  · intro read
    split at read
    next seen between first =>
      obtain ⟨token, shown, rfl, rfl⟩ := nextIf_eq_ok first
      refine ⟨token, shown, ?_⟩
      cases read
      cases fits kind value token <;> simp
    · cases read
  · rintro ⟨token, shown, rfl, rfl⟩
    rw [nextIf_eq shown]
    cases fits kind value token <;> rfl

/-- Tokens that are put back stand in the order in which they were taken. -/
theorem forM_unget (seen : List Token) (stream : TokenStream) : seen.forM unget stream =
    .ok () { stream with pending := seen.reverse.map .token ++ stream.pending } := by
  induction seen generalizing stream with
  | nil => rfl
  | cons token rest ih =>
    calc (token :: rest).forM unget stream
      _ = (unget token >>= fun _ => rest.forM unget) stream := rfl
      _ = rest.forM unget { stream with pending := .token token :: stream.pending } := bind_apply _ _ _
      _ = _ := by
        rw [ih]
        simp

theorem skipped_skipped (stream : TokenStream) : stream.skipped.skipped = stream.skipped := by
  have again : ∀ (lexemes : List Lexeme) (docs : String),
      dropComments (dropComments docs lexemes).2 (dropComments docs lexemes).1 =
        dropComments docs lexemes := by
    intro lexemes
    induction lexemes with
    | nil => intro docs; rfl
    | cons lexeme rest ih =>
      intro docs
      cases lexeme with
      | fault fault => rfl
      | token token =>
        cases comment : token.isComment with
        | true =>
          simp only [dropComments, comment, if_true]
          exact ih _
        | false => simp [dropComments, comment]
  simp only [skipped, again]

theorem ensure_eq_ok_iff {kind : TokenKind} {value : Option String} {stream left : TokenStream}
    {found : String} : ensure kind value false stream = .ok found left ↔
      ∃ token, stream.skipped.front? = some token ∧ fits kind value token = true ∧
        found = token.value ∧ left = stream.skipped.advanced := by
  unfold ensure
  rw [bind_apply]
  constructor
  · intro read
    split at read
    next seen between first =>
      obtain ⟨token, shown, rfl, rfl⟩ := peekedIs_eq_ok_iff.mp first
      cases fit : fits kind value token with
      | true =>
        rw [fit] at read
        change (next >>= fun token => pure token.value) _ = _ at read
        rw [bind_apply, next_eq_ok_iff.mpr ⟨shown, rfl⟩] at read
        cases read
        exact ⟨token, shown, fit, rfl, rfl⟩
      | false =>
        rw [fit] at read
        change (peek >>= fun token => _) _ = _ at read
        rw [bind_apply, peek_eq_ok_iff.mpr ⟨shown, rfl⟩] at read
        cases read
    · cases read
  · rintro ⟨token, shown, fit, rfl, rfl⟩
    rw [peekedIs_eq_ok_iff.mpr ⟨token, shown, rfl, rfl⟩, fit]
    change (next >>= fun token => pure token.value) _ = _
    rw [bind_apply, next_eq_ok_iff.mpr ⟨shown, rfl⟩]
    rfl

end TokenStream

/-! ### Going forward -/

namespace BareToken

def fits (kind : TokenKind) (value : Option String) (token : BareToken) : Bool :=
  token.kind = kind && value.all (· = token.value)

def ahead (tokens : List BareToken) : BareToken := tokens.headD .last

@[simp] theorem ahead_cons (token : BareToken) (rest : List BareToken) :
    ahead (token :: rest) = token := rfl

@[simp] theorem ahead_nil : ahead [] = .last := rfl

theorem ahead_append {front : List BareToken} (shown : front ≠ []) (rest : List BareToken) :
    ahead (front ++ rest) = ahead front := by
  cases front with
  | nil => exact absurd rfl shown
  | cons token front => rfl

end BareToken

def TokenStream.delivering (tokens : List Token) (after : Position) (docs : String) : TokenStream :=
  ⟨tokens.map .token, .finished after, docs⟩

/-- The action takes the words off every stream that goes on with them, if what follows them fits,
and gives the value. No comment is in sight. -/
def Reads {α : Type} (action : Reading α) (words : List BareToken) (value : α)
    (follow : List BareToken → Prop) : Prop :=
  ∀ (tokens rest : List Token) (after : Position) (docs : String), tokens.map Token.bare = words →
    (∀ token ∈ tokens ++ rest, token.kind ≠ .comment) → follow (rest.map Token.bare) →
    action (delivering (tokens ++ rest) after docs) = .ok value (delivering rest after docs)


namespace Reads

variable {α β : Type} {tokens rest : List Token} {after : Position} {docs : String}
  {words : List BareToken} {value : β} {follow : List BareToken → Prop} {kind : TokenKind}
  {wanted : Option String}

theorem skipped_delivering (solid : ∀ token ∈ tokens, token.kind ≠ .comment) :
    (delivering tokens after docs).skipped = delivering tokens after docs := by
  cases tokens with
  | nil => rfl
  | cons token rest =>
    have plain : token.isComment = false := by simpa [Token.isComment] using solid token (by simp)
    simp [skipped, delivering, dropComments, plain]

theorem next_delivering (token : Token) (rest : List Token) (after : Position) (docs : String) :
    TokenStream.next (delivering (token :: rest) after docs) =
      .ok token (delivering rest after docs) := rfl

theorem front?_delivering (after : Position) (docs : String)
    (solid : ∀ token ∈ tokens, token.kind ≠ .comment) :
    ∃ token, (delivering tokens after docs).skipped.front? = some token ∧
      token.bare = BareToken.ahead (tokens.map Token.bare) := by
  rw [skipped_delivering solid]
  cases tokens with
  | nil => exact ⟨.endAt after, rfl, rfl⟩
  | cons token rest => exact ⟨token, rfl, rfl⟩

theorem pure (value : β) : Reads (pure value) [] value follow := by
  intro tokens rest after docs same solid fit
  rw [List.map_eq_nil_iff.mp same]
  rfl

theorem bind {action : Reading α} {next : α → Reading β} {first : List BareToken} {found : α}
    {between : List BareToken → Prop} (one : Reads action first found between)
    (two : Reads (next found) words value follow)
    (fit : ∀ rest, follow rest → between (words ++ rest)) :
    Reads (action >>= next) (first ++ words) value follow := by
  intro tokens rest after docs same solid fitting
  obtain ⟨front, back, rfl, rfl, rfl⟩ := List.map_eq_append_iff.mp same
  rw [List.append_assoc] at solid
  have read := one front (back ++ rest) after docs rfl solid
    (by rw [List.map_append]; exact fit _ fitting)
  rw [bind_apply, List.append_assoc, read]
  exact two back rest after docs rfl (fun token member => solid token (by simp_all)) fitting

/-- The second part of the action takes nothing. -/
theorem before {action : Reading α} {next : α → Reading β} {found : α}
    {between : List BareToken → Prop} (one : Reads action words found between)
    (two : Reads (next found) [] value follow) (fit : ∀ rest, follow rest → between rest) :
    Reads (action >>= next) words value follow := by
  have whole : Reads (action >>= next) (words ++ []) value follow := one.bind two fit
  rwa [List.append_nil] at whole

/-- The second part of the action only changes the form of what was read. -/
theorem last {action : Reading α} {next : α → β} {found : α}
    {between : List BareToken → Prop} (one : Reads action words found between)
    (fit : ∀ rest, follow rest → between rest) :
    Reads (action >>= fun found => Pure.pure (next found)) words (next found) follow :=
  one.before (pure (next found)) fit

theorem map {action : Reading α} {found : α} (change : α → β)
    (one : Reads action words found follow) : Reads (change <$> action) words (change found) follow := by
  intro tokens rest after docs same solid fitting
  have read := one tokens rest after docs same solid fitting
  change EStateM.map change action _ = _
  rw [EStateM.map, read]

theorem taken {next : Bool → Reading β} {token : BareToken} (fit : token.fits kind wanted = true)
    (later : Reads (next true) words value follow) :
    Reads (nextIs kind wanted >>= next) (token :: words) value follow := by
  intro tokens rest after docs same solid fitting
  obtain ⟨first, back, rfl, rfl, rfl⟩ := List.map_eq_cons_iff.mp same
  have read : nextIs kind wanted (delivering (first :: back ++ rest) after docs) =
      .ok true (delivering (back ++ rest) after docs) := by
    refine nextIs_eq_ok_iff.mpr ⟨first, ?_, fit.symm, ?_⟩
    all_goals rw [skipped_delivering solid]; rfl
  rw [bind_apply, read]
  exact later back rest after docs rfl (fun token member => solid token (by simp_all)) fitting

theorem passed {next : Bool → Reading β}
    (other : ∀ rest, follow rest → (BareToken.ahead (words ++ rest)).fits kind wanted = false)
    (later : Reads (next false) words value follow) :
    Reads (nextIs kind wanted >>= next) words value follow := by
  intro tokens rest after docs same solid fitting
  obtain ⟨first, shown, bare⟩ := front?_delivering after docs solid
  have missed := other _ fitting
  rw [← same, ← List.map_append, ← bare] at missed
  have read : nextIs kind wanted (delivering (tokens ++ rest) after docs) =
      .ok false (delivering (tokens ++ rest) after docs) := by
    refine nextIs_eq_ok_iff.mpr ⟨first, shown, missed.symm, ?_⟩
    rw [skipped_delivering solid]
    rfl
  rw [bind_apply, read]
  exact later tokens rest after docs same solid fitting

theorem seen (found : Bool) {next : Bool → Reading β}
    (fit : ∀ rest, follow rest → (BareToken.ahead (words ++ rest)).fits kind wanted = found)
    (later : Reads (next found) words value follow) :
    Reads (peekedIs kind wanted >>= next) words value follow := by
  intro tokens rest after docs same solid fitting
  obtain ⟨first, shown, bare⟩ := front?_delivering after docs solid
  have tested := fit _ fitting
  rw [← same, ← List.map_append, ← bare] at tested
  have read : peekedIs kind wanted (delivering (tokens ++ rest) after docs) =
      .ok found (delivering (tokens ++ rest) after docs) := by
    exact peekedIs_eq_ok_iff.mpr ⟨first, shown, tested.symm, (skipped_delivering solid).symm⟩
  rw [bind_apply, read]
  exact later tokens rest after docs same solid fitting

theorem ensured {next : String → Reading β} {token : BareToken}
    (fit : token.fits kind wanted = true) (later : Reads (next token.value) words value follow) :
    Reads (ensure kind wanted >>= next) (token :: words) value follow := by
  intro tokens rest after docs same solid fitting
  obtain ⟨first, back, rfl, rfl, rfl⟩ := List.map_eq_cons_iff.mp same
  have read : ensure kind wanted false (delivering (first :: back ++ rest) after docs) =
      .ok first.value (delivering (back ++ rest) after docs) := by
    refine ensure_eq_ok_iff.mpr ⟨first, ?_, fit, rfl, ?_⟩
    all_goals rw [skipped_delivering solid]; rfl
  rw [bind_apply, read]
  exact later back rest after docs rfl (fun token member => solid token (by simp_all)) fitting

theorem looked {next : Token → Reading β} {token : BareToken}
    (later : ∀ placed : Token, placed.bare = token →
      Reads (next placed) (token :: words) value follow) :
    Reads (current >>= next) (token :: words) value follow := by
  intro tokens rest after docs same solid fitting
  obtain ⟨first, back, rfl, bare, mapped⟩ := List.map_eq_cons_iff.mp same
  have read : current (delivering (first :: back ++ rest) after docs) =
      .ok first (delivering (first :: back ++ rest) after docs) := by
    refine current_eq_ok_iff.mpr ⟨?_, (skipped_delivering solid).symm⟩
    rw [skipped_delivering solid]
    rfl
  rw [bind_apply, read]
  exact later first bare _ rest after docs same solid fitting

theorem moved {next : Token → Reading β} {token : BareToken}
    (later : ∀ placed : Token, placed.bare = token → Reads (next placed) words value follow) :
    Reads (TokenStream.next >>= next) (token :: words) value follow := by
  intro tokens rest after docs same solid fitting
  obtain ⟨first, back, rfl, bare, mapped⟩ := List.map_eq_cons_iff.mp same
  change next first (delivering (back ++ rest) after docs) = _
  exact later first bare back rest after docs mapped
    (fun token member => solid token (by simp_all)) fitting

theorem returned {next : Unit → Reading β} (token : Token)
    (later : Reads (next ()) (token.bare :: words) value follow) (plain : token.kind ≠ .comment) :
    Reads (unget token >>= next) words value follow := by
  intro tokens rest after docs same solid fitting
  change next () (delivering (token :: tokens ++ rest) after docs) = _
  refine later (token :: tokens) rest after docs (by rw [List.map_cons, same]) ?_ fitting
  intro other member
  rcases List.mem_cons.mp member with rfl | member
  · exact plain
  · exact solid other member

theorem byCases {action : Reading β} (test : List BareToken → Prop)
    (yes : Reads action words value fun rest => follow rest ∧ test rest)
    (no : Reads action words value fun rest => follow rest ∧ ¬ test rest) :
    Reads action words value follow := by
  intro tokens rest after docs same solid fitting
  by_cases tested : test (rest.map Token.bare)
  · exact yes tokens rest after docs same solid ⟨fitting, tested⟩
  · exact no tokens rest after docs same solid ⟨fitting, tested⟩

/-- A token is taken to look at the one after it, and is put back. -/
theorem glimpsed {yes : Token → Reading β}
    (fit : ∀ rest, follow rest → rest ≠ [] ∧ (BareToken.ahead rest.tail).fits kind wanted = false) :
    Reads (do
      let token ← next
      if ← peekedIs kind wanted then yes token else do
        unget token
        Pure.pure value) [] value follow := by
  intro tokens rest after docs same solid fitting
  obtain ⟨shown, other⟩ := fit _ fitting
  cases List.map_eq_nil_iff.mp same
  cases rest with
  | nil => exact absurd rfl shown
  | cons first rest =>
    have solidRest : ∀ token ∈ rest, token.kind ≠ .comment :=
      fun token member => solid token (List.mem_cons_of_mem _ member)
    obtain ⟨second, front, bare⟩ := front?_delivering after docs solidRest
    rw [List.map_cons, List.tail_cons, ← bare] at other
    have read : peekedIs kind wanted (delivering rest after docs) =
        .ok false (delivering rest after docs) :=
      peekedIs_eq_ok_iff.mpr ⟨second, front, other.symm, (skipped_delivering solidRest).symm⟩
    rw [List.nil_append, bind_apply, next_delivering]
    dsimp only
    rw [bind_apply, read]
    rfl

/-- The same triple under a stronger demand on what follows. -/
theorem strengthen {action : Reading β} {between : List BareToken → Prop}
    (one : Reads action words value between) (fit : ∀ rest, follow rest → between rest) :
    Reads action words value follow :=
  fun tokens rest after docs same solid fitting =>
    one tokens rest after docs same solid (fit _ fitting)

end Reads

/-! ### Going backward -/

namespace TokenStream

/-- Every token of the stream is one that the lexer can deliver, or the end of the input that was put back. -/
def Lexed (stream : TokenStream) : Prop :=
  ∀ token, Lexeme.token token ∈ stream.pending → token.bare.Lexed ∨ token.bare = .last

def ahead? (stream : TokenStream) : Option BareToken := stream.skipped.front?.map Token.bare

variable {stream left between : TokenStream} {kind : TokenKind} {wanted : Option String}
  {token : BareToken}

theorem lexed_of_mem_ofText {text : String} {token : Token}
    (member : Lexeme.token token ∈ (TokenStream.ofText text).pending) : token.bare.Lexed := by
  have pending : (TokenStream.ofText text).pending = (Lexeme.ofText text).1 := rfl
  rw [pending] at member
  exact Lexeme.lexed_of_mem_readWithin _ _ token member

theorem lexed_ofText (text : String) : (TokenStream.ofText text).Lexed :=
  fun _ member => .inl (lexed_of_mem_ofText member)

theorem Lexed.advanced (lexed : stream.Lexed) : stream.advanced.Lexed :=
  fun token member => lexed token (List.mem_of_mem_tail member)

/-- Nothing but comments is dropped, and nothing is added. -/
theorem dropComments_sublist (lexemes : List Lexeme) (docs : String) :
    (dropComments docs lexemes).1.Sublist lexemes := by
  induction lexemes generalizing docs with
  | nil => exact List.Sublist.refl _
  | cons lexeme rest ih =>
    cases lexeme with
    | fault fault => exact List.Sublist.refl _
    | token token =>
      unfold dropComments
      split
      · exact (ih _).cons _
      · exact List.Sublist.refl _

theorem dropComments_subset (lexemes : List Lexeme) (docs : String) :
    (dropComments docs lexemes).1 ⊆ lexemes :=
  (dropComments_sublist lexemes docs).subset

theorem Lexed.skipped (lexed : stream.Lexed) : stream.skipped.Lexed :=
  fun token member => lexed token (dropComments_subset _ _ member)

theorem Lexed.front? {token : Token} (lexed : stream.Lexed) (shown : stream.front? = some token) :
    token.bare.Lexed ∨ token.bare = .last := by
  unfold TokenStream.front? at shown
  split at shown
  next first rest pending =>
    cases shown
    exact lexed token (by rw [pending]; exact List.mem_cons_self)
  · cases shown
    exact .inr rfl
  · cases shown

theorem Lexed.ahead? (lexed : stream.Lexed) (shown : stream.ahead? = some token) :
    token.Lexed ∨ token = .last := by
  obtain ⟨placed, front, rfl⟩ := Option.map_eq_some_iff.mp shown
  exact lexed.skipped.front? front

@[simp] theorem ahead?_skipped (stream : TokenStream) : stream.skipped.ahead? = stream.ahead? := by
  rw [TokenStream.ahead?, skipped_skipped]
  rfl

theorem ahead?_eq_of_front? {token : Token} (shown : stream.skipped.front? = some token) :
    stream.ahead? = some token.bare := by
  rw [TokenStream.ahead?, shown]
  rfl

theorem bind_eq_ok {α β : Type} {action : Reading α} {next : α → Reading β} {value : β}
    (read : (action >>= next) stream = .ok value left) :
    ∃ found between, action stream = .ok found between ∧ next found between = .ok value left := by
  rw [bind_apply] at read
  split at read
  next found between first => exact ⟨found, between, first, read⟩
  · cases read

theorem nextIs_true (lexed : stream.Lexed) (read : nextIs kind wanted stream = .ok true left) :
    left.Lexed ∧ ∃ token, stream.ahead? = some token ∧ token.fits kind wanted = true := by
  obtain ⟨token, shown, fit, rfl⟩ := nextIs_eq_ok_iff.mp read
  exact ⟨lexed.skipped.advanced, token.bare, ahead?_eq_of_front? shown, fit.symm⟩

theorem nextIs_false (lexed : stream.Lexed) (read : nextIs kind wanted stream = .ok false left) :
    left.Lexed ∧ left.ahead? = stream.ahead? ∧
      ∃ token, stream.ahead? = some token ∧ token.fits kind wanted = false := by
  obtain ⟨token, shown, fit, rfl⟩ := nextIs_eq_ok_iff.mp read
  exact ⟨lexed.skipped, ahead?_skipped stream, token.bare, ahead?_eq_of_front? shown, fit.symm⟩

theorem peekedIs_ok {found : Bool} (lexed : stream.Lexed)
    (read : peekedIs kind wanted stream = .ok found left) :
    left.Lexed ∧ left.ahead? = stream.ahead? ∧
      ∃ token, stream.ahead? = some token ∧ token.fits kind wanted = found := by
  obtain ⟨token, shown, fit, rfl⟩ := peekedIs_eq_ok_iff.mp read
  exact ⟨lexed.skipped, ahead?_skipped stream, token.bare, ahead?_eq_of_front? shown, fit.symm⟩

theorem ensure_ok {found : String} (lexed : stream.Lexed)
    (read : ensure kind wanted false stream = .ok found left) :
    left.Lexed ∧ ∃ token, stream.ahead? = some token ∧ token.fits kind wanted = true ∧
      found = token.value := by
  obtain ⟨token, shown, fit, rfl, rfl⟩ := ensure_eq_ok_iff.mp read
  exact ⟨lexed.skipped.advanced, token.bare, ahead?_eq_of_front? shown, fit, rfl⟩

theorem current_ok {token : Token} (lexed : stream.Lexed)
    (read : current stream = .ok token left) :
    left.Lexed ∧ left.ahead? = stream.ahead? ∧ stream.ahead? = some token.bare ∧
      left.front? = some token := by
  obtain ⟨shown, rfl⟩ := current_eq_ok_iff.mp read
  exact ⟨lexed.skipped, ahead?_skipped stream, ahead?_eq_of_front? shown, shown⟩

theorem next_ok {token : Token} (lexed : stream.Lexed) (read : next stream = .ok token left) :
    left.Lexed ∧ stream.front? = some token := by
  obtain ⟨shown, rfl⟩ := next_eq_ok_iff.mp read
  exact ⟨lexed.advanced, shown⟩

theorem unget_ok {token : Token} {value : Unit} (lexed : stream.Lexed) (own : token.bare.Lexed)
    (plain : token.kind ≠ .comment) (read : unget token stream = .ok value left) :
    left.Lexed ∧ left.ahead? = some token.bare := by
  cases read
  constructor
  · intro other member
    rcases List.mem_cons.mp member with same | member
    · cases same
      exact .inl own
    · exact lexed other member
  · have noComment : token.isComment = false := by simpa [Token.isComment] using plain
    simp [TokenStream.ahead?, TokenStream.skipped, dropComments, noComment, TokenStream.front?]

end TokenStream

end CowView
