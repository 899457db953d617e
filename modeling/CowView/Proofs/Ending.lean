import CowView.Declaration.Annotation
import CowView.Proofs.Grammar

/-!
How the actions on a stream end. `Ends` is a triple with a bound on what the stream may still deliver: a
result leaves no more behind, and less if the action has to take something; a fault is one that says what
is wrong with the text. The token of the end can be taken again and again and may have been put back, so
it does not count; nor do comments, which are passed over. Each call of the type parser goes at least
eight steps deeper for a token less (`TypeExpr.Parser.ending`), so the steps that are given to it are
never used up.
-/

namespace CowView

open TokenStream

def Fault.Refuses : Fault → Prop
  | source .. | naming _ | generation _ (.misannotated ..) | generation _ (.unknownStrategy _) => True
  | _ => False

theorem Fault.refuses_of_isSource {fault : Fault} (source : fault.isSource) : fault.Refuses := by
  cases fault with
  | source => trivial
  | naming | generation | notFound | assertion | outOfSteps => cases source

def TokenKind.IsSolid (kind : TokenKind) : Prop := kind ≠ .endOfInput ∧ kind ≠ .comment

instance (kind : TokenKind) : Decidable kind.IsSolid := inferInstanceAs (Decidable (_ ∧ _))

def Lexeme.counts : Lexeme → Bool
  | .token found => found.kind.IsSolid
  | .fault _ => true

def Token.Marked (token : Token) : Prop :=
  token.kind = .lifetime → ∃ duration, Lifetime.ofMarked? token.value = some duration

theorem BareToken.Lexed.marked {token : Token} (lexed : token.bare.Lexed) : token.Marked := by
  intro kind
  rcases lexed with word | ⟨isSymbol, -⟩ | ⟨comment, -⟩
  · obtain ⟨duration, marked, -⟩ := word.ofMarked? kind
    exact ⟨duration, marked⟩
  · rw [show token.bare.kind = .lifetime from kind] at isSymbol
    exact absurd isSymbol (by decide)
  · cases kind.symm.trans comment

namespace TokenStream

/-- How many lexemes stand before the end of the input, comments aside. -/
def extent (stream : TokenStream) : Nat := stream.pending.countP Lexeme.counts

structure Sane (stream : TokenStream) : Prop where
  fault : ∀ fault, .fault fault ∈ stream.pending → fault.isSource
  stuck : ∀ fault, stream.ending = .stuck fault → fault.isSource
  marked : ∀ token, .token token ∈ stream.pending → token.Marked

variable {stream : TokenStream} {token : Token}

theorem extent_le_length (stream : TokenStream) : stream.extent ≤ stream.pending.length :=
  List.countP_le_length

theorem countP_dropComments (lexemes : List Lexeme) (docs : String) :
    (dropComments docs lexemes).1.countP Lexeme.counts = lexemes.countP Lexeme.counts := by
  induction lexemes generalizing docs with
  | nil => rfl
  | cons lexeme rest ih =>
    cases lexeme with
    | fault fault => rfl
    | token token =>
      unfold dropComments
      split
      next comment =>
        have kind : token.kind = .comment := by simpa [Token.isComment] using comment
        rw [ih, List.countP_cons_of_neg]
        simp [Lexeme.counts, TokenKind.IsSolid, kind]
      · rfl

@[simp] theorem extent_skipped (stream : TokenStream) : stream.skipped.extent = stream.extent :=
  countP_dropComments _ _

theorem extent_advanced_le (stream : TokenStream) : stream.advanced.extent ≤ stream.extent :=
  (List.tail_sublist _).countP_le

theorem extent_advanced (shown : stream.front? = some token) (more : token.kind.IsSolid) :
    stream.advanced.extent + 1 = stream.extent := by
  obtain ⟨pending, ending, docs⟩ := stream
  unfold front? at shown
  split at shown
  next first rest same =>
    cases shown
    cases same
    simp [extent, advanced, Lexeme.counts, more]
  · cases shown
    exact absurd rfl more.1
  · cases shown

theorem length_advanced (shown : stream.front? = some token) (more : token.kind ≠ .endOfInput) :
    stream.advanced.pending.length + 1 = stream.pending.length := by
  obtain ⟨pending, ending, docs⟩ := stream
  unfold front? at shown
  split at shown
  next first rest same =>
    cases same
    rfl
  · cases shown
    exact absurd rfl more
  · cases shown

theorem extent_unget (stream : TokenStream) (token : Token) (more : token.kind.IsSolid) :
    extent { stream with pending := .token token :: stream.pending } = stream.extent + 1 := by
  simp [extent, Lexeme.counts, more]

namespace Sane

theorem advanced (sane : stream.Sane) : stream.advanced.Sane where
  fault fault member := sane.fault fault (List.mem_of_mem_tail member)
  stuck := sane.stuck
  marked token member := sane.marked token (List.mem_of_mem_tail member)

theorem skipped (sane : stream.Sane) : stream.skipped.Sane where
  fault fault member := sane.fault fault (dropComments_subset _ _ member)
  stuck := sane.stuck
  marked token member := sane.marked token (dropComments_subset _ _ member)

theorem unget (sane : stream.Sane) (marked : token.Marked) :
    Sane { stream with pending := .token token :: stream.pending } where
  fault fault member := by
    rcases List.mem_cons.mp member with same | member
    · cases same
    · exact sane.fault fault member
  stuck := sane.stuck
  marked other member := by
    rcases List.mem_cons.mp member with same | member
    · cases same
      exact marked
    · exact sane.marked other member

theorem front? (sane : stream.Sane) (shown : stream.front? = some token) : token.Marked := by
  unfold TokenStream.front? at shown
  split at shown
  next first rest pending =>
    cases shown
    exact sane.marked token (by rw [pending]; exact List.mem_cons_self)
  · cases shown
    exact fun lifetime => by cases lifetime
  · cases shown

/-- A fault in the place of the next token is one of the text. -/
theorem peek_fault {fault : Fault} {left : TokenStream} (sane : stream.Sane)
    (read : TokenStream.peek stream = .error fault left) : fault.isSource := by
  obtain ⟨pending, ending, docs⟩ := stream
  rcases pending with _ | ⟨token | known, rest⟩
  · cases ending with
    | finished position => cases read
    | stuck known =>
      cases read
      exact sane.stuck fault rfl
  · cases read
  · cases read
    exact sane.fault fault (by simp)

theorem peek (sane : stream.Sane) : (∃ token, stream.front? = some token) ∨
    ∃ fault left, TokenStream.peek stream = .error fault left ∧
      TokenStream.next stream = .error fault left ∧ fault.Refuses ∧ left.Sane := by
  obtain ⟨pending, ending, docs⟩ := stream
  rcases pending with _ | ⟨token | fault, rest⟩
  · cases ending with
    | finished position => exact .inl ⟨_, rfl⟩
    | stuck fault =>
      exact .inr ⟨_, _, rfl, rfl, Fault.refuses_of_isSource (sane.stuck fault rfl), sane⟩
  · exact .inl ⟨_, rfl⟩
  · refine .inr ⟨_, _, rfl, rfl, Fault.refuses_of_isSource (sane.fault fault (by simp)), ?_⟩
    exact sane.advanced

end Sane

end TokenStream

section

variable {α β : Type} {takes : Bool} {room : Nat} {kind : TokenKind} {wanted : Option String}

/-- A result that leaves no more than so many lexemes, or even less if something had to be taken, or a
fault that refuses the text. -/
def Ended (takes : Bool) (room : Nat) : EStateM.Result Fault TokenStream α → Prop
  | .ok _ left => left.Sane ∧ left.extent + takes.toNat ≤ room
  | .error fault left => fault.Refuses ∧ left.Sane

def EndsOn (takes : Bool) (room : Nat) (action : Reading α) (stream : TokenStream) : Prop :=
  stream.Sane → stream.extent ≤ room → Ended takes room (action stream)

def Ends (takes : Bool) (room : Nat) (action : Reading α) : Prop :=
  ∀ stream, EndsOn takes room action stream

def EndsAt (token : Token) (takes : Bool) (room : Nat) (action : Reading α) : Prop :=
  ∀ stream, stream.front? = some token → EndsOn takes room action stream

/-! ### Rules -/

theorem Ended.mono {less more : Nat} {first : Bool} {result : EStateM.Result Fault TokenStream α}
    (ended : Ended first less result) (below : less + takes.toNat ≤ more + first.toNat) :
    Ended takes more result := by
  cases result with
  | ok value left =>
    have bound : left.extent + first.toNat ≤ less := ended.2
    exact ⟨ended.1, by omega⟩
  | error fault left => exact ended

theorem EndsOn.bind {first : Bool} {action : Reading α} {next : α → Reading β} {stream : TokenStream}
    (one : EndsOn first room action stream)
    (two : ∀ found left, action stream = .ok found left → left.extent + first.toNat ≤ room →
      EndsOn takes room (next found) left) :
    EndsOn takes room (action >>= next) stream := by
  intro sane small
  have ended := one sane small
  rw [bind_apply]
  cases run : action stream with
  | ok found left =>
    rw [run] at ended
    have less : left.extent + first.toNat ≤ room := ended.2
    exact two found left run less ended.1 (by omega)
  | error fault left =>
    rw [run] at ended
    exact ended

namespace Ends

variable {action : Reading α} {next : α → Reading β}

theorem pure (value : α) : Ends false room (pure value) :=
  fun _ sane small => ⟨sane, small⟩

theorem throw {fault : Fault} (refuses : fault.Refuses) : Ends takes room (throw fault : Reading α) :=
  fun _ sane _ => ⟨refuses, sane⟩

/-- What takes something leaves room for what follows. -/
theorem taking (first : Ends true room action)
    (later : ∀ found less, less < room → Ends false less (next found)) :
    Ends takes room (action >>= next) := by
  intro stream
  refine (first stream).bind fun found left _ less sane _ => ?_
  have one : true.toNat = 1 := rfl
  have most : takes.toNat ≤ 1 := Bool.toNat_le takes
  exact (later found (room - 1) (by omega) left sane (by omega)).mono (by omega)

theorem bind (first : Ends false room action) (later : ∀ found, Ends takes room (next found)) :
    Ends takes room (action >>= next) :=
  fun stream => (first stream).bind fun found left _ _ => later found left

theorem map {change : α → β} (first : Ends takes room action) : Ends takes room (change <$> action) := by
  intro stream sane small
  have ended := first stream sane small
  change Ended takes room (EStateM.map change action stream)
  unfold EStateM.map
  cases run : action stream with
  | ok value left => rwa [run] at ended
  | error fault left => rwa [run] at ended

theorem ite {condition : Prop} [Decidable condition] {yes no : Reading α}
    (first : condition → Ends takes room yes) (second : ¬ condition → Ends takes room no) :
    Ends takes room (if condition then yes else no) := by
  split
  next holds => exact first holds
  next fails => exact second fails

/-- A step that only looks at the stream, whose extent bounds what follows. -/
theorem get {next : TokenStream → Reading β}
    (later : ∀ stream, EndsOn takes stream.extent (next stream) stream) : Ends takes room (get >>= next) :=
  fun stream sane small => (later stream sane (Nat.le_refl _)).mono (by omega)

theorem located (ends : Ends takes room action) (token : Token) : EndsAt token takes room action :=
  fun stream _ => ends stream

theorem loose (ends : Ends takes room action) : Ends false room action :=
  fun stream sane small => (ends stream sane small).mono (by simp)

end Ends

/-! ### Tests and tokens -/

theorem ends_next : Ends false room TokenStream.next := by
  intro stream sane small
  rcases sane.peek with ⟨token, shown⟩ | ⟨fault, left, -, read, refuses, behind⟩
  · rw [next_eq_ok_iff.mpr ⟨shown, rfl⟩]
    exact ⟨sane.advanced, Nat.le_trans stream.extent_advanced_le small⟩
  · rw [read]
    exact ⟨refuses, behind⟩

theorem ends_peek : Ends false room TokenStream.peek := by
  intro stream sane small
  rcases sane.peek with ⟨token, shown⟩ | ⟨fault, left, read, -, refuses, behind⟩
  · rw [peek_eq_ok_iff.mpr ⟨shown, rfl⟩]
    exact ⟨sane, small⟩
  · rw [read]
    exact ⟨refuses, behind⟩

theorem EndsAt.moved {token : Token} {next : Token → Reading β} (more : token.kind.IsSolid)
    (later : ∀ less, room = less + 1 → Ends false less (next token)) :
    EndsAt token takes room (TokenStream.next >>= next) := by
  intro stream shown sane small
  rw [bind_apply, next_eq_ok_iff.mpr ⟨shown, rfl⟩]
  have spent := extent_advanced shown more
  have most : takes.toNat ≤ 1 := Bool.toNat_le takes
  obtain ⟨less, rfl⟩ : ∃ less, room = less + 1 := ⟨room - 1, by omega⟩
  exact (later less rfl _ sane.advanced (by omega)).mono (by simp; omega)

namespace TokenStream

variable {stream left : TokenStream} {fault : Fault}

theorem nextIf_error (read : current stream = .error fault left) (consume : Bool) :
    nextIf kind wanted consume true stream = .error fault left := by
  unfold nextIf
  rw [if_pos rfl, bind_apply, read]

theorem nextIs_error (read : current stream = .error fault left) :
    nextIs kind wanted stream = .error fault left := by
  unfold nextIs
  rw [bind_apply, nextIf_error read]

theorem peekedIs_error (read : current stream = .error fault left) :
    peekedIs kind wanted stream = .error fault left := by
  unfold peekedIs
  rw [bind_apply, nextIf_error read]

/-- A look at the stream shows a token, or a fault that refuses the text. -/
theorem Sane.current (sane : stream.Sane) : (∃ token, stream.skipped.front? = some token) ∨
    ∃ fault left, TokenStream.current stream = .error fault left ∧ fault.Refuses ∧ left.Sane := by
  rcases sane.skipped.peek with shown | ⟨fault, left, read, -, refuses, behind⟩
  · exact .inl shown
  · exact .inr ⟨fault, left, read, refuses, behind⟩

theorem kind_of_fits {token : Token} (fit : fits kind wanted token = true) : token.kind = kind := by
  simp only [fits, Bool.and_eq_true, decide_eq_true_eq] at fit
  exact fit.1

end TokenStream

theorem Ends.looked {next : Token → Reading β}
    (later : ∀ token, token.Marked → EndsAt token takes room (next token)) :
    Ends takes room (current >>= next) := by
  intro stream sane small
  rw [bind_apply]
  rcases sane.current with ⟨token, shown⟩ | ⟨fault, left, read, refuses, behind⟩
  · rw [current_eq_ok_iff.mpr ⟨shown, rfl⟩]
    exact later token (sane.skipped.front? shown) _ shown sane.skipped (Nat.le_trans (Nat.le_of_eq stream.extent_skipped) small)
  · rw [read]
    exact ⟨refuses, behind⟩

theorem Ends.tested {yes no : Reading β} (more : kind.IsSolid)
    (first : ∀ less, room = less + 1 → Ends false less yes) (second : Ends takes room no) :
    Ends takes room (nextIs kind wanted >>= fun found => if found = true then yes else no) := by
  intro stream sane small
  rw [bind_apply]
  rcases sane.current with ⟨token, shown⟩ | ⟨fault, left, read, refuses, behind⟩
  · have below := Nat.le_trans (Nat.le_of_eq stream.extent_skipped) small
    rw [nextIs_eq_ok_iff.mpr ⟨token, shown, rfl, rfl⟩]
    cases fit : fits kind wanted token with
    | true =>
      have moved : Ended takes room ((TokenStream.next >>= fun _ => yes) stream.skipped) :=
        EndsAt.moved (by rw [kind_of_fits fit]; exact more) first _ shown sane.skipped below
      rwa [bind_apply, next_eq_ok_iff.mpr ⟨shown, rfl⟩] at moved
    | false => exact second _ sane.skipped below
  · rw [nextIs_error read]
    exact ⟨refuses, behind⟩

theorem Ends.glanced {yes no : Reading β}
    (first : ∀ token, token.kind = kind → EndsAt token takes room yes) (second : Ends takes room no) :
    Ends takes room (peekedIs kind wanted >>= fun found => if found = true then yes else no) := by
  intro stream sane small
  rw [bind_apply]
  rcases sane.current with ⟨token, shown⟩ | ⟨fault, left, read, refuses, behind⟩
  · have below := Nat.le_trans (Nat.le_of_eq stream.extent_skipped) small
    rw [peekedIs_eq_ok_iff.mpr ⟨token, shown, rfl, rfl⟩]
    cases fit : fits kind wanted token with
    | true => exact first token (kind_of_fits fit) _ shown sane.skipped below
    | false => exact second _ sane.skipped below
  · rw [peekedIs_error read]
    exact ⟨refuses, behind⟩

theorem ends_peekedIs : Ends false room (peekedIs kind wanted) := by
  intro stream sane small
  rcases sane.current with ⟨token, shown⟩ | ⟨fault, left, read, refuses, behind⟩
  · rw [peekedIs_eq_ok_iff.mpr ⟨token, shown, rfl, rfl⟩]
    exact ⟨sane.skipped, Nat.le_trans (Nat.le_of_eq stream.extent_skipped) small⟩
  · rw [peekedIs_error read]
    exact ⟨refuses, behind⟩

theorem ends_nextIs : Ends false room (nextIs kind wanted) := by
  intro stream sane small
  rcases sane.current with ⟨token, shown⟩ | ⟨fault, left, read, refuses, behind⟩
  · have below := Nat.le_trans (Nat.le_of_eq stream.extent_skipped) small
    rw [nextIs_eq_ok_iff.mpr ⟨token, shown, rfl, rfl⟩]
    cases fits kind wanted token with
    | true => exact ⟨sane.skipped.advanced, Nat.le_trans stream.skipped.extent_advanced_le below⟩
    | false => exact ⟨sane.skipped, below⟩
  · rw [nextIs_error read]
    exact ⟨refuses, behind⟩

theorem Ends.ensured {next : String → Reading β} (more : kind.IsSolid)
    (later : ∀ (token : Token) (less : Nat), token.kind = kind → token.Marked → room = less + 1 →
      Ends false less (next token.value)) :
    Ends takes room (ensure kind wanted >>= next) := by
  intro stream sane small
  rcases sane.current with ⟨token, shown⟩ | ⟨fault, left, read, refuses, behind⟩
  · have below := Nat.le_trans (Nat.le_of_eq stream.extent_skipped) small
    have marked := sane.skipped.front? shown
    cases fit : fits kind wanted token with
    | true =>
      have kind := kind_of_fits fit
      have moved : Ended takes room ((TokenStream.next >>= fun _ => next token.value) stream.skipped) :=
        EndsAt.moved (by rw [kind]; exact more) (fun less same => later token less kind marked same)
          _ shown sane.skipped below
      rw [bind_apply, next_eq_ok_iff.mpr ⟨shown, rfl⟩] at moved
      rwa [bind_apply, ensure_eq_ok_iff.mpr ⟨token, shown, fit, rfl, rfl⟩]
    | false =>
      have failed : ensure kind wanted false stream =
          .error (unexpected token [(wanted.filter (· ≠ "")).getD kind.spelling]) stream.skipped := by
        unfold ensure
        rw [bind_apply, peekedIs_eq_ok_iff.mpr ⟨token, shown, fit.symm, rfl⟩]
        change (TokenStream.peek >>= fun token => _) _ = _
        rw [bind_apply, peek_eq_ok_iff.mpr ⟨shown, rfl⟩]
        rfl
      rw [bind_apply, failed]
      exact ⟨trivial, sane.skipped⟩
  · have failed : ensure kind wanted false stream = .error fault left := by
      unfold ensure
      rw [bind_apply, peekedIs_error read]
    rw [bind_apply, failed]
    exact ⟨refuses, behind⟩

theorem ends_ensure (more : kind.IsSolid) : Ends true room (ensure kind wanted) := by
  have ends : Ends true room (ensure kind wanted >>= pure) :=
    .ensured more fun _ _ _ _ _ => .pure _
  rwa [bind_pure] at ends

/-- A token that was taken is put back. -/
theorem Ends.returned {token : Token} {next : Unit → Reading β} {less : Nat} (marked : token.Marked)
    (later : Ends true (less + 1) (next ())) : Ends false less (unget token >>= next) := by
  intro stream sane small
  have grown : extent { stream with pending := .token token :: stream.pending } ≤ less + 1 := by
    rw [extent, List.countP_cons]
    have : stream.extent ≤ less := small
    unfold extent at this
    split <;> omega
  exact (later _ (sane.unget marked) grown).mono (by simp)

/-- A token is taken to look at the one after it, and may be put back. -/
theorem EndsAt.glimpsed {token : Token} {yes no : Token → Reading β} (more : token.kind.IsSolid)
    (marked : token.Marked) (first : ∀ less, room = less + 1 → Ends false less (yes token))
    (second : Ends takes room (no token)) :
    EndsAt token takes room (do
      let token ← next
      if ← peekedIs kind wanted then yes token else do
        unget token
        no token) := by
  intro stream shown sane small
  rw [bind_apply, next_eq_ok_iff.mpr ⟨shown, rfl⟩]
  have spent := extent_advanced shown more
  have most : takes.toNat ≤ 1 := Bool.toNat_le takes
  obtain ⟨less, rfl⟩ : ∃ less, room = less + 1 := ⟨room - 1, by omega⟩
  dsimp only
  rw [bind_apply]
  rcases sane.advanced.current with ⟨other, behind⟩ | ⟨fault, left, read, refuses, behind⟩
  · rw [peekedIs_eq_ok_iff.mpr ⟨other, behind, rfl, rfl⟩]
    have below := Nat.le_of_eq stream.advanced.extent_skipped
    cases fits kind wanted other with
    | true => exact (first less rfl _ sane.advanced.skipped (by omega)).mono (by simp; omega)
    | false =>
      refine second _ (sane.advanced.skipped.unget marked) ?_
      have grown := extent_unget stream.advanced.skipped token more
      exact Nat.le_trans (Nat.le_of_eq grown) (by omega)
  · rw [peekedIs_error read]
    exact ⟨refuses, behind⟩

theorem refuses_unexpected (token : Token) (expected : List String) :
    (unexpected token expected).Refuses := trivial

/-! ### Types -/

namespace TypeExpr.Parser

theorem ends_lifetime : Ends true room lifetime := by
  refine .ensured (by decide) fun token less kind marked _ => ?_
  obtain ⟨duration, same⟩ := marked kind
  rw [same]
  exact .pure duration

theorem ends_constant : Ends true room constant := by
  refine .looked fun token _ => ?_
  split
  next kind => exact .moved (by rw [kind]; decide) fun _ _ => .pure _
  next kind => exact .moved (by rw [kind]; decide) fun _ _ => .pure _
  · exact Ends.located (.throw (refuses_unexpected _ _)) token

theorem readWithin_ends (steps : Nat) (awaited : List TokenKind) (values : List String)
    (stream : TokenStream) (enough : stream.pending.length < steps) :
    EndsOn false room (TokenGroup.readWithin steps awaited values) stream := by
  induction steps generalizing awaited values stream with
  | zero => omega
  | succ steps ih =>
    cases awaited with
    | nil => exact Ends.pure _ stream
    | cons closer outer =>
      refine (ends_next stream).bind fun token left taken small => ?_
      obtain ⟨shown, rfl⟩ := next_eq_ok_iff.mp taken
      by_cases last : token.kind = .endOfInput
      · rw [last]
        exact Ends.pure _ _
      · have less := length_advanced shown last
        split
        next same => exact absurd same last
        · exact ih _ _ _ (by omega)
        · exact ih _ _ _ (by omega)

theorem ends_macroGroup (path : String) : Ends false room (macroGroup path) := by
  refine (ends_ensure (by decide)).taking fun _ less _ => ends_next.bind fun opening => ?_
  split
  · exact .throw trivial
  · refine .get fun stream => (readWithin_ends _ _ _ stream (by omega)).bind fun values left _ _ => ?_
    split
    · exact Ends.pure _ left
    · exact fun sane _ => ⟨trivial, sane⟩

/-- With eight steps for each token and a few more the functions of the parser end well. Those that call
each other on the same tokens need one step more than the function they call. -/
structure Ending (steps : Nat) : Prop where
  segments : ∀ room, 8 * room + 1 ≤ steps → Ends false room (segments steps)
  segment : ∀ room, 8 * room + 1 ≤ steps → Ends true room (segment steps)
  output : ∀ room, 8 * room + 1 ≤ steps → Ends false room (output steps)
  angleArguments : ∀ room, 8 * room + 1 ≤ steps → Ends true room (angleArguments steps)
  path : ∀ room, 8 * room + 2 ≤ steps → Ends true room (path steps)
  bound : ∀ room, 8 * room + 3 ≤ steps → Ends true room (bound steps)
  pathOrMacro : ∀ room, 8 * room + 3 ≤ steps → Ends true room (pathOrMacro steps)
  type : ∀ room, 8 * room + 4 ≤ steps → Ends true room (type steps)
  bounds : ∀ room, 8 * room + 4 ≤ steps → Ends true room (bounds steps)
  tupleOrGroup : ∀ room, 8 * room + 5 ≤ steps → Ends true room (tupleOrGroup steps)
  types : ∀ closer, closer.IsSolid → ∀ room, 8 * room + 5 ≤ steps → Ends true room (types closer steps)
  argument : ∀ room, 8 * room + 5 ≤ steps → Ends true room (argument steps)
  arguments : ∀ room, 8 * room + 6 ≤ steps → Ends true room (arguments steps)

variable {steps : Nat}

theorem ends_typeStep (ending : Ending steps) (enough : 8 * room + 4 ≤ steps + 1) :
    Ends true room (type (steps + 1)) := by
  rw [type]
  refine .looked fun token _ => ?_
  split
  next kind =>
    refine .moved (by rw [kind]; decide) fun less same => ?_
    exact (ending.tupleOrGroup less (by omega)).loose
  next kind =>
    refine .moved (by rw [kind]; decide) fun less same => ?_
    refine (ending.type less (by omega)).taking fun element _ _ => .tested (by decide) (fun _ _ => ?_) ?_
    · exact ends_constant.taking fun _ _ _ => (ends_ensure (by decide)).taking fun _ _ _ => .pure _
    · exact (ends_ensure (by decide)).taking fun _ _ _ => .pure _
  next kind =>
    refine .moved (by rw [kind]; decide) fun less same => ?_
    have element (duration : Option Lifetime) (room : Nat) (small : room ≤ less) : Ends false room (do
        let isMutable ← nextIs .identifier (some "mut")
        return TypeExpr.reference duration isMutable (← type steps)) :=
      ends_nextIs.bind fun _ =>
        (ending.type room (by omega)).taking fun _ _ _ => .pure _
    refine .glanced (fun token _ => Ends.located ?_ token) (element none less (Nat.le_refl _))
    exact Ends.taking (.map ends_lifetime) fun _ _ below => element _ _ (Nat.le_of_lt below)
  next kind =>
    refine .moved (by rw [kind]; decide) fun less same => .tested (by decide) (fun few below => ?_) ?_
    · exact (ending.type few (by omega)).taking fun _ _ _ => .pure _
    · refine (ends_ensure (by decide)).taking fun _ few below => ?_
      exact (ending.type few (by omega)).taking fun _ _ _ => .pure _
  next kind => exact .moved (by rw [kind]; decide) fun _ _ => .pure _
  next kind => exact (ending.pathOrMacro room (by omega)).located token
  next kind =>
    have more : token.kind.IsSolid := by rw [kind]; decide
    split
    · exact .moved more fun _ _ => .pure _
    · refine .moved more fun less same => (ends_ensure (by decide)).taking fun _ few below => ?_
      refine (ending.types _ (by decide) few (by omega)).taking fun _ fewer _ => ?_
      exact (ending.output fewer (by omega)).bind fun _ => .pure _
    · exact .moved more fun less same => (ending.bounds less (by omega)).taking fun _ _ _ => .pure _
    · exact .moved more fun less same => (ending.bounds less (by omega)).taking fun _ _ _ => .pure _
    · exact (ending.pathOrMacro room (by omega)).located token
  · exact Ends.located (.throw (refuses_unexpected _ _)) token

theorem ends_tupleOrGroup (ending : Ending steps) (enough : 8 * room + 5 ≤ steps + 1) :
    Ends true room (tupleOrGroup (steps + 1)) := by
  rw [tupleOrGroup]
  refine .tested (by decide) (fun _ _ => .pure _) ?_
  refine (ending.type room (by omega)).taking fun first less below => ?_
  refine .tested (by decide) (fun _ _ => .pure _) ((ends_ensure (by decide)).taking fun _ few _ => ?_)
  exact (ending.types _ (by decide) few (by omega)).taking fun _ _ _ => .pure _

theorem ends_types (ending : Ending steps) {closer : TokenKind} (more : closer.IsSolid)
    (enough : 8 * room + 5 ≤ steps + 1) : Ends true room (types closer (steps + 1)) := by
  rw [types]
  refine .tested more (fun _ _ => .pure _) ?_
  refine (ending.type room (by omega)).taking fun first less below => ?_
  refine .tested (by decide) (fun few _ => ?_) ((ends_ensure more).taking fun _ _ _ => .pure _)
  exact (ending.types _ more few (by omega)).taking fun _ _ _ => .pure _

theorem ends_path (ending : Ending steps) (enough : 8 * room + 2 ≤ steps + 1) :
    Ends true room (path (steps + 1)) := by
  rw [path]
  have segmented (room : Nat) (enough : 8 * room + 1 ≤ steps) {α : Type} (result : Segment → List Segment → Reading α)
      (gives : ∀ first rest room, Ends false room (result first rest)) : Ends true room (do
        let first ← segment steps
        let rest ← segments steps
        result first rest) :=
    (ending.segment room enough).taking fun first less below =>
      (ending.segments less (by omega)).bind fun rest => gives first rest less
  refine .tested (by decide) (fun less same => ?_) (segmented room (by omega) _ fun _ _ _ => .pure _)
  refine (ending.type less (by omega)).taking fun subject few below => ?_
  have remaining (result : Segment → List Segment → Reading Path) (room : Nat) (small : room ≤ few)
      (gives : ∀ first rest room, Ends false room (result first rest)) : Ends false room (do
        let _ ← ensure .greaterThan
        let _ ← ensure .doubleColon
        let first ← segment steps
        let rest ← segments steps
        result first rest) :=
    (ends_ensure (by decide)).taking fun _ left _ => (ends_ensure (by decide)).taking fun _ last _ =>
      (segmented last (by omega) _ gives).loose
  refine .tested (by decide) (fun fewer _ => ?_) (remaining _ few (Nat.le_refl _) fun _ _ _ => .pure _)
  refine Ends.taking (.map (ending.path fewer (by omega))) fun trait last _ => remaining _ last (by omega) fun _ _ _ => ?_
  split <;> exact .pure _

theorem ends_segment (ending : Ending steps) (enough : 8 * room + 1 ≤ steps + 1) :
    Ends true room (segment (steps + 1)) := by
  rw [segment]
  refine (ends_ensure (by decide)).taking fun name less below => ?_
  have angle (few : Nat) (small : few ≤ less) : Ends false few (do
      let found ← angleArguments steps
      return Segment.angle name found) :=
    (ending.angleArguments few (by omega)).taking fun _ _ _ => .pure _
  refine .glanced (fun token _ => (angle less (Nat.le_refl _)).located token) ?_
  refine .glanced (fun token kind => ?_) (.tested (by decide) (fun few _ => ?_) (.pure _))
  · have more : token.kind.IsSolid := by rw [kind]; decide
    have marked : token.Marked := fun lifetime => by rw [kind] at lifetime; cases lifetime
    exact .glimpsed more marked (fun few same => angle few (by omega)) (.pure _)
  · refine (ending.types _ (by decide) few (by omega)).taking fun _ fewer _ => ?_
    exact (ending.output fewer (by omega)).bind fun _ => .pure _

theorem ends_argument (ending : Ending steps) (enough : 8 * room + 5 ≤ steps + 1) :
    Ends true room (argument (steps + 1)) := by
  rw [argument]
  refine .looked fun token marked => ?_
  split
  · exact (Ends.taking ends_lifetime fun _ _ _ => .pure _).located token
  next kind => exact .moved (by rw [kind]; decide) fun _ _ => .pure _
  next kind =>
    refine .moved (by rw [kind]; decide) fun less same => .tested (by decide) (fun few _ => ?_) ?_
    · exact (ending.type few (by omega)).taking fun _ _ _ => .pure _
    · refine .tested (by decide) (fun few _ => ?_) (.returned marked ?_)
      · exact (ending.bounds few (by omega)).taking fun _ _ _ => .pure _
      · exact (ending.type (less + 1) (by omega)).taking fun _ _ _ => .pure _
  · exact ((ending.type room (by omega)).taking fun _ _ _ => .pure _).located token

theorem ends_bound (ending : Ending steps) (enough : 8 * room + 3 ≤ steps + 1) :
    Ends true room (bound (steps + 1)) := by
  rw [bound]
  refine .glanced (fun token _ => Ends.located ?_ token) (.tested (by decide) (fun less _ => ?_) ?_)
  · exact ends_lifetime.taking fun _ _ _ => .pure _
  · exact (ending.path less (by omega)).taking fun _ _ _ => (ends_ensure (by decide)).taking fun _ _ _ => .pure _
  · exact (ending.path room (by omega)).taking fun _ _ _ => .pure _

theorem ends_arguments (ending : Ending steps) (enough : 8 * room + 6 ≤ steps + 1) :
    Ends true room (arguments (steps + 1)) := by
  rw [arguments]
  refine .tested (by decide) (fun _ _ => .pure _) ?_
  refine (ending.argument room (by omega)).taking fun first less below => ?_
  refine .tested (by decide) (fun few _ => ?_) ((ends_ensure (by decide)).taking fun _ _ _ => .pure _)
  exact (ending.arguments few (by omega)).taking fun _ _ _ => .pure _

theorem ends_bounds (ending : Ending steps) (enough : 8 * room + 4 ≤ steps + 1) :
    Ends true room (bounds (steps + 1)) := by
  rw [bounds]
  refine (ending.bound room (by omega)).taking fun first less below => ?_
  refine .tested (by decide) (fun few _ => ?_) (.pure _)
  exact (ending.bounds few (by omega)).taking fun _ _ _ => .pure _

/-- All functions of the parser end well, by induction on their steps. -/
theorem ending (steps : Nat) : Ending steps := by
  induction steps with
  | zero => constructor <;> intros <;> omega
  | succ steps ih => exact {
      segments := fun room enough => by
        rw [segments]
        refine .tested (by decide) (fun less same => ?_) (.pure _)
        refine (ih.segment less (by omega)).taking fun first few below => ?_
        exact (ih.segments few (by omega)).bind fun _ => .pure _
      segment := fun _ enough => ends_segment ih enough
      output := fun room enough => by
        rw [output]
        refine .tested (by decide) (fun less same => ?_) (.pure _)
        exact (ih.type less (by omega)).taking fun _ _ _ => .pure _
      angleArguments := fun room enough => by
        rw [angleArguments]
        exact (ends_ensure (by decide)).taking fun _ less below => (ih.arguments less (by omega)).loose
      path := fun _ enough => ends_path ih enough
      bound := fun _ enough => ends_bound ih enough
      pathOrMacro := fun room enough => by
        rw [pathOrMacro]
        refine (ih.path room (by omega)).taking fun found less below => ?_
        exact .glanced (fun token _ => Ends.located (ends_macroGroup _) token) (.pure _)
      type := fun _ enough => ends_typeStep ih enough
      bounds := fun _ enough => ends_bounds ih enough
      tupleOrGroup := fun _ enough => ends_tupleOrGroup ih enough
      types := fun _ more _ enough => ends_types ih more enough
      argument := fun _ enough => ends_argument ih enough
      arguments := fun _ enough => ends_arguments ih enough }

end TypeExpr.Parser

theorem ends_type : Ends true room TypeExpr.parse := by
  refine .get fun stream => (TypeExpr.Parser.ending _).type _ ?_ stream
  have := stream.extent_le_length
  unfold budget
  omega

theorem ends_bounds : Ends true room TypeExpr.parseBounds := by
  refine .get fun stream => (TypeExpr.Parser.ending _).bounds _ ?_ stream
  have := stream.extent_le_length
  unfold budget
  omega

/-! ### Annotations -/

namespace Annotation

variable {attribution : Attribution}

theorem refuses_fault (problem : AnnotationProblem) (token : Token) :
    (fault attribution problem token).Refuses := trivial

theorem ends_failHere (problem : AnnotationProblem) :
    Ends takes room (failHere attribution problem : Reading α) :=
  ends_peek.bind fun token => .throw (refuses_fault problem token)

theorem ends_orOnSource {action other : Reading α} (first : Ends takes room action)
    (second : ∀ stream, stream.Sane → ∃ fault left, other stream = .error fault left ∧
      fault.Refuses ∧ left.Sane) : Ends takes room (orOnSource action other) := by
  intro stream sane small
  have ended := first stream sane small
  unfold orOnSource
  split
  next line column problem left run =>
    rw [run] at ended
    obtain ⟨fault, behind, failed, refuses, still⟩ := second left ended.2
    rw [failed]
    exact ⟨refuses, still⟩
  · exact ended

theorem failHere_fails (problem : AnnotationProblem) (stream : TokenStream) (sane : stream.Sane) :
    ∃ fault left, (failHere attribution problem : Reading α) stream = .error fault left ∧
      fault.Refuses ∧ left.Sane := by
  unfold failHere
  rw [bind_apply]
  rcases sane.peek with ⟨token, shown⟩ | ⟨fault, left, read, -, refuses, behind⟩
  · rw [peek_eq_ok_iff.mpr ⟨shown, rfl⟩]
    exact ⟨_, _, rfl, trivial, sane⟩
  · rw [read]
    exact ⟨_, _, rfl, refuses, behind⟩

theorem ends_item (mark : Annotation) (isFirst : Bool) (token : Token) :
    Ends true room (item attribution mark isFirst token) := by
  have subject {room : Nat} : Ends true room subject :=
    .glanced (fun token _ => Ends.located (TypeExpr.Parser.ends_lifetime.taking fun _ _ _ => .pure _) token)
      ends_type
  refine (ends_orOnSource subject fun stream sane => ⟨_, _, rfl, refuses_fault _ _, sane⟩).taking fun found less _ => ?_
  refine .tested (by decide) (fun few _ => ?_) ?_
  · exact (ends_orOnSource ends_bounds (failHere_fails _)).taking fun _ _ _ => .pure _
  · split
    · exact .ite (fun _ => .pure _) fun _ => .throw (refuses_fault _ _)
    · exact ends_failHere _

theorem ends_items (steps : Nat) (mark : Annotation) (isFirst : Bool) (enough : room < steps) :
    Ends false room (items attribution steps mark isFirst) := by
  induction steps generalizing room mark isFirst with
  | zero => omega
  | succ steps ih =>
    refine .tested (by decide) (fun _ _ => .pure _) (ends_peek.bind fun token => ?_)
    refine .ite (fun _ => .throw (refuses_fault _ _)) fun _ => (ends_item _ _ _).taking fun mark less below => ?_
    refine .tested (by decide) (fun few _ => ih mark false (by omega)) ?_
    exact .tested (by decide) (fun _ _ => .pure _) (ends_failHere _)

theorem ends_parse : Ends true room (parse attribution) := by
  have named (start : Token) : Ends true room (do
      let name ← ensure .identifier
      if name ≠ keyword then
        throw (fault attribution (.unknownName name) start)
      let mark : Annotation := ⟨none, [], start.position⟩
      if ← nextIs .openParen then
        items attribution ((← get).pending.length + 1) mark true
      else
        return mark) := by
    refine (ends_ensure (by decide)).taking fun name less _ => .ite (fun _ => .throw (refuses_fault _ _)) fun _ => ?_
    refine .tested (by decide) (fun few _ => .get fun stream => ends_items _ _ _ ?_ stream) (.pure _)
    have := stream.extent_le_length
    omega
  refine ends_next.bind fun start => ends_peekedIs.bind fun found => ?_
  exact .ite (fun _ => (ends_failHere _).bind fun _ => named start) fun _ => named start

theorem ends_parseAllFrom (steps : Nat) (found : Option Annotation) (enough : room < steps) :
    Ends false room (parseAllFrom attribution steps found) := by
  induction steps generalizing room found with
  | zero => omega
  | succ steps ih =>
    refine .glanced (fun token _ => Ends.located ?_ token) (.pure _)
    refine ends_peek.bind fun token => ends_parse.taking fun mark less below => ?_
    exact .ite (fun _ => .throw (refuses_fault _ _)) fun _ => ih _ (by omega)

theorem ends_parseAll : Ends false room (parseAll attribution) := by
  refine .get fun stream => ends_parseAllFrom _ _ ?_ stream
  have := stream.extent_le_length
  omega

end Annotation

end

end CowView
