import CowView.Proofs.Ending
import CowView.Proofs.MacroGroup

/-!
The doc comments that the parser notes. A `Slot` follows the tokens of a text: a doc comment replaces what was noted
before, unless it stands in the token group of a macro. `Stands` compares a stream with the tokens that were taken
off it, and `Notes` is a triple for the actions that keep the two in step (`TypeExpr.Parser.noting`).
-/

namespace CowView

open TokenStream

/-! ### Doc comments among tokens -/

def AllComments (tokens : List Token) : Prop := ∀ token ∈ tokens, token.isComment = true

/-- What is known behind some tokens: the documentation noted last, the closing brackets awaited in the token group of
a macro, and whether the last token is a bang outside of groups. -/
structure Slot where
  docs : String
  awaited : List TokenKind
  afterBang : Bool
  deriving DecidableEq, Repr

namespace Slot

def holding (docs : String) : Slot := ⟨docs, [], false⟩

def commented (docs : String) (comment : Token) : String :=
  if DocComment.isDoc comment.value then DocComment.body comment.value else docs

/-- One more token. A bracket right behind a bang opens a token group, in which comments do not count. -/
def past (slot : Slot) (token : Token) : Slot :=
  match slot.awaited with
  | awaited :: outer => { slot with awaited := TokenGroup.awaitedAfter token.kind awaited outer }
  | [] =>
    if token.isComment then .holding (commented slot.docs token)
    else ⟨slot.docs, if slot.afterBang then token.kind.closer?.toList else [], token.kind = .bang⟩

end Slot

/-- The documentation in the last doc comment among some tokens, token groups of macros aside, or what was noted
before. -/
def noted (docs : String) (tokens : List Token) : String := (tokens.foldl Slot.past (.holding docs)).docs

section

variable {docs : String} {tokens comments : List Token} {token : Token} {bang : Bool}

namespace Slot

theorem past_comment (comment : token.isComment = true) (docs : String) (bang : Bool) :
    past ⟨docs, [], bang⟩ token = holding (commented docs token) := if_pos comment

theorem past_solid (solid : token.isComment = false) (single : bang = true → token.kind.closer? = none) :
    past ⟨docs, [], bang⟩ token = ⟨docs, [], token.kind = .bang⟩ := by
  have none : (if bang = true then token.kind.closer?.toList else []) = [] := by
    split
    next after => rw [single after, Option.toList_none]
    · rfl
  simp only [past, solid, none, Bool.false_eq_true, if_false]

/-- A bracket right behind a bang opens a group. -/
theorem past_opening {closer : TokenKind} (opens : token.kind.closer? = some closer) :
    past ⟨docs, [], true⟩ token = ⟨docs, [closer], false⟩ := by
  have solid : token.isComment = false := by
    cases kind : token.kind <;> rw [kind] at opens <;> first | rfl | cases opens
    all_goals simp [Token.isComment, kind]
  have other : token.kind ≠ .bang := by
    intro kind
    rw [kind] at opens
    cases opens
  simp only [past, solid, opens, other, Bool.false_eq_true, if_false, if_true, decide_false, Option.toList_some]

theorem foldl_comments (all : AllComments comments) (docs : String) (bang : Bool) :
    comments.foldl past ⟨docs, [], bang⟩ = ⟨noted docs comments, [], bang && comments.isEmpty⟩ := by
  induction comments generalizing docs bang with
  | nil => simp [noted, holding]
  | cons first rest ih =>
    obtain ⟨own, others⟩ := List.forall_mem_cons.mp all
    have later := ih others (commented docs first) false
    rw [Bool.false_and] at later
    simp only [noted, List.foldl_cons, past_comment own, List.isEmpty_cons, Bool.and_false, holding] at later ⊢
    exact later

/-- Nothing in a group changes what is noted. -/
theorem foldl_group {body : List Token} : ∀ {awaited : List TokenKind},
    TokenGroup.Balanced awaited (body.map Token.bare) → body.foldl past ⟨docs, awaited, false⟩ = .holding docs := by
  induction body with
  | nil =>
    intro awaited balanced
    cases awaited with
    | nil => rfl
    | cons => exact balanced.elim
  | cons first rest ih =>
    intro awaited balanced
    cases awaited with
    | nil => cases balanced
    | cons awaited outer => exact ih balanced.2

end Slot

/-- What is noted behind tokens that leave no group open and do not end with a bang. -/
theorem noted_append (slot : tokens.foldl Slot.past (.holding docs) = ⟨noted docs tokens, [], false⟩)
    (more : List Token) : noted docs (tokens ++ more) = noted (noted docs tokens) more := by
  rw [noted, List.foldl_append, slot]
  rfl

theorem noted_comments (all : AllComments comments) (more : List Token) :
    noted docs (comments ++ more) = noted (noted docs comments) more :=
  noted_append (Slot.foldl_comments all docs false) more

end

/-! ### Streams and the tokens taken off them -/

def Lexeme.isText : Lexeme → Bool
  | .token found => found.kind ≠ .endOfInput
  | .fault _ => true

namespace TokenStream

/-- The lexemes that were not taken yet, up to the end of the input. -/
def unread (stream : TokenStream) : List Lexeme := stream.pending.takeWhile Lexeme.isText

variable {stream left : TokenStream} {token : Token} {kind : TokenKind}

theorem unread_cons {rest : List Lexeme} (pending : stream.pending = .token token :: rest)
    (more : token.kind ≠ .endOfInput) : stream.unread = .token token :: stream.advanced.unread := by
  simp [unread, advanced, pending, Lexeme.isText, more]

theorem pending_of_front? (shown : stream.front? = some token) (more : token.kind ≠ .endOfInput) :
    stream.pending = .token token :: stream.advanced.pending := by
  unfold front? at shown
  split at shown
  next first rest pending =>
    cases shown
    simp [advanced, pending]
  · cases shown
    exact absurd rfl more
  · cases shown

theorem unread_of_front? (shown : stream.front? = some token) (more : token.kind ≠ .endOfInput) :
    stream.unread = .token token :: stream.advanced.unread :=
  unread_cons (pending_of_front? shown more) more

def Settled (stream : TokenStream) : Prop := ∀ token, stream.front? = some token → token.isComment = false

theorem front?_cons {rest : List Lexeme} (pending : stream.pending = .token token :: rest) :
    stream.front? = some token := by simp [front?, pending]

theorem exists_dropped (stream : TokenStream) : ∃ comments : List Token, AllComments comments ∧
    stream.pending = comments.map .token ++ stream.skipped.pending ∧
    stream.skipped.docs = noted stream.docs comments ∧ stream.skipped.Settled := by
  obtain ⟨pending, ending, docs⟩ := stream
  induction pending generalizing docs with
  | nil =>
    refine ⟨[], nofun, rfl, rfl, fun token shown => ?_⟩
    cases ending <;> cases shown
    rfl
  | cons lexeme rest ih =>
    cases lexeme with
    | fault fault =>
      refine ⟨[], nofun, rfl, rfl, fun token shown => ?_⟩
      cases shown
    | token first =>
      cases comment : first.isComment with
      | false =>
        have same : skipped ⟨.token first :: rest, ending, docs⟩ = ⟨.token first :: rest, ending, docs⟩ := by
          simp [skipped, dropComments, comment]
        rw [same]
        refine ⟨[], nofun, rfl, rfl, fun token shown => ?_⟩
        cases shown
        exact comment
      | true =>
        have same : skipped ⟨.token first :: rest, ending, docs⟩ =
            skipped ⟨rest, ending, Slot.commented docs first⟩ := by
          simp [skipped, dropComments, comment, Slot.commented]
        obtain ⟨comments, all, parts, notes, settled⟩ := ih (Slot.commented docs first)
        rw [same]
        refine ⟨first :: comments, List.forall_mem_cons.mpr ⟨comment, all⟩, ?_, ?_, settled⟩
        · exact congrArg (Lexeme.token first :: ·) parts
        · rw [notes, noted, noted, List.foldl_cons]
          exact congrArg (fun slot => (comments.foldl Slot.past slot).docs) (Slot.past_comment comment docs false).symm

end TokenStream

structure Stands (lexemes : List Lexeme) (docs : String) (tokens comments : List Token) (bang : Bool)
    (stream : TokenStream) : Prop where
  parts : lexemes = (tokens ++ comments).map .token ++ stream.unread
  passed : AllComments comments
  solid : ∀ last ∈ tokens.getLast?, last.isComment = false
  slot : tokens.foldl Slot.past (.holding docs) = ⟨noted docs tokens, [], bang⟩
  notes : stream.docs = noted (noted docs tokens) comments

namespace Stands

variable {lexemes : List Lexeme} {docs : String} {tokens comments : List Token} {bang : Bool}
  {stream : TokenStream} {token : Token}

/-- Nothing was taken yet. -/
theorem start (stream : TokenStream) : Stands stream.unread stream.docs [] [] false stream :=
  ⟨rfl, nofun, nofun, rfl, rfl⟩

theorem skipped (stands : Stands lexemes docs tokens comments bang stream) : ∃ more, AllComments more ∧
    Stands lexemes docs tokens (comments ++ more) bang stream.skipped ∧ (stream.Settled → more = []) := by
  obtain ⟨more, all, pending, notes, -⟩ := exists_dropped stream
  have text : ∀ lexeme ∈ more.map Lexeme.token, lexeme.isText = true := by
    intro lexeme member
    obtain ⟨token, own, rfl⟩ := List.mem_map.mp member
    have kind : token.kind = .comment := by simpa [Token.isComment] using all token own
    simp [Lexeme.isText, kind]
  have unread : stream.unread = more.map .token ++ stream.skipped.unread := by
    rw [TokenStream.unread, pending, List.takeWhile_append_of_pos text, TokenStream.unread]
  refine ⟨more, all, ⟨?_, List.forall_mem_append.mpr ⟨stands.passed, all⟩, stands.solid, stands.slot, ?_⟩, ?_⟩
  · rw [stands.parts, unread]
    simp
  · rw [notes, stands.notes, noted_comments stands.passed]
  · intro settled
    cases more with
    | nil => rfl
    | cons first rest =>
      have plain := settled first (front?_cons pending)
      rw [all first List.mem_cons_self] at plain
      cases plain

/-- A token is taken. After a bang it opens no bracket, unless there are comments in between. -/
theorem advanced (stands : Stands lexemes docs tokens comments bang stream) (shown : stream.front? = some token)
    (more : token.kind ≠ .endOfInput) (solid : token.isComment = false)
    (single : bang = true → token.kind.closer? = none) :
    Stands lexemes docs (tokens ++ comments ++ [token]) [] (token.kind = .bang) stream.advanced := by
  have slot : (tokens ++ comments ++ [token]).foldl Slot.past (.holding docs) =
      ⟨stream.docs, [], token.kind = .bang⟩ := by
    rw [List.foldl_append, List.foldl_append, stands.slot, Slot.foldl_comments stands.passed, ← stands.notes]
    refine Slot.past_solid solid fun after => single ?_
    exact (Bool.and_eq_true_iff.mp after).1
  have notes : noted docs (tokens ++ comments ++ [token]) = stream.docs := congrArg Slot.docs slot
  refine ⟨?_, nofun, by simpa using solid, by rw [slot, notes], notes.symm⟩
  rw [stands.parts, unread_of_front? shown more]
  simp

end Stands

/-! ### Triples -/

/-- Where the parser may stand: behind any token, not right behind a bang, or in front of a token that was put back
and behind which it has looked already. -/
inductive Place where
  | anywhere
  | clear
  | held (kind : TokenKind)
  deriving DecidableEq

section

variable {α β : Type} {lexemes : List Lexeme} {docs : String} {place : Place} {kind : TokenKind}
  {wanted : Option String} {stream : TokenStream} {token : Token}

/-- The stream and what was taken off the lexemes are in step. -/
def At (lexemes : List Lexeme) (docs : String) : Place → TokenStream → Prop
  | .anywhere, stream => ∃ tokens comments bang, Stands lexemes docs tokens comments bang stream
  | .clear, stream => ∃ tokens comments, Stands lexemes docs tokens comments false stream
  | .held kind, stream => ∃ (token : Token) (rest : List Lexeme), stream.pending = .token token :: rest ∧
      token.kind = kind ∧ kind.IsSolid ∧ ∃ tokens comments, Stands lexemes docs tokens comments false stream.advanced

theorem At.anywhere (clear : At lexemes docs .clear stream) : At lexemes docs .anywhere stream := by
  obtain ⟨tokens, comments, stands⟩ := clear
  exact ⟨tokens, comments, false, stands⟩

theorem isComment_of_isSolid (solid : token.kind.IsSolid) : token.isComment = false := by
  simpa [Token.isComment] using solid.2

/-- A token that was put back is still in front, and nothing is passed over. -/
theorem At.held_skipped (held : At lexemes docs (.held kind) stream) :
    stream.skipped = stream ∧ ∀ token, stream.front? = some token → token.kind = kind := by
  obtain ⟨first, rest, pending, same, solid, -⟩ := held
  have front := front?_cons pending
  refine ⟨?_, fun token shown => ?_⟩
  · have plain : first.isComment = false := isComment_of_isSolid (same ▸ solid)
    obtain ⟨before, ending, noted⟩ := stream
    cases pending
    simp [TokenStream.skipped, dropComments, plain]
  · obtain rfl : first = token := Option.some.inj (front.symm.trans shown)
    exact same

theorem At.skipped (stands : At lexemes docs place stream) : At lexemes docs place stream.skipped := by
  cases place with
  | anywhere =>
    obtain ⟨tokens, comments, bang, stands⟩ := stands
    obtain ⟨more, -, later, -⟩ := stands.skipped
    exact ⟨tokens, comments ++ more, bang, later⟩
  | clear =>
    obtain ⟨tokens, comments, stands⟩ := stands
    obtain ⟨more, -, later, -⟩ := stands.skipped
    exact ⟨tokens, comments ++ more, later⟩
  | held kind => rwa [stands.held_skipped.1]

/-- A token is taken; right behind a bang it must not open a bracket. -/
theorem At.advanced (stands : At lexemes docs place stream) (shown : stream.front? = some token)
    (solid : token.kind.IsSolid) (single : place = .anywhere → token.kind.closer? = none) :
    At lexemes docs .anywhere stream.advanced ∧ (token.kind ≠ .bang → At lexemes docs .clear stream.advanced) := by
  have plain := isComment_of_isSolid solid
  have both {tokens comments : List Token} {bang : Bool} (stands : Stands lexemes docs tokens comments bang stream)
      (single : bang = true → token.kind.closer? = none) : At lexemes docs .anywhere stream.advanced ∧
        (token.kind ≠ .bang → At lexemes docs .clear stream.advanced) := by
    have later := stands.advanced shown solid.1 plain single
    refine ⟨⟨_, _, _, later⟩, fun other => ?_⟩
    rw [decide_eq_false other] at later
    exact ⟨_, _, later⟩
  cases place with
  | anywhere =>
    obtain ⟨tokens, comments, bang, stands⟩ := stands
    exact both stands fun _ => single rfl
  | clear =>
    obtain ⟨tokens, comments, stands⟩ := stands
    exact both stands nofun
  | held kind =>
    obtain ⟨_, _, _, _, _, tokens, comments, stands⟩ := stands
    exact ⟨⟨tokens, comments, false, stands⟩, fun _ => ⟨tokens, comments, stands⟩⟩

def Notes (before after : TokenStream → Prop) (action : Reading α) : Prop :=
  ∀ ⦃stream value left⦄, before stream → action stream = .ok value left → after left

def Before (lexemes : List Lexeme) (docs : String) (place : Place) (token : Token) (stream : TokenStream) : Prop :=
  At lexemes docs place stream ∧ stream.front? = some token

namespace Notes

variable {before between after : TokenStream → Prop} {action : Reading α} {next : α → Reading β}

theorem pure (value : α) : Notes before before (pure value) := by
  intro stream result left stands read
  cases read
  exact stands

theorem throw {fault : Fault} : Notes before after (throw fault : Reading α) := by
  intro stream value left stands read
  cases read

theorem bind (first : Notes before between action) (later : ∀ value, Notes between after (next value)) :
    Notes before after (action >>= next) := by
  intro stream value left stands read
  obtain ⟨found, mid, one, two⟩ := bind_eq_ok read
  exact later found (first stands one) two

/-- The second part of the action only changes the form of what was read. -/
theorem last {change : α → β} (first : Notes before after action) :
    Notes before after (action >>= fun value => Pure.pure (change value)) := first.bind fun _ => pure _

theorem map {change : α → β} (first : Notes before after action) : Notes before after (change <$> action) := by
  rw [map_eq_pure_bind]
  exact first.last

theorem ite {condition : Prop} [Decidable condition] {yes no : Reading α} (first : Notes before after yes)
    (second : Notes before after no) : Notes before after (if condition then yes else no) := by
  split
  · exact first
  · exact second

theorem weaken {before' after' : TokenStream → Prop} (notes : Notes before after action)
    (fore : ∀ stream, before' stream → before stream) (aft : ∀ stream, after stream → after' stream) :
    Notes before' after' action :=
  fun _ _ _ stands read => aft _ (notes (fore _ stands) read)

theorem anywhere (notes : Notes before (At lexemes docs .clear) action) : Notes before (At lexemes docs .anywhere) action :=
  notes.weaken (fun _ => id) fun _ => At.anywhere

/-- An action may start behind a token that is no bang. -/
theorem fromClear (notes : Notes (At lexemes docs .anywhere) after action) : Notes (At lexemes docs .clear) after action :=
  notes.weaken (fun _ => At.anywhere) fun _ => id

theorem located (notes : Notes (At lexemes docs place) after action) (token : Token) :
    Notes (Before lexemes docs place token) after action :=
  notes.weaken (fun _ => And.left) fun _ => id

end Notes

/-! ### Tests and tokens -/

section

variable {after : TokenStream → Prop} {yes no : Reading β}

theorem notes_peekedIs : Notes (At lexemes docs place) (At lexemes docs place) (peekedIs kind wanted) := by
  intro stream found left stands read
  obtain ⟨token, -, -, rfl⟩ := peekedIs_eq_ok_iff.mp read
  exact stands.skipped

/-- A test for a token: what follows starts behind it, or in front of another one. -/
theorem Notes.tested (solid : kind.IsSolid) (other : kind ≠ .bang) (single : place = .anywhere → kind.closer? = none)
    (first : Notes (At lexemes docs .clear) after yes) (second : Notes (At lexemes docs place) after no) :
    Notes (At lexemes docs place) after (nextIs kind wanted >>= fun found => if found = true then yes else no) := by
  intro stream value left stands read
  obtain ⟨found, mid, one, two⟩ := bind_eq_ok read
  obtain ⟨token, shown, rfl, rfl⟩ := nextIs_eq_ok_iff.mp one
  cases fit : fits kind wanted token with
  | false =>
    rw [fit] at two
    exact second stands.skipped two
  | true =>
    rw [fit] at two
    have same := kind_of_fits fit
    have taken := stands.skipped.advanced shown (same ▸ solid) (same ▸ single)
    exact first (taken.2 (same ▸ other)) two

theorem Notes.resumed (first : Notes (At lexemes docs .clear) after yes) (no : Reading β) :
    Notes (At lexemes docs (.held kind)) after (nextIs kind >>= fun found => if found = true then yes else no) := by
  intro stream value left stands read
  obtain ⟨found, mid, one, two⟩ := bind_eq_ok read
  obtain ⟨token, shown, rfl, rfl⟩ := nextIs_eq_ok_iff.mp one
  rw [stands.held_skipped.1] at shown two
  have fit : fits kind none token = true := by simp [fits, stands.held_skipped.2 token shown]
  rw [fit] at two
  obtain ⟨_, _, _, _, _, tokens, comments, behind⟩ := stands
  exact first ⟨tokens, comments, behind⟩ two

theorem notes_nextIs (solid : kind.IsSolid) (other : kind ≠ .bang) :
    Notes (At lexemes docs .clear) (At lexemes docs .clear) (nextIs kind wanted) := by
  have tested : Notes (At lexemes docs .clear) (At lexemes docs .clear)
      (nextIs kind wanted >>= fun found => if found = true then Pure.pure true else Pure.pure false) :=
    .tested solid other (absurd · (by decide)) (.pure _) (.pure _)
  have same : (nextIs kind wanted >>= fun found => if found = true then Pure.pure true else Pure.pure false) =
      nextIs kind wanted := by
    conv_rhs => rw [← bind_pure (nextIs kind wanted)]
    congr 1
    funext found
    cases found <;> rfl
  rwa [same] at tested

theorem notes_ensure (solid : kind.IsSolid) (other : kind ≠ .bang) (single : place = .anywhere → kind.closer? = none) :
    Notes (At lexemes docs place) (At lexemes docs .clear) (ensure kind wanted) := by
  intro stream value left stands read
  obtain ⟨token, shown, fit, -, rfl⟩ := ensure_eq_ok_iff.mp read
  have same := kind_of_fits fit
  exact (stands.skipped.advanced shown (same ▸ solid) (same ▸ single)).2 (same ▸ other)

theorem Notes.looked {next : Token → Reading β}
    (later : ∀ token, Notes (Before lexemes docs place token) after (next token)) :
    Notes (At lexemes docs place) after (current >>= next) := by
  intro stream value left stands read
  obtain ⟨token, mid, one, two⟩ := bind_eq_ok read
  obtain ⟨shown, rfl⟩ := current_eq_ok_iff.mp one
  exact later token ⟨stands.skipped, shown⟩ two

theorem Notes.glanced (first : ∀ token, token.kind = kind → Notes (Before lexemes docs place token) after yes)
    (second : Notes (At lexemes docs place) after no) :
    Notes (At lexemes docs place) after (peekedIs kind wanted >>= fun found => if found = true then yes else no) := by
  intro stream value left stands read
  obtain ⟨found, mid, one, two⟩ := bind_eq_ok read
  obtain ⟨token, shown, rfl, rfl⟩ := peekedIs_eq_ok_iff.mp one
  cases fit : fits kind wanted token with
  | false =>
    rw [fit] at two
    exact second stands.skipped two
  | true =>
    rw [fit] at two
    exact first token (kind_of_fits fit) ⟨stands.skipped, shown⟩ two

theorem Notes.moved {next : Token → Reading β} (solid : token.kind.IsSolid) (other : token.kind ≠ .bang)
    (single : place = .anywhere → token.kind.closer? = none)
    (later : Notes (At lexemes docs .clear) after (next token)) :
    Notes (Before lexemes docs place token) after (TokenStream.next >>= next) := by
  rintro stream value left ⟨stands, shown⟩ read
  obtain ⟨found, mid, one, two⟩ := bind_eq_ok read
  obtain ⟨front, rfl⟩ := next_eq_ok_iff.mp one
  obtain rfl : token = found := Option.some.inj (shown.symm.trans front)
  exact later ((stands.advanced shown solid single).2 other) two

theorem Notes.taken {next : Token → Reading β} (solid : token.kind.IsSolid) (single : token.kind.closer? = none)
    (later : Notes (At lexemes docs .anywhere) after (next token)) :
    Notes (Before lexemes docs place token) after (TokenStream.next >>= next) := by
  rintro stream value left ⟨stands, shown⟩ read
  obtain ⟨found, mid, one, two⟩ := bind_eq_ok read
  obtain ⟨front, rfl⟩ := next_eq_ok_iff.mp one
  obtain rfl : token = found := Option.some.inj (shown.symm.trans front)
  exact later (stands.advanced shown solid fun _ => single).1 two

/-- A token is put back behind which nothing is left to be passed over. -/
theorem Notes.returned {next : Unit → Reading β} {token : Token} (solid : token.kind.IsSolid)
    (later : Notes (At lexemes docs (.held token.kind)) after (next ())) :
    Notes (At lexemes docs .clear) after (unget token >>= next) :=
  fun stream _ _ stands read => by
    have held : At lexemes docs (.held token.kind) { stream with pending := .token token :: stream.pending } :=
      ⟨token, stream.pending, rfl, rfl, solid, stands⟩
    exact later held read

end

/-! ### Token groups -/

theorem TokenGroup.readWithin_unread {steps : Nat} : ∀ {awaited : List TokenKind} {values result : List String}
    {stream left : TokenStream}, readWithin steps awaited values stream = .ok (some result) left →
      ∃ body : List Token, stream.unread = body.map .token ++ left.unread ∧ left.docs = stream.docs ∧
        Balanced awaited (body.map Token.bare) := by
  induction steps with
  | zero => exact fun read => by cases read
  | succ steps ih =>
    intro awaited values result stream left read
    cases awaited with
    | nil =>
      cases read
      exact ⟨[], rfl, rfl, rfl⟩
    | cons awaited outer =>
      rw [readWithin_succ] at read
      obtain ⟨token, mid, one, two⟩ := bind_eq_ok read
      obtain ⟨shown, rfl⟩ := next_eq_ok_iff.mp one
      split at two
      · cases two
      next more =>
        obtain ⟨body, unread, notes, balanced⟩ := ih two
        refine ⟨token :: body, ?_, notes, more, balanced⟩
        rw [unread_of_front? shown more, unread]
        rfl

namespace TypeExpr.Parser

theorem notes_lifetime : Notes (At lexemes docs .clear) (At lexemes docs .clear) lifetime := by
  refine Notes.bind (notes_ensure (by decide) (by decide) (absurd · (by decide))) fun value => ?_
  split
  · exact .pure _
  · exact .throw

theorem notes_constant : Notes (At lexemes docs .clear) (At lexemes docs .clear) constant := by
  refine .looked fun token => ?_
  split
  next kind => exact .moved (by rw [kind]; decide) (by rw [kind]; decide) (absurd · (by decide)) (.pure _)
  next kind => exact .moved (by rw [kind]; decide) (by rw [kind]; decide) (absurd · (by decide)) (.pure _)
  · exact .throw

theorem notes_macroGroup (path : String) :
    Notes (At lexemes docs .anywhere) (At lexemes docs .clear) (macroGroup path) := by
  rintro stream value left ⟨tokens, comments, bang, stands⟩ read
  obtain ⟨mark, opening, closer, values, shown, kind, front, opens, group, -⟩ := macroGroup_eq_ok_iff.mp read
  obtain ⟨more, -, stands, -⟩ := stands.skipped
  have marked := stands.advanced shown (by rw [kind]; decide) (by simp [Token.isComment, kind])
    (fun _ => by rw [kind]; rfl)
  rw [decide_eq_true kind] at marked
  generalize tokens ++ (comments ++ more) ++ [mark] = taken, stream.skipped.advanced = behind at marked front group
  obtain ⟨body, unread, notes, balanced⟩ := TokenGroup.readWithin_unread group
  have slot : (taken ++ opening :: body).foldl Slot.past (.holding docs) = .holding behind.docs := by
    rw [List.foldl_append, marked.slot, List.foldl_cons, Slot.past_opening opens, Slot.foldl_group balanced]
    exact congrArg Slot.holding marked.notes.symm
  have same : noted docs (taken ++ opening :: body) = behind.docs := congrArg Slot.docs slot
  refine ⟨taken ++ opening :: body, [], ?_, List.forall_mem_nil _, fun last member => ?_, by rw [slot, same, Slot.holding], ?_⟩
  · rw [marked.parts, unread_of_front? front (TokenGroup.ne_of_closer? opens).1, unread]
    simp
  · have bodyLast : body ≠ [] := by
      rintro rfl
      exact balanced.elim
    obtain ⟨first, rest, rfl⟩ := List.exists_cons_of_ne_nil bodyLast
    rw [List.getLast?_append, List.getLast?_cons_cons] at member
    have final : (first :: rest).getLast? = some last := by
      cases shown : (first :: rest).getLast? with
      | none => simp at shown
      | some final =>
        rw [shown] at member
        exact member
    have closes := balanced.getLast? (fun kind own => by
      rw [List.mem_singleton.mp own]
      exact (TokenGroup.mem_closers opens).1) last.bare (by rw [List.getLast?_map, final]; rfl)
    change last.kind ∈ TokenGroup.closers at closes
    have other : last.kind ≠ .comment := by
      intro comment
      rw [comment] at closes
      exact absurd closes (by decide)
    simpa [Token.isComment] using other
  · rw [notes, same]
    rfl

def Segmented (lexemes : List Lexeme) (docs : String) (stream : TokenStream) : Prop :=
  At lexemes docs .anywhere stream ∨ At lexemes docs (.held .doubleColon) stream

/-- In all functions of the parser what is noted keeps step with the tokens. A segment may end with a double colon
that was put back. -/
structure Noting (lexemes : List Lexeme) (docs : String) (steps : Nat) : Prop where
  type : ∀ place ≠ .anywhere, Notes (At lexemes docs place) (At lexemes docs .anywhere) (type steps)
  tupleOrGroup : Notes (At lexemes docs .clear) (At lexemes docs .clear) (tupleOrGroup steps)
  types : ∀ closer ∈ TokenGroup.closers, Notes (At lexemes docs .clear) (At lexemes docs .clear) (types closer steps)
  output : Notes (At lexemes docs .clear) (At lexemes docs .anywhere) (output steps)
  pathOrMacro : ∀ place ≠ .anywhere, Notes (At lexemes docs place) (At lexemes docs .anywhere) (pathOrMacro steps)
  path : ∀ place ≠ .anywhere, Notes (At lexemes docs place) (At lexemes docs .anywhere) (path steps)
  segments : Notes (Segmented lexemes docs) (At lexemes docs .anywhere) (segments steps)
  segment : ∀ place ≠ .anywhere, Notes (At lexemes docs place) (Segmented lexemes docs) (segment steps)
  angleArguments : Notes (At lexemes docs .clear) (At lexemes docs .clear) (angleArguments steps)
  arguments : Notes (At lexemes docs .clear) (At lexemes docs .clear) (arguments steps)
  argument : Notes (At lexemes docs .clear) (At lexemes docs .anywhere) (argument steps)
  bounds : Notes (At lexemes docs .clear) (At lexemes docs .anywhere) (bounds steps)
  bound : Notes (At lexemes docs .clear) (At lexemes docs .anywhere) (bound steps)

variable {steps : Nat}

theorem notes_typeStep (noting : Noting lexemes docs steps) (ready : place ≠ .anywhere) :
    Notes (At lexemes docs place) (At lexemes docs .anywhere) (type (steps + 1)) := by
  rw [type]
  have further := noting.type .clear (by decide)
  refine .looked fun token => ?_
  split
  next kind =>
    refine .moved (by rw [kind]; decide) (by rw [kind]; decide) (absurd · ready) ?_
    exact noting.tupleOrGroup.anywhere
  next kind =>
    refine .moved (by rw [kind]; decide) (by rw [kind]; decide) (absurd · ready) (further.bind fun element => ?_)
    have closed (value : TypeExpr) : Notes (At lexemes docs .anywhere) (At lexemes docs .anywhere) (do
        let _ ← ensure .closeSquare
        return value) :=
      .bind (notes_ensure (by decide) (by decide) fun _ => rfl).anywhere fun _ => .pure _
    refine .tested (by decide) (by decide) (fun _ => rfl) ?_ (closed _)
    exact notes_constant.bind fun length => (closed _).fromClear
  next kind =>
    have element (duration : Option Lifetime) : Notes (At lexemes docs .clear) (At lexemes docs .anywhere) (do
        let isMutable ← nextIs .identifier (some "mut")
        return TypeExpr.reference duration isMutable (← type steps)) :=
      (notes_nextIs (by decide) (by decide)).bind fun _ => further.last
    refine .moved (by rw [kind]; decide) (by rw [kind]; decide) (absurd · ready) ?_
    refine notes_peekedIs.bind fun found => .ite ?_ (element none)
    exact notes_lifetime.map.bind element
  next kind =>
    refine .moved (by rw [kind]; decide) (by rw [kind]; decide) (absurd · ready) ?_
    refine .tested (by decide) (by decide) (absurd · (by decide)) further.last ?_
    exact .bind (notes_ensure (by decide) (by decide) (absurd · (by decide))) fun _ => further.last
  next kind => exact .taken (by rw [kind]; decide) (by rw [kind]; rfl) (.pure _)
  next kind => exact (noting.pathOrMacro place ready).located token
  next kind =>
    have solid : token.kind.IsSolid := by rw [kind]; decide
    have other : token.kind ≠ .bang := by rw [kind]; decide
    split
    · exact .moved solid other (absurd · ready) (Notes.pure _).anywhere
    · refine .moved solid other (absurd · ready) (.bind (notes_ensure (by decide) (by decide) (absurd · (by decide))) fun _ => ?_)
      exact (noting.types _ (by decide)).bind fun _ => noting.output.last
    · exact .moved solid other (absurd · ready) noting.bounds.last
    · exact .moved solid other (absurd · ready) noting.bounds.last
    · exact (noting.pathOrMacro place ready).located token
  · exact .throw

theorem notes_path (noting : Noting lexemes docs steps) (ready : place ≠ .anywhere) :
    Notes (At lexemes docs place) (At lexemes docs .anywhere) (path (steps + 1)) := by
  rw [path]
  have segmented {place : Place} (ready : place ≠ .anywhere) (result : Segment → List Segment → Reading Path)
      (gives : ∀ first rest, Notes (At lexemes docs .anywhere) (At lexemes docs .anywhere) (result first rest)) :
      Notes (At lexemes docs place) (At lexemes docs .anywhere) (do
        let first ← segment steps
        let rest ← segments steps
        result first rest) :=
    (noting.segment place ready).bind fun first => noting.segments.bind fun rest => gives first rest
  have remaining (result : Segment → List Segment → Reading Path)
      (gives : ∀ first rest, Notes (At lexemes docs .anywhere) (At lexemes docs .anywhere) (result first rest)) :
      Notes (At lexemes docs .anywhere) (At lexemes docs .anywhere) (do
        let _ ← ensure .greaterThan
        let _ ← ensure .doubleColon
        let first ← segment steps
        let rest ← segments steps
        result first rest) :=
    .bind (notes_ensure (by decide) (by decide) fun _ => rfl) fun _ =>
      .bind (notes_ensure (by decide) (by decide) (absurd · (by decide))) fun _ => segmented (by decide) result gives
  refine .tested (by decide) (by decide) (absurd · ready) ?_ (segmented ready _ fun _ _ => .pure _)
  refine (noting.type .clear (by decide)).bind fun subject => ?_
  refine .tested (by decide) (by decide) (fun _ => rfl) ?_ (remaining _ fun _ _ => .pure _)
  refine Notes.bind (noting.path .clear (by decide)).map fun trait => remaining _ fun _ _ => ?_
  split <;> exact .pure _

theorem notes_segment (noting : Noting lexemes docs steps) (ready : place ≠ .anywhere) :
    Notes (At lexemes docs place) (Segmented lexemes docs) (segment (steps + 1)) := by
  rw [segment]
  have plain {before : TokenStream → Prop} {action : Reading Segment}
      (notes : Notes before (At lexemes docs .anywhere) action) : Notes before (Segmented lexemes docs) action :=
    notes.weaken (fun _ => id) fun _ => .inl
  have angle (name : String) : Notes (At lexemes docs .clear) (Segmented lexemes docs) (do
      return Segment.angle name (← angleArguments steps)) :=
    plain noting.angleArguments.anywhere.last
  refine .bind (notes_ensure (by decide) (by decide) (absurd · ready)) fun name => ?_
  refine notes_peekedIs.bind fun _ => .ite (angle name) (.glanced (fun token kind => ?_) ?_)
  · refine .moved (by rw [kind]; decide) (by rw [kind]; decide) (absurd · (by decide)) ?_
    refine notes_peekedIs.bind fun _ => .ite (angle name) (.returned (by rw [kind]; decide) ?_)
    rw [kind]
    exact (Notes.pure _).weaken (fun _ => id) fun _ => .inr
  · refine .tested (by decide) (by decide) (absurd · (by decide)) ?_ (plain (Notes.pure _).anywhere)
    exact (noting.types _ (by decide)).bind fun _ => plain noting.output.last

/-- A double colon that was put back is taken again. -/
theorem notes_segments (noting : Noting lexemes docs steps) :
    Notes (Segmented lexemes docs) (At lexemes docs .anywhere) (segments (steps + 1)) := by
  rw [segments]
  have more : Notes (At lexemes docs .clear) (At lexemes docs .anywhere) (do
      let first ← segment steps
      return first :: (← segments steps)) :=
    (noting.segment .clear (by decide)).bind fun first => noting.segments.last
  rintro stream value left (stands | stands) read
  · exact Notes.tested (by decide) (by decide) (fun _ => rfl) more (.pure []) stands read
  · exact Notes.resumed more (Pure.pure []) stands read

theorem notes_argument (noting : Noting lexemes docs steps) :
    Notes (At lexemes docs .clear) (At lexemes docs .anywhere) (argument (steps + 1)) := by
  rw [argument]
  have further := noting.type .clear (by decide)
  refine .looked fun token => ?_
  split
  · exact notes_lifetime.anywhere.last.located token
  next kind => exact .moved (by rw [kind]; decide) (by rw [kind]; decide) (absurd · (by decide)) (Notes.pure _).anywhere
  next kind =>
    refine .moved (by rw [kind]; decide) (by rw [kind]; decide) (absurd · (by decide)) ?_
    refine .tested (by decide) (by decide) (absurd · (by decide)) further.last ?_
    refine .tested (by decide) (by decide) (absurd · (by decide)) noting.bounds.last ?_
    exact .returned (by rw [kind]; decide) (noting.type _ (by simp)).last
  · exact further.last.located token

theorem noting (lexemes : List Lexeme) (docs : String) (steps : Nat) : Noting lexemes docs steps := by
  induction steps with
  | zero => constructor <;> intros <;> exact .throw
  | succ steps ih => exact {
      type := fun place ready => notes_typeStep ih ready
      tupleOrGroup := by
        rw [tupleOrGroup]
        refine .tested (by decide) (by decide) (absurd · (by decide)) (.pure _) ((ih.type .clear (by decide)).bind fun first => ?_)
        refine .tested (by decide) (by decide) (fun _ => rfl) (.pure _) ?_
        exact .bind (notes_ensure (by decide) (by decide) fun _ => rfl) fun _ => (ih.types _ (by decide)).last
      types := fun closer closes => by
        have solid : closer.IsSolid := by revert closes; cases closer <;> decide
        have other : closer ≠ .bang := by rintro rfl; exact absurd closes (by decide)
        have single : closer.closer? = none := by revert closes; cases closer <;> decide
        rw [types]
        refine .tested solid other (absurd · (by decide)) (.pure _) ((ih.type .clear (by decide)).bind fun first => ?_)
        refine .tested (by decide) (by decide) (fun _ => rfl) (ih.types closer closes).last ?_
        exact .bind (notes_ensure solid other fun _ => single) fun _ => .pure _
      output := by
        rw [output]
        exact .tested (by decide) (by decide) (absurd · (by decide)) (ih.type .clear (by decide)).last (Notes.pure _).anywhere
      pathOrMacro := fun place ready => by
        rw [pathOrMacro]
        refine (ih.path place ready).bind fun found => notes_peekedIs.bind fun _ => .ite ?_ (.pure _)
        exact (notes_macroGroup _).anywhere
      path := fun place ready => notes_path ih ready
      segments := notes_segments ih
      segment := fun place ready => notes_segment ih ready
      angleArguments := by
        rw [angleArguments]
        exact .bind (notes_ensure (by decide) (by decide) (absurd · (by decide))) fun _ => ih.arguments
      arguments := by
        rw [arguments]
        refine .tested (by decide) (by decide) (absurd · (by decide)) (.pure _) (ih.argument.bind fun first => ?_)
        refine .tested (by decide) (by decide) (fun _ => rfl) ih.arguments.last ?_
        exact .bind (notes_ensure (by decide) (by decide) fun _ => rfl) fun _ => .pure _
      argument := notes_argument ih
      bounds := by
        rw [bounds]
        refine ih.bound.bind fun first => .tested (by decide) (by decide) (fun _ => rfl) ih.bounds.last (.pure _)
      bound := by
        rw [bound]
        refine notes_peekedIs.bind fun _ => .ite notes_lifetime.anywhere.last ?_
        refine .tested (by decide) (by decide) (absurd · (by decide)) ?_ (ih.path .clear (by decide)).last
        refine (ih.path .clear (by decide)).bind fun inner => ?_
        exact .bind (notes_ensure (by decide) (by decide) fun _ => rfl).anywhere fun _ => .pure _ }

end TypeExpr.Parser

end

end CowView
