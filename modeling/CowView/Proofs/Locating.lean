import CowView.Proofs.Enclosure
import CowView.Proofs.Registering

/-!
Where a problem with names is found. `Reaches` is a triple for what a run takes off a stream, also where it fails with
such a problem: the tokens taken and those still to come are the tokens that there were, comments and the end of the
input aside, and the last token taken is the name that is refused, or the bracket behind a list that has a name twice.
Reading a unit then puts the place of the next token in front of the message, and gives way to the fault of the lexer
if there is no such token (`readUnit_places`).
-/

namespace CowView

open TokenStream

/-! ### Faults of the lexer -/

def Fault.IsLexical : Fault → Prop
  | source _ _ (.unclosed _) | source _ _ .lifetimeNameExpected | source _ _ (.invalidCharacter _) => True
  | _ => False

theorem Cursor.next_lexical {cursor after : Cursor} {cause : Fault} (read : cursor.next true = .fault cause after) :
    cause.IsLexical := by
  unfold next at read
  dsimp only at read
  split at read
  next scan comment =>
    rw [if_pos rfl] at comment
    unfold comment? at comment
    split at comment
    · cases comment
      cases read
    · cases comment
      split at read
      · cases read
      · cases read
        trivial
    · cases comment
  · unfold plain at read
    split at read
    · cases read
    · split at read
      · cases read
      · split at read
        · split at read
          · cases read
          · cases read
            trivial
        · split at read
          · cases read
          · split at read
            · cases read
            · cases read
              trivial

/-- The faults that a text is read as are those of the lexer, since the steps are more than the characters. -/
theorem Lexeme.lexical_readWithin (steps : Nat) (cursor : Cursor) (enough : cursor.rest.length < steps) :
    (∀ fault, Lexeme.fault fault ∈ (readWithin steps cursor).1 → fault.IsLexical) ∧
      ∀ fault, (readWithin steps cursor).2 = .stuck fault → fault.IsLexical := by
  induction steps generalizing cursor with
  | zero => exact absurd enough (Nat.not_lt_zero _)
  | succ steps ih =>
    rw [readWithin]
    split
    · exact ⟨by simp, by simp⟩
    next found after read =>
      obtain ⟨blanks, feed, cut⟩ := Cursor.next_cuts read
      have less := cut.length_lt
      have later := ih after (by omega)
      exact ⟨fun fault member => later.1 fault (by simpa using member), later.2⟩
    next cause after read =>
      have own := Cursor.next_lexical read
      split
      next less =>
        have below : cursor.skipBlanks.rest.length ≤ cursor.rest.length := by
          rw [Cursor.skipBlanks, Cursor.drop, List.length_drop]
          omega
        have later := ih after (by omega)
        refine ⟨fun fault member => ?_, later.2⟩
        rcases List.mem_cons.mp member with same | member
        · cases same
          exact own
        · exact later.1 fault member
      · refine ⟨by simp, fun fault same => ?_⟩
        cases same
        exact own

theorem Fault.IsLexical.ne_naming {fault : Fault} (lexical : fault.IsLexical) (problem : DeclarationProblem) :
    fault ≠ .naming problem := by
  rintro rfl
  exact lexical

@[simp] theorem TokenStream.unexpected_ne_naming (token : Token) (expected : List String) (problem : DeclarationProblem) :
    unexpected token expected ≠ .naming problem := by
  simp [unexpected]

@[simp] theorem Annotation.fault_ne_naming (attribution : Attribution) (own : AnnotationProblem) (token : Token)
    (problem : DeclarationProblem) : fault attribution own token ≠ .naming problem := by
  simp [fault]

/-! ### What is taken -/

namespace TokenStream

def counted (stream : TokenStream) : List Lexeme := stream.pending.filter Lexeme.counts

structure Lexical (stream : TokenStream) : Prop where
  fault : ∀ fault, .fault fault ∈ stream.counted → fault.IsLexical
  stuck : ∀ fault, stream.ending = .stuck fault → fault.IsLexical

structure Parts (owed taken : List Token) (stream left : TokenStream) : Prop where
  ending : left.ending = stream.ending
  counted : owed.map .token ++ stream.counted = taken.map .token ++ left.counted

variable {stream between left : TokenStream} {token : Token} {owed taken more : List Token}

theorem lexical_ofText (text : String) : (TokenStream.ofText text).Lexical := by
  have faults := Lexeme.lexical_readWithin _ (Cursor.ofText text) (Nat.lt_succ_self _)
  exact ⟨fun fault member => faults.1 fault (List.mem_filter.mp member).1, faults.2⟩

theorem Parts.lexical (parts : Parts owed taken stream left) (lexical : stream.Lexical) : left.Lexical where
  fault fault member := by
    have own : .fault fault ∈ owed.map Lexeme.token ++ stream.counted := by
      rw [parts.counted]
      exact List.mem_append_right _ member
    exact lexical.fault fault (by simpa using own)
  stuck fault same := lexical.stuck fault (by rw [← parts.ending, same])

theorem Parts.trans (first : Parts owed taken stream between) (second : Parts [] more between left) :
    Parts owed (taken ++ more) stream left where
  ending := second.ending.trans first.ending
  counted := by
    have later : between.counted = more.map .token ++ left.counted := second.counted
    rw [first.counted, later, List.map_append, List.append_assoc]

theorem Parts.refl (stream : TokenStream) : Parts owed owed stream stream := ⟨rfl, rfl⟩

def solidOf (token : Token) : List Token := if token.kind.IsSolid then [token] else []

theorem solidOf_eq (more : token.kind.IsSolid) : solidOf token = [token] := if_pos more

theorem counted_cons (token : Token) (pending : List Lexeme) :
    (Lexeme.token token :: pending).filter Lexeme.counts =
      (solidOf token).map .token ++ pending.filter Lexeme.counts := by
  unfold solidOf
  split
  next more => simp [Lexeme.counts, more]
  next less => simp [Lexeme.counts, less]

@[simp] theorem counted_skipped (stream : TokenStream) : stream.skipped.counted = stream.counted := by
  obtain ⟨pending, ending, docs⟩ := stream
  induction pending generalizing docs with
  | nil => rfl
  | cons lexeme rest ih =>
    cases lexeme with
    | fault fault => rfl
    | token token =>
      cases comment : token.isComment with
      | false =>
        have same : skipped ⟨.token token :: rest, ending, docs⟩ = ⟨.token token :: rest, ending, docs⟩ := by
          simp [skipped, dropComments, comment]
        rw [same]
      | true =>
        have kind : token.kind = .comment := by simpa [Token.isComment] using comment
        have none : solidOf token = [] := by simp [solidOf, TokenKind.IsSolid, kind]
        have same : skipped ⟨.token token :: rest, ending, docs⟩ = skipped ⟨rest, ending,
            if DocComment.isDoc token.value then DocComment.body token.value else docs⟩ := by
          simp [skipped, dropComments, comment]
        rw [same, ih]
        unfold counted
        rw [counted_cons, none]
        rfl

theorem counted_advanced (shown : stream.front? = some token) :
    stream.counted = (solidOf token).map .token ++ stream.advanced.counted := by
  obtain ⟨pending, ending, docs⟩ := stream
  unfold front? at shown
  split at shown
  next first rest same =>
    cases shown
    cases same
    exact counted_cons _ _
  next position same _ =>
    cases shown
    cases same
    rfl
  · cases shown

theorem Lexical.peek (lexical : stream.Lexical) : (∃ token, stream.front? = some token) ∨
    ∃ fault left, TokenStream.peek stream = .error fault left ∧ TokenStream.next stream = .error fault left ∧
      fault.IsLexical ∧ left.Lexical := by
  obtain ⟨pending, ending, docs⟩ := stream
  rcases pending with _ | ⟨token | fault, rest⟩
  · cases ending with
    | finished position => exact .inl ⟨_, rfl⟩
    | stuck fault => exact .inr ⟨_, _, rfl, rfl, lexical.stuck fault rfl, lexical⟩
  · exact .inl ⟨_, rfl⟩
  · refine .inr ⟨_, _, rfl, rfl, lexical.fault fault ?_, fun other member => lexical.fault other ?_, lexical.stuck⟩
    · simp [counted, Lexeme.counts]
    · simp only [counted, Lexeme.counts, List.mem_filter] at member ⊢
      exact ⟨List.mem_cons_of_mem _ member.1, member.2⟩

theorem Lexical.skipped (lexical : stream.Lexical) : stream.skipped.Lexical :=
  ⟨by rw [counted_skipped]; exact lexical.fault, lexical.stuck⟩

/-- The next token that is no comment is there, or a fault of the text. -/
theorem Lexical.current (lexical : stream.Lexical) : (∃ token, stream.skipped.front? = some token) ∨
    ∃ fault left, TokenStream.current stream = .error fault left ∧ fault.IsLexical ∧ left.Lexical := by
  rcases lexical.skipped.peek with shown | ⟨fault, left, read, -, own, behind⟩
  · exact .inl shown
  · exact .inr ⟨fault, left, read, own, behind⟩

end TokenStream

/-! ### Runs that fail at a name -/

def EndsWith (last : Option TokenKind) (tokens : List Token) : Prop :=
  ∀ kind ∈ last, ∃ token, tokens.getLast? = some token ∧ token.kind = kind

/-- What a problem says of the tokens up to it: a name that is refused is the last one of them, and a list in which a
name stands twice has just been closed. -/
def DeclarationProblem.Blames (tokens : List Token) : DeclarationProblem → Prop
  | leadingUnderscore _ name | keyword _ name | reservedMember _ name =>
    ∃ token, tokens.getLast? = some token ∧ token.kind = .identifier ∧ token.value = name
  | repeatedParameter _ => EndsWith (some .greaterThan) tokens
  | repeatedMember .. => EndsWith (some .closeBrace) tokens
  | alreadyDeclared _ => True
  | other _ => False

theorem EndsWith.prepend {last : Option TokenKind} {tokens : List Token} (front : List Token)
    (ends : EndsWith last tokens) : EndsWith last (front ++ tokens) := by
  intro kind member
  obtain ⟨token, final, same⟩ := ends kind member
  exact ⟨token, by rw [List.getLast?_append, final]; rfl, same⟩

theorem endsWith_none (tokens : List Token) : EndsWith none tokens := nofun

theorem endsWith_solidOf {token : Token} {kind : TokenKind} (same : token.kind = kind) (more : kind.IsSolid) :
    EndsWith (some kind) (solidOf token) := by
  rintro _ ⟨⟩
  exact ⟨token, by rw [solidOf_eq (by rwa [same])]; rfl, same⟩

theorem DeclarationProblem.Blames.prepend {problem : DeclarationProblem} {tokens : List Token} (front : List Token)
    (blames : problem.Blames tokens) : problem.Blames (front ++ tokens) := by
  have longer {name : String} : (∃ token, tokens.getLast? = some token ∧ token.kind = .identifier ∧ token.value = name) →
      ∃ token, (front ++ tokens).getLast? = some token ∧ token.kind = .identifier ∧ token.value = name := by
    rintro ⟨token, final, own⟩
    exact ⟨token, by rw [List.getLast?_append, final]; rfl, own⟩
  cases problem with
  | leadingUnderscore role name => exact longer blames
  | keyword role name => exact longer blames
  | reservedMember role name => exact longer blames
  | repeatedParameter name => exact EndsWith.prepend front blames
  | repeatedMember role name owner => exact EndsWith.prepend front blames
  | alreadyDeclared name => trivial
  | other text => exact blames

section

variable {α β : Type} {owed : List Token} {last : Option TokenKind} {kind : TokenKind} {wanted : Option String}
  {stream : TokenStream}

def Reached (owed : List Token) (last : Option TokenKind) (stream : TokenStream) :
    EStateM.Result Fault TokenStream α → Prop
  | .ok _ left => ∃ taken, Parts owed taken stream left ∧ EndsWith last taken
  | .error fault left => left.Lexical ∧
      ∀ problem, fault = .naming problem → ∃ taken, Parts owed taken stream left ∧ problem.Blames taken

/-- Wherever tokens are owed to the stream, the action takes tokens, and blames them for a problem with names. -/
def Reaches (owed : List Token) (last : Option TokenKind) (action : Reading α) : Prop :=
  ∀ stream, stream.Lexical → Reached owed last stream (action stream)

theorem Reached.error {fault : Fault} {left : TokenStream} (lexical : left.Lexical)
    (other : ∀ problem, fault ≠ .naming problem) :
    Reached owed last stream (.error fault left : EStateM.Result Fault TokenStream α) :=
  ⟨lexical, fun problem same => absurd same (other problem)⟩

theorem Reached.after {taken : List Token} {between : TokenStream} {result : EStateM.Result Fault TokenStream α}
    (parts : Parts owed taken stream between) (reached : Reached [] last between result) :
    Reached owed last stream result := by
  cases result with
  | ok value left =>
    obtain ⟨more, later, ends⟩ := reached
    exact ⟨taken ++ more, parts.trans later, ends.prepend taken⟩
  | error fault left =>
    refine ⟨reached.1, fun problem same => ?_⟩
    obtain ⟨more, later, blames⟩ := reached.2 problem same
    exact ⟨taken ++ more, parts.trans later, blames.prepend taken⟩

theorem Reached.borrow {left : TokenStream} {result : EStateM.Result Fault TokenStream α}
    (ending : left.ending = stream.ending) (counted : stream.counted = owed.map .token ++ left.counted)
    (reached : Reached owed last left result) : Reached [] last stream result := by
  have whole {taken : List Token} {behind : TokenStream} (parts : Parts owed taken left behind) :
      Parts [] taken stream behind :=
    ⟨parts.ending.trans ending, by rw [List.map_nil, List.nil_append, counted, parts.counted]⟩
  cases result with
  | ok value behind => exact reached.imp fun taken found => ⟨whole found.1, found.2⟩
  | error fault behind =>
    exact ⟨reached.1, fun problem same => (reached.2 problem same).imp fun taken found => ⟨whole found.1, found.2⟩⟩

/-- A stream that differs only in its comments and its documentation. -/
theorem Reached.same {left : TokenStream} {result : EStateM.Result Fault TokenStream α}
    (ending : left.ending = stream.ending) (counted : left.counted = stream.counted)
    (reached : Reached owed last left result) : Reached owed last stream result := by
  have whole {taken : List Token} {behind : TokenStream} (parts : Parts owed taken left behind) :
      Parts owed taken stream behind := ⟨parts.ending.trans ending, by rw [← counted, parts.counted]⟩
  cases result with
  | ok value behind => exact reached.imp fun taken found => ⟨whole found.1, found.2⟩
  | error fault behind =>
    exact ⟨reached.1, fun problem same => (reached.2 problem same).imp fun taken found => ⟨whole found.1, found.2⟩⟩

theorem Reached.advanced {token : Token} {action : Reading α} (shown : stream.front? = some token)
    (lexical : stream.Lexical) (later : Reaches (solidOf token) last action) :
    Reached owed last stream (action stream.advanced) := by
  have parts : Parts [] (solidOf token) stream stream.advanced := ⟨rfl, counted_advanced shown⟩
  have own : Reached [] last stream (action stream.advanced) :=
    .borrow (show stream.advanced.ending = stream.ending from rfl) (counted_advanced shown) (later _ (parts.lexical lexical))
  exact .after (.refl stream) own

namespace Reaches

variable {action : Reading α} {next : α → Reading β}

theorem pure {value : α} (ends : EndsWith last owed) : Reaches owed last (Pure.pure value : Reading α) :=
  fun stream _ => ⟨owed, .refl stream, ends⟩

theorem throw {fault : Fault} (other : ∀ problem, fault ≠ .naming problem) :
    Reaches owed last (throw fault : Reading α) :=
  fun _ lexical => .error lexical other

theorem bind (first : Reaches owed none action) (later : ∀ found, Reaches [] last (next found)) :
    Reaches owed last (action >>= next) := by
  intro stream lexical
  have reached := first stream lexical
  rw [bind_apply]
  cases run : action stream with
  | ok found between =>
    rw [run] at reached
    obtain ⟨taken, parts, -⟩ := reached
    exact .after parts (later found between (parts.lexical lexical))
  | error fault left =>
    rw [run] at reached
    exact reached

theorem map {change : α → β} (first : Reaches owed last action) : Reaches owed last (change <$> action) := by
  intro stream lexical
  have reached := first stream lexical
  change Reached owed last stream (EStateM.map change action stream)
  unfold EStateM.map
  cases run : action stream with
  | ok value left => rwa [run] at reached
  | error fault left => rwa [run] at reached

theorem given {change : α → β} (first : Reaches owed last action) :
    Reaches owed last (action >>= fun found => Pure.pure (change found)) := by
  rw [bind_pure_comp]
  exact first.map

theorem owing (first : Reaches [] last action) : Reaches owed last action :=
  fun stream lexical => .after (.refl stream) (first stream lexical)

theorem ite {condition : Prop} [Decidable condition] {yes no : Reading α} (first : Reaches owed last yes)
    (second : Reaches owed last no) : Reaches owed last (if condition then yes else no) := by
  split
  · exact first
  · exact second

theorem get {next : TokenStream → Reading β} (later : ∀ stream, Reaches owed last (next stream)) :
    Reaches owed last (get >>= next) :=
  fun stream lexical => later stream stream lexical

/-- A token is taken, and is owed to the stream until it is known whether it is put back. -/
theorem moved {next : Token → Reading β} (later : ∀ token, Reaches (solidOf token) last (next token)) :
    Reaches [] last (TokenStream.next >>= next) := by
  intro stream lexical
  rw [bind_apply]
  rcases lexical.peek with ⟨token, shown⟩ | ⟨fault, left, -, read, own, behind⟩
  · rw [next_eq_ok_iff.mpr ⟨shown, rfl⟩]
    exact Reached.advanced shown lexical (later token)
  · rw [read]
    exact .error behind (own.ne_naming)

/-- What was owed is put back. -/
theorem returned {token : Token} {next : Unit → Reading β} (later : Reaches [] last (next ())) :
    Reaches (solidOf token) last (unget token >>= next) := by
  intro stream lexical
  have counted : counted { stream with pending := .token token :: stream.pending } =
      (solidOf token).map .token ++ stream.counted := counted_cons _ _
  have whole : Lexical { stream with pending := .token token :: stream.pending } := by
    refine ⟨fun fault member => lexical.fault fault ?_, lexical.stuck⟩
    rw [counted] at member
    simpa using member
  have reached := later _ whole
  change Reached _ _ _ (next () { stream with pending := .token token :: stream.pending })
  have parts {taken : List Token} {left : TokenStream}
      (parts : Parts [] taken { stream with pending := .token token :: stream.pending } left) :
      Parts (solidOf token) taken stream left := ⟨parts.ending, by rw [← counted]; exact parts.counted⟩
  cases run : next () { stream with pending := .token token :: stream.pending } with
  | ok value left =>
    rw [run] at reached
    exact reached.imp fun taken found => ⟨parts found.1, found.2⟩
  | error fault left =>
    rw [run] at reached
    exact ⟨reached.1, fun problem same => (reached.2 problem same).imp fun taken found => ⟨parts found.1, found.2⟩⟩

theorem looked {next : Token → Reading β} (later : ∀ token, Reaches owed last (next token)) :
    Reaches owed last (current >>= next) := by
  intro stream lexical
  rw [bind_apply]
  rcases lexical.current with ⟨token, shown⟩ | ⟨fault, left, read, own, behind⟩
  · rw [current_eq_ok_iff.mpr ⟨shown, rfl⟩]
    exact .same (show stream.skipped.ending = stream.ending from rfl) stream.counted_skipped (later token _ lexical.skipped)
  · rw [read]
    exact .error behind (own.ne_naming)

theorem peeked {next : Token → Reading β} (later : ∀ token, Reaches owed last (next token)) :
    Reaches owed last (peek >>= next) := by
  intro stream lexical
  rw [bind_apply]
  rcases lexical.peek with ⟨token, shown⟩ | ⟨fault, left, read, -, own, behind⟩
  · rw [peek_eq_ok_iff.mpr ⟨shown, rfl⟩]
    exact later token stream lexical
  · rw [read]
    exact .error behind (own.ne_naming)

theorem glanced {next : Bool → Reading β} (later : ∀ found, Reaches owed last (next found)) :
    Reaches owed last (peekedIs kind wanted >>= next) := by
  intro stream lexical
  rw [bind_apply]
  rcases lexical.current with ⟨token, shown⟩ | ⟨fault, left, read, own, behind⟩
  · rw [peekedIs_eq_ok_iff.mpr ⟨token, shown, rfl, rfl⟩]
    exact .same (show stream.skipped.ending = stream.ending from rfl) stream.counted_skipped (later _ _ lexical.skipped)
  · rw [peekedIs_error read]
    exact .error behind (own.ne_naming)

theorem tested {next : Bool → Reading β} (yes : ∀ token, token.kind = kind → Reaches (solidOf token) last (next true))
    (no : Reaches owed last (next false)) : Reaches owed last (nextIs kind wanted >>= next) := by
  intro stream lexical
  rw [bind_apply]
  rcases lexical.current with ⟨token, shown⟩ | ⟨fault, left, read, own, behind⟩
  · rw [nextIs_eq_ok_iff.mpr ⟨token, shown, rfl, rfl⟩]
    refine .same (show stream.skipped.ending = stream.ending from rfl) stream.counted_skipped ?_
    cases fit : fits kind wanted token with
    | true => exact Reached.advanced shown lexical.skipped (yes token (kind_of_fits fit))
    | false => exact no _ lexical.skipped
  · rw [nextIs_error read]
    exact .error behind (own.ne_naming)

theorem ensured {next : String → Reading β}
    (later : ∀ token : Token, token.kind = kind → Reaches (solidOf token) last (next token.value)) :
    Reaches owed last (ensure kind wanted >>= next) := by
  intro stream lexical
  rw [bind_apply]
  rcases lexical.current with ⟨token, shown⟩ | ⟨fault, left, read, own, behind⟩
  · refine .same (show stream.skipped.ending = stream.ending from rfl) stream.counted_skipped ?_
    cases fit : fits kind wanted token with
    | true =>
      rw [ensure_eq_ok_iff.mpr ⟨token, shown, fit, rfl, rfl⟩]
      exact Reached.advanced shown lexical.skipped (later token (kind_of_fits fit))
    | false =>
      rw [ensure_eq_error shown fit]
      exact .error lexical.skipped nofun
  · have failed : ensure kind wanted false stream = .error fault left := by
      unfold ensure
      rw [bind_apply, peekedIs_error read]
    rw [failed]
    exact .error behind (own.ne_naming)

theorem expected {next : String → Reading β} (later : ∀ value, Reaches [] last (next value)) :
    Reaches owed last (ensure kind wanted >>= next) :=
  .ensured fun token _ => (later token.value).owing

theorem closed (more : kind.IsSolid) (value : α) : Reaches owed (some kind) (ensure kind wanted >>= fun _ => Pure.pure value) :=
  .ensured fun _ own => .pure (endsWith_solidOf own more)

theorem ended (value : α) : Reaches owed none (Pure.pure value : Reading α) := .pure (endsWith_none owed)

/-- A list that is closed is gone through for a name that stands twice. -/
theorem distinct {names : α → List String} {problem : String → DeclarationProblem} {change : α → β}
    (first : Reaches owed (some kind) action)
    (blames : ∀ name taken, EndsWith (some kind) taken → (problem name).Blames taken) :
    Reaches owed none (action >>= fun found =>
      Declaration.Parser.ensureDistinct (names found) problem >>= fun _ => Pure.pure (change found)) := by
  intro stream lexical
  have reached := first stream lexical
  rw [bind_apply]
  cases run : action stream with
  | ok found left =>
    rw [run] at reached
    obtain ⟨taken, parts, ends⟩ := reached
    dsimp only
    rw [bind_apply, Declaration.Parser.ensureDistinct]
    cases firstRepeated? [] (names found) with
    | none => exact ⟨taken, parts, endsWith_none taken⟩
    | some name =>
      refine ⟨parts.lexical lexical, fun problem same => ⟨taken, parts, ?_⟩⟩
      cases same
      exact blames name taken ends
  | error fault left =>
    rw [run] at reached
    exact reached

end Reaches

/-! ### Types -/

namespace TypeExpr.Parser

variable {steps : Nat}

theorem reaches_lifetime : Reaches owed none lifetime := by
  refine .expected fun value => ?_
  split
  · exact .ended _
  · exact .throw (by simp)

theorem reaches_constant : Reaches owed none constant := by
  refine .looked fun token => ?_
  split
  · exact .owing (.moved fun _ => .ended _)
  · exact .owing (.moved fun _ => .ended _)
  · exact .throw (by simp)

theorem reaches_readWithin (steps : Nat) (awaited : List TokenKind) (values : List String) :
    Reaches owed none (TokenGroup.readWithin steps awaited values) := by
  induction steps generalizing owed awaited values with
  | zero => exact .throw (by simp)
  | succ steps ih =>
    cases awaited with
    | nil => exact .ended _
    | cons closer outer =>
      rw [TokenGroup.readWithin_succ]
      exact .owing (.moved fun token => .ite (.ended _) (ih _ _))

theorem reaches_macroGroup (path : String) : Reaches owed none (macroGroup path) := by
  refine .expected fun _ => .moved fun opening => ?_
  split
  · exact .throw (by simp)
  · refine .get fun stream => (reaches_readWithin _ _ _).bind fun values => ?_
    split
    · exact .ended _
    · exact .throw (by simp)

/-- The functions of the parser report no problem with names. -/
structure Reaching (steps : Nat) : Prop where
  type : Reaches [] none (type steps)
  tupleOrGroup : Reaches [] none (tupleOrGroup steps)
  types : ∀ closer, Reaches [] none (types closer steps)
  output : Reaches [] none (output steps)
  pathOrMacro : Reaches [] none (pathOrMacro steps)
  path : Reaches [] none (path steps)
  segments : Reaches [] none (segments steps)
  segment : Reaches [] none (segment steps)
  angleArguments : Reaches [] none (angleArguments steps)
  arguments : Reaches [] none (arguments steps)
  argument : Reaches [] none (argument steps)
  bounds : Reaches [] none (bounds steps)
  bound : Reaches [] none (bound steps)

theorem reaches_typeStep (reaching : Reaching steps) : Reaches [] none (type (steps + 1)) := by
  rw [type]
  refine .looked fun token => ?_
  split
  · exact .moved fun _ => reaching.tupleOrGroup.owing
  · refine .moved fun _ => reaching.type.owing.bind fun element => .tested (fun _ _ => ?_) (.expected fun _ => .ended _)
    exact reaches_constant.bind fun _ => .expected fun _ => .ended _
  · have element (duration : Option Lifetime) : Reaches [] none (do
        let isMutable ← nextIs .identifier (some "mut")
        return TypeExpr.reference duration isMutable (← type steps)) :=
      .tested (fun _ _ => reaching.type.owing.bind fun _ => .ended _) (reaching.type.bind fun _ => .ended _)
    refine .moved fun _ => .glanced fun found => ?_
    cases found with
    | true => exact Reaches.bind (.map reaches_lifetime) element
    | false => exact (element none).owing
  · refine .moved fun _ => .tested (fun _ _ => ?_) (.expected fun _ => ?_)
    · exact reaching.type.owing.bind fun _ => .ended _
    · exact reaching.type.bind fun _ => .ended _
  · exact .moved fun _ => .ended _
  · exact reaching.pathOrMacro
  · split
    · exact .moved fun _ => .ended _
    · refine .moved fun _ => .expected fun _ => (reaching.types _).bind fun _ => ?_
      exact reaching.output.bind fun _ => .ended _
    · exact .moved fun _ => reaching.bounds.owing.bind fun _ => .ended _
    · exact .moved fun _ => reaching.bounds.owing.bind fun _ => .ended _
    · exact reaching.pathOrMacro
  · exact .throw (by simp)

theorem reaches_path (reaching : Reaching steps) : Reaches [] none (path (steps + 1)) := by
  rw [path]
  have segmented (result : Segment → List Segment → Reading Path)
      (gives : ∀ first rest, Reaches [] none (result first rest)) : Reaches [] none (do
        let first ← segment steps
        let rest ← segments steps
        result first rest) :=
    reaching.segment.bind fun first => reaching.segments.bind fun rest => gives first rest
  have remaining (result : Segment → List Segment → Reading Path)
      (gives : ∀ first rest, Reaches [] none (result first rest)) : Reaches [] none (do
        let _ ← ensure .greaterThan
        let _ ← ensure .doubleColon
        let first ← segment steps
        let rest ← segments steps
        result first rest) :=
    .expected fun _ => .expected fun _ => segmented _ gives
  refine .tested (fun _ _ => ?_) (segmented _ fun _ _ => .ended _)
  refine reaching.type.owing.bind fun subject => .tested (fun _ _ => ?_) (remaining _ fun _ _ => .ended _)
  refine Reaches.bind (.map reaching.path.owing) fun trait => remaining _ fun _ _ => ?_
  split
  · exact .ended _
  · exact .ended _

theorem reaches_segment (reaching : Reaching steps) : Reaches [] none (segment (steps + 1)) := by
  rw [segment]
  have angle (name : String) : Reaches [] none (do
      let found ← angleArguments steps
      return Segment.angle name found) := reaching.angleArguments.bind fun _ => .ended _
  refine .expected fun name => .glanced fun found => .ite (angle name) (.glanced fun found => .ite ?_ ?_)
  · refine .moved fun colons => .glanced fun found => .ite (angle name).owing ?_
    exact .returned (.ended _)
  · refine .tested (fun _ _ => ?_) (.ended _)
    exact (reaching.types _).owing.bind fun _ => reaching.output.bind fun _ => .ended _

theorem reaches_argument (reaching : Reaching steps) : Reaches [] none (argument (steps + 1)) := by
  rw [argument]
  refine .looked fun token => ?_
  split
  · exact reaches_lifetime.bind fun _ => .ended _
  · exact .moved fun _ => .ended _
  · refine .moved fun name => .tested (fun _ _ => ?_) (.tested (fun _ _ => ?_) (.returned ?_))
    · exact reaching.type.owing.bind fun _ => .ended _
    · exact reaching.bounds.owing.bind fun _ => .ended _
    · exact reaching.type.bind fun _ => .ended _
  · exact reaching.type.bind fun _ => .ended _

theorem reaching (steps : Nat) : Reaching steps := by
  induction steps with
  | zero => constructor <;> intros <;> exact .throw (by simp)
  | succ steps ih => exact {
      type := reaches_typeStep ih
      tupleOrGroup := by
        rw [tupleOrGroup]
        refine .tested (fun _ _ => .ended _) (ih.type.bind fun first => ?_)
        exact .tested (fun _ _ => .ended _) (.expected fun _ => (ih.types _).bind fun _ => .ended _)
      types := fun closer => by
        rw [types]
        refine .tested (fun _ _ => .ended _) (ih.type.bind fun first => ?_)
        exact .tested (fun _ _ => (ih.types _).owing.bind fun _ => .ended _) (.expected fun _ => .ended _)
      output := by
        rw [output]
        exact .tested (fun _ _ => ih.type.owing.bind fun _ => .ended _) (.ended _)
      pathOrMacro := by
        rw [pathOrMacro]
        exact ih.path.bind fun found => .glanced fun _ => .ite (reaches_macroGroup _) (.ended _)
      path := reaches_path ih
      segments := by
        rw [segments]
        refine .tested (fun _ _ => ?_) (.ended _)
        exact ih.segment.owing.bind fun first => ih.segments.bind fun _ => .ended _
      segment := reaches_segment ih
      angleArguments := by
        rw [angleArguments]
        exact .expected fun _ => ih.arguments
      arguments := by
        rw [arguments]
        refine .tested (fun _ _ => .ended _) (ih.argument.bind fun first => ?_)
        exact .tested (fun _ _ => ih.arguments.owing.bind fun _ => .ended _) (.expected fun _ => .ended _)
      argument := reaches_argument ih
      bounds := by
        rw [bounds]
        exact ih.bound.bind fun first => .tested (fun _ _ => ih.bounds.owing.bind fun _ => .ended _) (.ended _)
      bound := by
        rw [bound]
        refine .glanced fun found => .ite (reaches_lifetime.bind fun _ => .ended _) (.tested (fun _ _ => ?_) ?_)
        · exact ih.path.owing.bind fun _ => .expected fun _ => .ended _
        · exact ih.path.bind fun _ => .ended _ }

end TypeExpr.Parser

theorem reaches_type : Reaches [] none TypeExpr.parse := .get fun _ => (TypeExpr.Parser.reaching _).type

theorem reaches_bounds : Reaches [] none TypeExpr.parseBounds := .get fun _ => (TypeExpr.Parser.reaching _).bounds

/-! ### Annotations -/

namespace Annotation

variable {attribution : Attribution}

theorem reaches_failHere (problem : AnnotationProblem) : Reaches owed last (failHere attribution problem : Reading α) :=
  .peeked fun _ => .throw (by simp)

theorem reaches_orOnSource {action other : Reading α} (first : Reaches owed last action)
    (second : ∀ stream, stream.Lexical → ∃ fault left, other stream = .error fault left ∧ left.Lexical ∧
      ∀ problem, fault ≠ .naming problem) : Reaches owed last (orOnSource action other) := by
  intro stream lexical
  have reached := first stream lexical
  unfold orOnSource
  split
  next line column problem left run =>
    rw [run] at reached
    obtain ⟨fault, behind, failed, still, own⟩ := second left reached.1
    rw [failed]
    exact .error still own
  · exact reached

theorem failHere_refuses (problem : AnnotationProblem) (stream : TokenStream) (lexical : stream.Lexical) :
    ∃ fault left, (failHere attribution problem : Reading α) stream = .error fault left ∧ left.Lexical ∧
      ∀ problem, fault ≠ .naming problem := by
  unfold failHere
  rw [bind_apply]
  rcases lexical.peek with ⟨token, shown⟩ | ⟨fault, left, read, -, own, behind⟩
  · rw [peek_eq_ok_iff.mpr ⟨shown, rfl⟩]
    exact ⟨_, _, rfl, lexical, nofun⟩
  · rw [read]
    exact ⟨_, _, rfl, behind, own.ne_naming⟩

theorem reaches_item (mark : Annotation) (isFirst : Bool) (token : Token) :
    Reaches [] none (item attribution mark isFirst token) := by
  have subject : Reaches [] none subject :=
    .glanced fun _ => .ite (TypeExpr.Parser.reaches_lifetime.bind fun _ => .ended _) reaches_type
  refine (reaches_orOnSource subject fun stream lexical =>
    ⟨fault attribution .itemExpected token, stream, rfl, lexical, nofun⟩).bind fun found => ?_
  refine .tested (fun _ _ => ?_) ?_
  · exact (reaches_orOnSource reaches_bounds (failHere_refuses _)).owing.bind fun _ => .ended _
  · rw [if_neg Bool.false_ne_true]
    split
    · exact .ite (.ended _) (.throw (by simp))
    · exact reaches_failHere _

theorem reaches_items (steps : Nat) (mark : Annotation) (isFirst : Bool) :
    Reaches [] none (items attribution steps mark isFirst) := by
  induction steps generalizing mark isFirst with
  | zero => exact .throw (by simp)
  | succ steps ih =>
    refine .tested (fun _ _ => .ended _) (.peeked fun token => .ite (.throw (by simp)) ?_)
    refine (reaches_item _ _ _).bind fun mark => .tested (fun _ _ => (ih _ _).owing) ?_
    exact .tested (fun _ _ => .ended _) (reaches_failHere _)

theorem reaches_parse : Reaches [] none (parse attribution) := by
  have named (start : Token) : Reaches [] none (do
      let name ← ensure .identifier
      if name ≠ keyword then
        throw (fault attribution (.unknownName name) start)
      let mark : Annotation := ⟨none, [], start.position⟩
      if ← nextIs .openParen then
        items attribution ((← get).pending.length + 1) mark true
      else
        return mark) := by
    refine .expected fun name => .ite (.throw (by simp)) (.tested (fun _ _ => ?_) (.ended _))
    exact .get fun _ => (reaches_items _ _ _).owing
  refine .moved fun start => .glanced fun found => .ite ?_ (named start).owing
  exact (reaches_failHere _).bind fun _ => named start

theorem reaches_parseAllFrom (steps : Nat) (found : Option Annotation) :
    Reaches [] none (parseAllFrom attribution steps found) := by
  induction steps generalizing found with
  | zero => exact .throw (by simp)
  | succ steps ih =>
    refine .glanced fun _ => .ite (.peeked fun token => reaches_parse.bind fun mark => ?_) (.ended _)
    exact .ite (.throw (by simp)) (ih _)

theorem reaches_parseAll : Reaches [] none (parseAll attribution) := .get fun _ => reaches_parseAllFrom _ _

end Annotation

/-! ### Declarations -/

/-- Looking for the name of a field leaves what counts as it is. -/
theorem lookaheadFrom_parts {steps : Nat} {depth : Int} {seen : List Token} {stream left : TokenStream}
    {found : Option String × List Token} (read : lookaheadFrom steps depth seen stream = .ok found left) :
    left.ending = stream.ending ∧ (seen.reverse.map Lexeme.token ++ stream.pending).filter Lexeme.counts =
      (found.2.reverse.map Lexeme.token ++ left.pending).filter Lexeme.counts := by
  induction steps generalizing depth seen stream with
  | zero => cases read
  | succ steps ih =>
    unfold lookaheadFrom at read
    obtain ⟨token, between, first, read⟩ := bind_eq_ok read
    obtain ⟨shown, rfl⟩ := next_eq_ok_iff.mp first
    have moved : (seen.reverse.map Lexeme.token ++ stream.pending).filter Lexeme.counts =
        ((token :: seen).reverse.map Lexeme.token ++ stream.advanced.pending).filter Lexeme.counts := by
      have own := counted_advanced shown
      unfold counted at own
      rw [List.filter_append, own, List.reverse_cons, List.map_append, List.append_assoc, List.filter_append]
      exact congrArg _ (counted_cons token _).symm
    have further {depth : Int} (read : lookaheadFrom steps depth (token :: seen) stream.advanced = .ok found left) :
        left.ending = stream.ending ∧ (seen.reverse.map Lexeme.token ++ stream.pending).filter Lexeme.counts =
          (found.2.reverse.map Lexeme.token ++ left.pending).filter Lexeme.counts := by
      obtain ⟨ending, kept⟩ := ih read
      exact ⟨ending, moved.trans kept⟩
    cases kind : token.kind
    case endOfInput =>
      rw [kind] at read
      cases read
      exact ⟨rfl, moved⟩
    case identifier =>
      rw [kind] at read
      dsimp only at read
      split at read
      · cases read
        exact ⟨rfl, moved⟩
      · exact further read
    all_goals
      rw [kind] at read
      exact further read

theorem reaches_lookaheadFrom (steps : Nat) (depth : Int) (seen : List Token) :
    Reaches [] none (lookaheadFrom steps depth seen) := by
  induction steps generalizing depth seen with
  | zero => exact .throw (by simp)
  | succ steps ih =>
    refine .moved fun token => ?_
    split
    · exact .ended _
    · exact (ih _ _).owing
    · exact (ih _ _).owing
    · exact .ite (.ended _) (ih _ _).owing
    · exact (ih _ _).owing

theorem reaches_lookaheadFieldName : Reaches [] none lookaheadFieldName := by
  refine .get fun place stream lexical => ?_
  rw [bind_apply]
  cases run : lookaheadFrom (place.pending.length + 1) 0 [] stream with
  | ok found left =>
    obtain ⟨ending, kept⟩ := lookaheadFrom_parts run
    dsimp only
    rw [bind_apply, forM_unget]
    exact ⟨[], ⟨ending, kept⟩, endsWith_none _⟩
  | error fault left =>
    have reached := reaches_lookaheadFrom (place.pending.length + 1) 0 [] stream lexical
    rw [run] at reached
    exact reached

theorem blames_of_nameProblem? {role : String} {isMember : Bool} {problem : DeclarationProblem} {token : Token}
    (kind : token.kind = .identifier) (refused : nameProblem? role token.value isMember = some problem) :
    problem.Blames (solidOf token) := by
  have own : ∃ last, (solidOf token).getLast? = some last ∧ last.kind = .identifier ∧ last.value = token.value :=
    ⟨token, by rw [solidOf_eq (by rw [kind]; decide)]; rfl, kind, rfl⟩
  unfold nameProblem? at refused
  split at refused
  · cases refused
    exact own
  · split at refused
    · cases refused
      exact own
    · split at refused
      · cases refused
        exact own
      · cases refused

namespace Declaration.Parser

theorem reaches_introduced (role : String) (isMember : Bool) : Reaches owed none (introduced role isMember) := by
  refine .ensured fun token kind => ?_
  split
  · exact .ended _
  next fault failed =>
    refine fun stream lexical => ⟨lexical, fun problem same => ⟨_, .refl stream, ?_⟩⟩
    rw [same] at failed
    unfold publicName at failed
    split at failed
    next refused =>
      cases failed
      exact blames_of_nameProblem? kind refused
    · cases failed

theorem reaches_parameterBounds : Reaches [] none parameterBounds :=
  .tested (fun _ _ => reaches_bounds.owing) (.ended _)

theorem reaches_parameter : Reaches [] none parameter := by
  refine .glanced fun _ => .ite ?_ (.tested (fun _ _ => ?_) ?_)
  · exact TypeExpr.Parser.reaches_lifetime.bind fun _ => reaches_parameterBounds.bind fun _ => .ended _
  · exact .expected fun _ => .expected fun _ => reaches_type.bind fun _ => .ended _
  · exact (reaches_introduced _ _).bind fun _ => reaches_parameterBounds.bind fun _ => .ended _

theorem reaches_parameters (steps : Nat) : Reaches [] (some .greaterThan) (parameters steps) := by
  induction steps with
  | zero => exact .throw (by simp)
  | succ steps ih =>
    refine .tested (fun token kind => .pure (endsWith_solidOf kind (by decide))) (reaches_parameter.bind fun first => ?_)
    exact .tested (fun _ _ => ih.owing.given) (.closed (by decide) _)

theorem reaches_generics : Reaches [] none generics := by
  refine .tested (fun _ _ => .get fun stream => ?_) (.ended _)
  exact (reaches_parameters _).owing.distinct fun _ _ ends => ends

theorem reaches_field (owner : String) (name : Option String) (index : Nat) (type : TypeExpr)
    (mark : Option Annotation) (docs : String) : Reaches [] none (field owner name index type mark docs) := by
  unfold field
  dsimp only
  split
  · exact .ended _
  · exact .throw (by simp)

theorem reaches_lastDocs : Reaches [] none (lastDocs true) :=
  fun _ _ => ⟨[], ⟨rfl, rfl⟩, endsWith_none _⟩

theorem reaches_namedField (owner : String) (index : Nat) : Reaches [] none (namedField owner index) := by
  have remaining (label : Option String) : Reaches [] none (do
      let docsBefore ← lastDocs
      let mark ← Annotation.parseAll ⟨some owner, label⟩
      let docsAfter ← lastDocs
      let docs := if docsAfter.isEmpty then docsBefore else docsAfter
      let name ← introduced "field" true
      let _ ← ensure .colon
      field owner (some name) index (← TypeExpr.parse) mark docs) := by
    refine reaches_lastDocs.bind fun before => Annotation.reaches_parseAll.bind fun mark =>
      reaches_lastDocs.bind fun docs => (reaches_introduced _ _).bind fun name => ?_
    exact .expected fun _ => reaches_type.bind fun _ => reaches_field _ _ _ _ _ _
  exact .glanced fun _ => .ite (reaches_lookaheadFieldName.bind remaining) (remaining none)

theorem reaches_tupleField (owner : String) (index : Nat) : Reaches [] none (tupleField owner index) :=
  .glanced fun _ => reaches_lastDocs.bind fun _ => Annotation.reaches_parseAll.bind fun _ =>
    reaches_type.bind fun _ => reaches_field _ _ _ _ _ _

theorem reaches_comma {next : Bool → Reading β} (later : ∀ found, Reaches [] last (next found)) :
    Reaches [] last (nextIs kind wanted >>= next) :=
  .tested (fun _ _ => (later true).owing) (later false)

theorem reaches_namedFields (owner : String) (steps index : Nat) :
    Reaches [] (some .closeBrace) (namedFields owner steps index) := by
  induction steps generalizing index with
  | zero => exact .throw (by simp)
  | succ steps ih =>
    refine .tested (fun token kind => .pure (endsWith_solidOf kind (by decide))) ?_
    exact (reaches_namedField _ _).bind fun first => reaches_comma fun _ => (ih _).given

theorem reaches_tupleFields (owner : String) (steps index : Nat) : Reaches [] none (tupleFields owner steps index) := by
  induction steps generalizing index with
  | zero => exact .throw (by simp)
  | succ steps ih =>
    refine .tested (fun _ _ => .ended _) ((reaches_tupleField _ _).bind fun first => ?_)
    exact .tested (fun _ _ => (ih _).owing.given) (.expected fun _ => .ended _)

theorem reaches_fieldList (owner : String) : Reaches [] none (fieldList owner) := by
  refine .tested (fun _ _ => .get fun stream => ?_) (.tested (fun _ _ => .get fun stream => ?_) (.ended _))
  · exact (reaches_namedFields _ _ _).owing.distinct fun _ _ ends => ends
  · exact (reaches_tupleFields _ _ _).owing.given

theorem reaches_variant (owner : String) : Reaches [] none (variant owner) :=
  .glanced fun _ => reaches_lastDocs.bind fun _ =>
    (reaches_introduced _ _).bind fun _ => (reaches_fieldList _).bind fun _ => .ended _

theorem reaches_variants (owner : String) (steps : Nat) : Reaches [] (some .closeBrace) (variants owner steps) := by
  induction steps with
  | zero => exact .throw (by simp)
  | succ steps ih =>
    refine .tested (fun token kind => .pure (endsWith_solidOf kind (by decide))) ?_
    exact (reaches_variant _).bind fun first => reaches_comma fun _ => ih.given

theorem reaches_union (owner : String) : Reaches [] none (union owner) :=
  .expected fun _ => .get fun _ => (reaches_variants _ _).distinct fun _ _ ends => ends

theorem reaches_consume : Reaches [] none (consume kind) := by
  have within (steps : Nat) : Reaches [] none (consumeWithin kind steps) := by
    induction steps with
    | zero => exact .throw (by simp)
    | succ steps ih => exact .tested (fun _ _ => ih.owing) (.ended _)
  exact .get fun _ => within _

theorem reaches_qualifiedName : Reaches [] none (TokenStream.qualifiedName .dot) := by
  have further (steps : Nat) (name : String) : Reaches [] none (qualifiedNameFrom .dot steps name) := by
    induction steps generalizing name with
    | zero => exact .throw (by simp)
    | succ steps ih => exact .tested (fun _ _ => .expected fun _ => ih _) (.ended _)
  exact .expected fun _ => .get fun _ => further _ _

end Declaration.Parser

/-! ### Units -/

def UnitReaches (action : UnitReading α) : Prop :=
  ∀ state : UnitState, state.stream.Lexical → Reached [] none state.stream (onTokens (action state))

namespace UnitReaches

variable {action : UnitReading α} {next : α → UnitReading β}

theorem pure (value : α) : UnitReaches (pure value) := fun _ _ => ⟨[], .refl _, endsWith_none _⟩

theorem throw {fault : Fault} (other : ∀ problem, fault ≠ .naming problem) : UnitReaches (throw fault : UnitReading α) :=
  fun _ lexical => .error lexical other

theorem onStream {action : Reading α} (reaches : Reaches [] none action) : UnitReaches (UnitReading.onStream action) := by
  intro state lexical
  have reached := reaches state.stream lexical
  unfold UnitReading.onStream
  cases run : action state.stream with
  | ok value left => rwa [run] at reached
  | error fault left => rwa [run] at reached

theorem bind (first : UnitReaches action) (later : ∀ found, UnitReaches (next found)) : UnitReaches (action >>= next) := by
  intro state lexical
  have reached := first state lexical
  rw [UnitReading.bind_apply]
  cases run : action state with
  | ok value left =>
    rw [run] at reached
    obtain ⟨taken, parts, -⟩ := reached
    exact .after parts (later value left (parts.lexical lexical))
  | error fault left => rwa [run] at reached

theorem map {change : α → β} (first : UnitReaches action) : UnitReaches (change <$> action) := by
  intro state lexical
  have reached := first state lexical
  change Reached [] none _ (onTokens (EStateM.map change action state))
  unfold EStateM.map
  cases run : action state with
  | ok value left => rwa [run] at reached
  | error fault left => rwa [run] at reached

theorem ite {condition : Prop} [Decidable condition] {yes no : UnitReading α} (first : UnitReaches yes)
    (second : UnitReaches no) : UnitReaches (if condition then yes else no) := by
  split
  · exact first
  · exact second

theorem get {next : UnitState → UnitReading β} (later : ∀ state, UnitReaches (next state)) :
    UnitReaches (MonadState.get >>= next) :=
  fun state lexical => later state state lexical

theorem modify {change : UnitState → UnitState} (same : ∀ state, (change state).stream = state.stream) :
    UnitReaches (modify change) := by
  intro state _
  have kept : (change state).stream = state.stream := same state
  change Reached [] none state.stream (.ok () (change state).stream)
  rw [kept]
  exact ⟨[], .refl _, endsWith_none _⟩

theorem note (event : Event) : UnitReaches (UnitReading.note event) := modify fun _ => rfl

end UnitReaches

namespace Declaration.Parser

theorem unitReaches_register (declaration : Declaration) : UnitReaches (register declaration) := by
  refine .get fun state => .ite ?_ ((UnitReaches.note _).bind fun _ => .modify fun _ => rfl)
  refine fun state lexical => ⟨lexical, fun problem same => ⟨[], .refl _, ?_⟩⟩
  cases same
  trivial

theorem unitReaches_declaration : UnitReaches declaration := by
  have kept (body : Body) (name : String) (parameters : List Parameter) (docs : String) : UnitReaches (do
      register ⟨name, parameters, body, (← get).scope, docs⟩) := .get fun _ => unitReaches_register _
  have word : Reaches [] none (ensure .identifier) := by
    have own : Reaches [] none (ensure .identifier >>= Pure.pure) := .expected fun _ => .ended _
    rwa [bind_pure] at own
  refine (UnitReaches.onStream word).bind fun keyword => .ite (.throw (by simp)) ?_
  refine (UnitReaches.onStream reaches_lastDocs).bind fun docs =>
    (UnitReaches.onStream (reaches_introduced _ _)).bind fun name =>
      (UnitReaches.onStream reaches_generics).bind fun parameters => (UnitReaches.note _).bind fun _ => ?_
  have fields : UnitReaches (Body.record <$> (fieldList name : UnitReading FieldList)) :=
    .map (.onStream (reaches_fieldList name))
  have variants : UnitReaches (Body.union <$> (union name : UnitReading (List Variant))) :=
    .map (.onStream (reaches_union name))
  exact .ite (fields.bind fun body => kept body _ _ _) (variants.bind fun body => kept body _ _ _)

theorem unitReaches_namespaceName : UnitReaches namespaceName := by
  have semicolons : UnitReaches (consume .semicolon : UnitReading Unit) := .onStream reaches_consume
  have test : Reaches [] none (nextIs .identifier (some "namespace")) := by
    have own : Reaches [] none (nextIs .identifier (some "namespace") >>= Pure.pure) :=
      .tested (fun _ _ => .ended _) (.ended _)
    rwa [bind_pure] at own
  refine (UnitReaches.onStream test).bind fun found => .ite ?_ semicolons
  refine (UnitReaches.onStream reaches_qualifiedName).bind fun name => (UnitReaches.modify ?_).bind fun _ => semicolons
  exact fun _ => rfl

theorem unitReaches_declarations (steps : Nat) : UnitReaches (declarations steps) := by
  induction steps with
  | zero => exact .throw (by simp)
  | succ steps ih =>
    have semicolons : UnitReaches (consume .semicolon : UnitReading Unit) := .onStream reaches_consume
    have test : Reaches [] none (peekedIs .endOfInput) := by
      have own : Reaches [] none (peekedIs .endOfInput >>= Pure.pure) := .glanced fun _ => .ended _
      rwa [bind_pure] at own
    have look : Reaches [] none peek := by
      have own : Reaches [] none (peek >>= Pure.pure) := .peeked fun _ => .ended _
      rwa [bind_pure] at own
    refine semicolons.bind fun _ => (UnitReaches.onStream test).bind fun finished => .ite (.pure _) ?_
    refine (UnitReaches.onStream look).bind fun token => .ite ?_ (.throw (by simp))
    exact unitReaches_declaration.bind fun _ => semicolons.bind fun _ => ih

theorem unitReaches_unit : UnitReaches unit :=
  unitReaches_namespaceName.bind fun _ => .get fun _ => unitReaches_declarations _

end Declaration.Parser

end

open Declaration.Parser

section

variable {text : String} {registry : List Declaration} {problem : DeclarationProblem} {left : UnitState}

/-- **A problem with names keeps its message where the text goes on.** Let reading a text fail with such a problem. The
tokens of the text are those that were taken, of which the problem blames the last one, and those to come. If there is
a next token, or the end of the input, the message gets its place in front. If the lexer cannot read on there, its fault
is reported instead, and the message is lost. -/
theorem readUnit_places (run : unit (UnitState.ofText text registry) = .error (.naming problem) left) :
    (∃ taken : List Token, (TokenStream.ofText text).counted = taken.map .token ++ left.stream.counted ∧
      problem.Blames taken) ∧
    (∀ token, left.stream.front? = some token →
      (readUnit text registry).1 = some (.source token.line token.column (.naming problem)) ∧
      (readUnit text registry).1.map Fault.message =
        some ("Line " ++ toString token.line ++ ":" ++ toString token.column ++ " - " ++ problem.message)) ∧
    (left.stream.front? = none → ∃ fault : Fault, fault.IsLexical ∧ (readUnit text registry).1 = some fault ∧
      (left.stream.pending.head? = some (.fault fault) ∨
        left.stream.pending = [] ∧ left.stream.ending = .stuck fault)) := by
  have reached := unitReaches_unit (UnitState.ofText text registry) (lexical_ofText text)
  rw [run] at reached
  obtain ⟨lexical, blamed⟩ := reached
  obtain ⟨taken, parts, blames⟩ := blamed problem rfl
  obtain ⟨stream, outcome⟩ := readUnit_of_error run
  rw [outcome]
  refine ⟨⟨taken, parts.counted, blames⟩, fun token shown => ?_, fun none => ?_⟩
  · have place : located left.stream (.naming problem) = .source token.line token.column (.naming problem) := by
      rw [located, peek_eq_ok_iff.mpr ⟨shown, rfl⟩]
    rw [place]
    exact ⟨rfl, rfl⟩
  · obtain ⟨⟨pending, ending, docs⟩, scope, declared, registered, journal⟩ := left
    rcases pending with _ | ⟨token | fault, rest⟩
    · cases ending with
      | finished position => cases none
      | stuck fault => exact ⟨fault, lexical.stuck fault rfl, rfl, .inr ⟨rfl, rfl⟩⟩
    · cases none
    · exact ⟨fault, lexical.fault fault (by simp [counted, Lexeme.counts]), rfl, .inl rfl⟩

def failure? : EStateM.Result Fault UnitState Unit → Option (Fault × TokenStream)
  | .ok _ _ => none
  | .error fault left => some (fault, left.stream)

theorem failure?_eq_some {result : EStateM.Result Fault UnitState Unit} {fault : Fault} {stream : TokenStream}
    (failed : failure? result = some (fault, stream)) : ∃ left : UnitState, result = .error fault left ∧
      left.stream = stream := by
  cases result with
  | ok value left => cases failed
  | error other left =>
    cases failed
    exact ⟨left, rfl, rfl⟩

/-- A parameter that stands twice is reported at the brace behind the brackets. -/
theorem readUnit_places_parameter : ∃ left : UnitState,
    unit (UnitState.ofText "record R<A, A>\n\x7b \x7d" []) = .error (.naming (.repeatedParameter "A")) left ∧
      (readUnit "record R<A, A>\n\x7b \x7d" []).1.map Fault.message =
        some "Line 2:1 - Duplicate generic parameter 'A'" := by
  have failed : failure? (unit (UnitState.ofText "record R<A, A>\n\x7b \x7d" [])) =
      some (.naming (.repeatedParameter "A"),
        ⟨[.token ⟨.openBrace, "\x7b", ⟨15, 2, 1⟩⟩, .token ⟨.closeBrace, "\x7d", ⟨17, 2, 3⟩⟩],
          .finished ⟨18, 2, 4⟩, ""⟩) := by
    decide +kernel
  obtain ⟨left, run, behind⟩ := failure?_eq_some failed
  obtain ⟨-, kept, -⟩ := readUnit_places run
  refine ⟨left, run, ?_⟩
  rw [(kept ⟨.openBrace, "\x7b", ⟨15, 2, 1⟩⟩ (by rw [behind]; rfl)).2]
  decide

/-- A name that is refused in front of a character that no token starts with: the character is reported instead. -/
theorem readUnit_loses_message : ∃ left : UnitState,
    unit (UnitState.ofText "record _R $" []) = .error (.naming (.leadingUnderscore "record" "_R")) left ∧
      (readUnit "record _R $" []).1.map Fault.message =
        some "Line 1:11 - Invalid character encountered: '$'" := by
  have failed : failure? (unit (UnitState.ofText "record _R $" [])) =
      some (.naming (.leadingUnderscore "record" "_R"),
        ⟨[], .stuck (.source 1 11 (.invalidCharacter '$')), ""⟩) := by
    decide +kernel
  obtain ⟨left, run, -⟩ := failure?_eq_some failed
  exact ⟨left, run, by decide +kernel⟩

end

end CowView
