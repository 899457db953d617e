import CowView.Proofs.Derivations
import CowView.Proofs.Words

/-!
What the parser takes off a stream. On a text without bangs the tokens that a function of the parser consumes, comments
aside, are derived by the grammar as what the function gives. The induction is on the number of steps, over all
functions of the parser at once.
-/

namespace CowView

open TokenStream TypeExpr.Parser

open TypeExpr (Form Derives)

/-! ### Lexemes besides comments -/

def Lexeme.isSolid : Lexeme → Bool
  | .token found => !found.isComment
  | .fault _ => true

namespace TokenStream

def solid (stream : TokenStream) : List Lexeme := stream.pending.filter Lexeme.isSolid

/-- From the one stream to the other the words are consumed, comments aside. -/
def Takes (stream left : TokenStream) (words : List BareToken) : Prop :=
  ∃ tokens : List Token, stream.solid = tokens.map .token ++ left.solid ∧ tokens.map Token.bare = words

def Tidy (stream : TokenStream) : Prop :=
  ∀ token, Lexeme.token token ∈ stream.solid → token.bare.Lexed ∧ token.kind ≠ .bang

variable {stream between left : TokenStream} {words others : List BareToken} {token : Token}

namespace Takes

theorem of_eq (same : stream.solid = left.solid) : Takes stream left [] := ⟨[], same, rfl⟩

theorem trans (first : Takes stream between words) (second : Takes between left others) :
    Takes stream left (words ++ others) := by
  obtain ⟨tokens, taken, rfl⟩ := first
  obtain ⟨more, later, rfl⟩ := second
  exact ⟨tokens ++ more, by rw [taken, later, List.map_append, List.append_assoc], List.map_append⟩

theorem cons {word : BareToken} (first : Takes stream between [word]) (second : Takes between left words) :
    Takes stream left (word :: words) :=
  first.trans second

theorem after (first : Takes stream between []) (second : Takes between left words) : Takes stream left words :=
  first.trans second

theorem before (first : Takes stream between words) (second : Takes between left []) : Takes stream left words := by
  rw [← List.append_nil words]
  exact first.trans second

theorem tidy (takes : Takes stream left words) (tidy : stream.Tidy) : left.Tidy := by
  obtain ⟨tokens, taken, -⟩ := takes
  intro token member
  exact tidy token (taken ▸ List.mem_append_right _ member)

end Takes

theorem map_eq_ok {α β : Type} {change : α → β} {action : Reading α} {value : β}
    (read : (change <$> action) stream = .ok value left) : ∃ found, change found = value ∧ action stream = .ok found left := by
  change EStateM.map change action stream = _ at read
  rw [EStateM.map] at read
  split at read
  next found behind own =>
    cases read
    exact ⟨found, rfl, own⟩
  · cases read

theorem solid_skipped (stream : TokenStream) : stream.skipped.solid = stream.solid := by
  obtain ⟨pending, ending, docs⟩ := stream
  induction pending generalizing docs with
  | nil => rfl
  | cons lexeme rest ih =>
    cases lexeme with
    | fault fault => rfl
    | token token =>
      by_cases comment : token.isComment = true
      · have dropped : (skipped ⟨.token token :: rest, ending, docs⟩) = skipped ⟨rest, ending,
            if DocComment.isDoc token.value then DocComment.body token.value else docs⟩ := by
          simp only [skipped, dropComments, comment, if_true]
        rw [dropped, ih]
        simp [solid, Lexeme.isSolid, comment]
      · simp only [skipped, dropComments, comment, Bool.false_eq_true, if_false]

theorem solid_eq_cons (shown : stream.front? = some token) (more : token.kind ≠ .endOfInput)
    (plain : token.kind ≠ .comment) : stream.solid = .token token :: stream.advanced.solid := by
  obtain ⟨pending, ending, docs⟩ := stream
  unfold front? at shown
  split at shown
  next first rest same =>
    cases shown
    cases same
    have counted : Lexeme.isSolid (.token token) = true := by simp [Lexeme.isSolid, Token.isComment, plain]
    exact List.filter_cons_of_pos counted
  · cases shown
    exact absurd rfl more
  · cases shown

/-- A token that passes a test which the end of the input and comments fail is the next one to come. -/
theorem takes_advanced {kind : TokenKind} {wanted : Option String} (more : kind ≠ .endOfInput)
    (shown : stream.skipped.front? = some token) (fit : fits kind wanted token = true) :
    Takes stream stream.skipped.advanced [token.bare] := by
  have same : token.kind = kind := TokenStream.kind_of_fits fit
  refine ⟨[token], ?_, rfl⟩
  rw [← solid_skipped, solid_eq_cons shown (by rwa [same]) (front?_skipped shown)]
  rfl

section

variable {kind : TokenKind} {wanted : Option String} {value : String} {found : Bool}

theorem nextIs_takes (more : kind ≠ .endOfInput) (read : nextIs kind wanted stream = .ok true left) :
    ∃ token : Token, Takes stream left [token.bare] ∧ fits kind wanted token = true := by
  obtain ⟨token, shown, fit, rfl⟩ := nextIs_eq_ok_iff.mp read
  exact ⟨token, takes_advanced more shown fit.symm, fit.symm⟩

theorem nextIs_leaves (read : nextIs kind wanted stream = .ok false left) : Takes stream left [] := by
  obtain ⟨token, shown, fit, rfl⟩ := nextIs_eq_ok_iff.mp read
  exact .of_eq (solid_skipped stream).symm

theorem peekedIs_leaves (read : peekedIs kind wanted stream = .ok found left) : Takes stream left [] := by
  obtain ⟨token, shown, fit, rfl⟩ := peekedIs_eq_ok_iff.mp read
  exact .of_eq (solid_skipped stream).symm

theorem ensure_takes (more : kind ≠ .endOfInput) (read : ensure kind wanted false stream = .ok value left) :
    ∃ token : Token, Takes stream left [token.bare] ∧ fits kind wanted token = true ∧ value = token.value := by
  obtain ⟨token, shown, fit, same, rfl⟩ := ensure_eq_ok_iff.mp read
  exact ⟨token, takes_advanced more shown fit, fit, same⟩

end

theorem next_skipped (moved : next stream.skipped = .ok token left) (more : token.kind ≠ .endOfInput) :
    stream.solid = .token token :: left.solid ∧ token.kind ≠ .comment := by
  obtain ⟨shown, rfl⟩ := next_eq_ok_iff.mp moved
  have plain := front?_skipped shown
  exact ⟨by rw [← solid_skipped, solid_eq_cons shown more plain], plain⟩

theorem solid_unget (stream : TokenStream) (plain : token.kind ≠ .comment) :
    solid { stream with pending := .token token :: stream.pending } = .token token :: stream.solid := by
  have counted : Lexeme.isSolid (.token token) = true := by simp [Lexeme.isSolid, Token.isComment, plain]
  exact List.filter_cons_of_pos counted

/-- What is consumed first is what the lexer delivers. -/
theorem Takes.lexed {word : BareToken} (takes : Takes stream left (word :: words)) (tidy : stream.Tidy) :
    word.Lexed := by
  obtain ⟨tokens, taken, same⟩ := takes
  obtain ⟨token, rest, rfl, rfl, -⟩ := List.map_eq_cons_iff.mp same
  exact (tidy token (by rw [taken]; exact List.mem_cons_self)).1

theorem Tidy.of_front (tidy : stream.Tidy) (shown : stream.front? = some token) (more : token.kind ≠ .endOfInput)
    (plain : token.kind ≠ .comment) : token.bare.Lexed ∧ token.kind ≠ .bang :=
  tidy token (by rw [solid_eq_cons shown more plain]; exact List.mem_cons_self)

theorem Tidy.skipped (tidy : stream.Tidy) : stream.skipped.Tidy := by
  rwa [Tidy, solid_skipped]

section

variable {kind : TokenKind} {α : Type} {value : α}

theorem nextIs_takes_symbol (isSymbol : kind ∈ TokenKind.symbols) (tidy : stream.Tidy)
    (read : nextIs kind none stream = .ok true left) : Takes stream left [.symbol kind] := by
  obtain ⟨token, takes, fit⟩ := nextIs_takes (by rintro rfl; exact absurd isSymbol (by decide)) read
  have same : token.kind = kind := TokenStream.kind_of_fits fit
  have own := (takes.lexed tidy).eq_symbol (by rwa [Token.bare, same])
  rwa [own, Token.bare, same] at takes

theorem nextIs_takes_name {name : String} (read : nextIs .identifier (some name) stream = .ok true left) :
    Takes stream left [.name name] := by
  obtain ⟨token, takes, fit⟩ := nextIs_takes (by decide) read
  rwa [BareToken.eq_name_of_fits (show token.bare.fits .identifier (some _) = true from fit)] at takes

theorem ensure_takes_symbol {text : String} (isSymbol : kind ∈ TokenKind.symbols) (tidy : stream.Tidy)
    (read : ensure kind none false stream = .ok text left) : Takes stream left [.symbol kind] := by
  obtain ⟨token, takes, fit, -⟩ := ensure_takes (by rintro rfl; exact absurd isSymbol (by decide)) read
  have same : token.kind = kind := TokenStream.kind_of_fits fit
  have own := (takes.lexed tidy).eq_symbol (by rwa [Token.bare, same])
  rwa [own, Token.bare, same] at takes

theorem ensure_takes_name {name : String} (read : ensure .identifier none false stream = .ok name left) :
    Takes stream left [.name name] := by
  obtain ⟨token, takes, fit, rfl⟩ := ensure_takes (by decide) read
  rwa [Token.bare, show token.kind = .identifier from TokenStream.kind_of_fits fit] at takes

theorem next_of_peekedIs (isSymbol : kind ∈ TokenKind.symbols) (tidy : stream.Tidy)
    (looked : peekedIs kind none stream = .ok true between) (moved : next between = .ok token left) :
    token.bare = .symbol kind ∧ stream.solid = .token token :: left.solid := by
  obtain ⟨placed, shown, fit, rfl⟩ := peekedIs_eq_ok_iff.mp looked
  obtain rfl : placed = token := Option.some.inj (shown.symm.trans (next_eq_ok_iff.mp moved).1)
  have same : placed.kind = kind := TokenStream.kind_of_fits fit.symm
  have more : placed.kind ≠ .endOfInput := by
    rintro last
    rw [← same, last] at isSymbol
    exact absurd isSymbol (by decide)
  obtain ⟨taken, plain⟩ := next_skipped moved more
  have own := (tidy.skipped.of_front shown more plain).1.eq_symbol (by rwa [Token.bare, same])
  exact ⟨by rw [own, Token.bare, same], taken⟩

theorem tested {yes no : Reading α} (isSymbol : kind ∈ TokenKind.symbols) (tidy : stream.Tidy)
    (read : (nextIs kind none >>= fun found => if found then yes else no) stream = .ok value left) :
    (∃ between, Takes stream between [.symbol kind] ∧ yes between = .ok value left) ∨
      ∃ between, Takes stream between [] ∧ no between = .ok value left := by
  obtain ⟨found, between, read, later⟩ := bind_eq_ok read
  cases found with
  | true => exact .inl ⟨between, nextIs_takes_symbol isSymbol tidy read, later⟩
  | false => exact .inr ⟨between, nextIs_leaves read, later⟩

theorem not_peekedIs_bang (tidy : stream.Tidy) : peekedIs .bang none stream ≠ .ok true left := by
  intro read
  obtain ⟨token, shown, fit, -⟩ := peekedIs_eq_ok_iff.mp read
  have same : token.kind = .bang := TokenStream.kind_of_fits fit.symm
  exact (tidy.skipped.of_front shown (by rw [same]; decide) (by rw [same]; decide)).2 same

end

end TokenStream

/-! ### What is consumed -/

def Consumes {α : Type} (action : Reading α) (form : α → Form) : Prop :=
  ∀ ⦃stream left : TokenStream⦄ ⦃value : α⦄, stream.Tidy → action stream = .ok value left →
    ∃ words lost, Takes stream left words ∧ Derives (form value) words lost

def ConsumesOpened {α : Type} (first : BareToken) (action : Reading α) (form : α → Form) : Prop :=
  ∀ ⦃stream left : TokenStream⦄ ⦃value : α⦄, stream.Tidy → action stream = .ok value left →
    ∃ words lost, Takes stream left (first :: words) ∧ Derives (form value) words lost

def ConsumesBehind (first : BareToken) (action : Reading TypeExpr) : Prop :=
  ∀ ⦃stream left : TokenStream⦄ ⦃expr : TypeExpr⦄, stream.Tidy → action stream = .ok expr left →
    ∃ words lost, Takes stream left words ∧ Derives (.type expr) (first :: words) lost

structure AllConsume (steps : Nat) : Prop where
  type : Consumes (type steps) .type
  tupleOrGroup : ConsumesBehind (.symbol .openParen) (tupleOrGroup steps)
  types : Consumes (types .closeParen steps) .types
  output : Consumes (output steps) .output
  pathOrMacro : Consumes (pathOrMacro steps) .type
  path : Consumes (path steps) .path
  segments : Consumes (segments steps) .segments
  segment : Consumes (segment steps) .segment
  angleArguments : ConsumesOpened (.symbol .lessThan) (angleArguments steps) .arguments
  arguments : Consumes (arguments steps) .arguments
  argument : Consumes (argument steps) .argument
  bounds : Consumes (bounds steps) .bounds
  bound : Consumes (bound steps) .bound

variable {steps : Nat} {stream left : TokenStream}

theorem consumes_output (all : AllConsume steps) : Consumes (output (steps + 1)) .output := by
  intro stream left found tidy read
  rw [output] at read
  rcases tested (by decide) tidy read with ⟨between, takes, read⟩ | ⟨between, takes, read⟩
  · obtain ⟨expr, behind, own, last⟩ := bind_eq_ok read
    obtain ⟨words, lost, more, derives⟩ := all.type (takes.tidy tidy) own
    cases last
    exact ⟨_, _, takes.cons more, .someOutput derives⟩
  · cases read
    exact ⟨_, _, takes, .noOutput⟩

theorem consumes_types (all : AllConsume steps) : Consumes (types .closeParen (steps + 1)) .types := by
  intro stream left found tidy read
  rw [types] at read
  rcases tested (by decide) tidy read with ⟨between, takes, read⟩ | ⟨between, takes, read⟩
  · cases read
    exact ⟨_, _, takes, .noTypes⟩
  · replace tidy := takes.tidy tidy
    obtain ⟨first, behind, own, read⟩ := bind_eq_ok read
    obtain ⟨words, lost, more, derives⟩ := all.type tidy own
    replace tidy := more.tidy tidy
    rcases tested (by decide) tidy read with ⟨next, comma, read⟩ | ⟨next, comma, read⟩
    · obtain ⟨rest, behind, others, last⟩ := bind_eq_ok read
      obtain ⟨_, _, back, derives'⟩ := all.types (comma.tidy tidy) others
      cases last
      exact ⟨_, _, takes.after (more.trans (comma.cons back)), .moreTypes derives derives'⟩
    · obtain ⟨value, behind, closed, last⟩ := bind_eq_ok read
      have close := ensure_takes_symbol (by decide) (comma.tidy tidy) closed
      cases last
      exact ⟨_, _, takes.after (more.trans (comma.after close)), .lastType derives⟩

theorem consumes_tupleOrGroup (all : AllConsume steps) :
    ConsumesBehind (.symbol .openParen) (tupleOrGroup (steps + 1)) := by
  intro stream left found tidy read
  rw [tupleOrGroup] at read
  rcases tested (by decide) tidy read with ⟨between, takes, read⟩ | ⟨between, takes, read⟩
  · cases read
    exact ⟨_, _, takes, .unit⟩
  · replace tidy := takes.tidy tidy
    obtain ⟨first, behind, own, read⟩ := bind_eq_ok read
    obtain ⟨words, lost, more, derives⟩ := all.type tidy own
    replace tidy := more.tidy tidy
    rcases tested (by decide) tidy read with ⟨next, close, read⟩ | ⟨next, same, read⟩
    · cases read
      exact ⟨_, _, takes.after (more.trans close), .group derives⟩
    · obtain ⟨value, behind, separated, read⟩ := bind_eq_ok read
      have comma := ensure_takes_symbol (by decide) (same.tidy tidy) separated
      obtain ⟨rest, behind, others, last⟩ := bind_eq_ok read
      obtain ⟨_, _, back, derives'⟩ := all.types (comma.tidy (same.tidy tidy)) others
      cases last
      exact ⟨_, _, takes.after (more.trans (same.after (comma.cons back))), .tuple derives derives'⟩

theorem consumes_bounds (all : AllConsume steps) : Consumes (bounds (steps + 1)) .bounds := by
  intro stream left found tidy read
  rw [bounds] at read
  obtain ⟨first, behind, own, read⟩ := bind_eq_ok read
  obtain ⟨words, lost, takes, derives⟩ := all.bound tidy own
  replace tidy := takes.tidy tidy
  rcases tested (by decide) tidy read with ⟨between, plus, read⟩ | ⟨between, same, read⟩
  · obtain ⟨rest, behind, others, last⟩ := bind_eq_ok read
    obtain ⟨_, _, back, derives'⟩ := all.bounds (plus.tidy tidy) others
    cases last
    exact ⟨_, _, takes.trans (plus.cons back), .moreBounds derives derives'⟩
  · cases read
    exact ⟨_, _, takes.before same, .lastBound derives⟩

theorem consumes_arguments (all : AllConsume steps) : Consumes (arguments (steps + 1)) .arguments := by
  intro stream left found tidy read
  rw [arguments] at read
  rcases tested (by decide) tidy read with ⟨between, takes, read⟩ | ⟨between, takes, read⟩
  · cases read
    exact ⟨_, _, takes, .noArguments⟩
  · replace tidy := takes.tidy tidy
    obtain ⟨first, behind, own, read⟩ := bind_eq_ok read
    obtain ⟨words, lost, more, derives⟩ := all.argument tidy own
    replace tidy := more.tidy tidy
    rcases tested (by decide) tidy read with ⟨next, comma, read⟩ | ⟨next, comma, read⟩
    · obtain ⟨rest, behind, others, last⟩ := bind_eq_ok read
      obtain ⟨_, _, back, derives'⟩ := all.arguments (comma.tidy tidy) others
      cases last
      exact ⟨_, _, takes.after (more.trans (comma.cons back)), .moreArguments derives derives'⟩
    · obtain ⟨value, behind, closed, last⟩ := bind_eq_ok read
      have close := ensure_takes_symbol (by decide) (comma.tidy tidy) closed
      cases last
      exact ⟨_, _, takes.after (more.trans (comma.after close)), .lastArgument derives⟩

/-! ### Segments and arguments -/

theorem consumes_segments (all : AllConsume steps) : Consumes (segments (steps + 1)) .segments := by
  intro stream left found tidy read
  rw [segments] at read
  rcases tested (by decide) tidy read with ⟨between, colons, read⟩ | ⟨between, same, read⟩
  · obtain ⟨first, behind, own, read⟩ := bind_eq_ok read
    obtain ⟨_, _, takes, derives⟩ := all.segment (colons.tidy tidy) own
    obtain ⟨rest, behind, others, last⟩ := bind_eq_ok read
    obtain ⟨_, _, back, derives'⟩ := all.segments (takes.tidy (colons.tidy tidy)) others
    cases last
    exact ⟨_, _, colons.cons (takes.trans back), .moreSegments derives derives'⟩
  · cases read
    exact ⟨_, _, same, .noSegments⟩

theorem consumes_angleArguments (all : AllConsume steps) :
    ConsumesOpened (.symbol .lessThan) (angleArguments (steps + 1)) .arguments := by
  intro stream left found tidy read
  rw [angleArguments] at read
  obtain ⟨value, behind, opened, read⟩ := bind_eq_ok read
  have opening := ensure_takes_symbol (by decide) tidy opened
  obtain ⟨words, lost, takes, derives⟩ := all.arguments (opening.tidy tidy) read
  exact ⟨words, lost, opening.cons takes, derives⟩

theorem consumes_segment (all : AllConsume steps) : Consumes (segment (steps + 1)) .segment := by
  intro stream left found tidy read
  rw [TypeExpr.Parser.segment] at read
  obtain ⟨name, behind, named, read⟩ := bind_eq_ok read
  have start := ensure_takes_name named
  have angle : ∀ (colons : Bool) {behind : TokenStream},
      Takes stream behind (.name name :: if colons then [.symbol .doubleColon] else []) →
      (angleArguments steps >>= fun found => pure (Segment.angle name found)) behind = .ok found left →
        ∃ words lost, Takes stream left words ∧ Derives (.segment found) words lost := by
    intro colons behind front read
    obtain ⟨arguments, behind, own, last⟩ := bind_eq_ok read
    obtain ⟨words, lost, takes, derives⟩ := all.angleArguments (front.tidy tidy) own
    cases last
    exact ⟨_, _, front.trans takes, .angle name colons derives⟩
  obtain ⟨isAngle, between, looked, read⟩ := bind_eq_ok read
  replace start := start.before (peekedIs_leaves looked)
  cases isAngle with
  | true => exact angle false start read
  | false =>
    replace tidy := start.tidy tidy
    obtain ⟨isColons, behind, looked, read⟩ := bind_eq_ok read
    cases isColons with
    | true =>
      obtain ⟨colons, after, moved, read⟩ := bind_eq_ok read
      obtain ⟨own, taken⟩ := next_of_peekedIs (by decide) tidy looked moved
      have mark : Takes between after [.symbol .doubleColon] := ⟨[colons], taken, by rw [← own]; rfl⟩
      obtain ⟨isAngle, last, looked, read⟩ := bind_eq_ok read
      have kept := peekedIs_leaves looked
      cases isAngle with
      | true => exact angle true ((start.trans mark).before kept) read
      | false =>
        obtain ⟨back, returned, put, read⟩ := bind_eq_ok read
        cases put
        cases read
        have same : between.solid = solid { last with pending := .token colons :: last.pending } := by
          obtain ⟨tokens, kept, none⟩ := kept
          rw [solid_unget _ (by rw [show colons.kind = .doubleColon from congrArg BareToken.kind own]; decide), taken,
            kept, List.map_eq_nil_iff.mp none]
          rfl
        exact ⟨_, _, start.before (.of_eq same), .plain name⟩
    | false =>
      have same := peekedIs_leaves looked
      rcases tested (by decide) (same.tidy tidy) read with ⟨after, opening, read⟩ | ⟨after, kept, read⟩
      · replace tidy := opening.tidy (same.tidy tidy)
        obtain ⟨inputs, behind, own, read⟩ := bind_eq_ok read
        obtain ⟨_, _, front, derives⟩ := all.types tidy own
        obtain ⟨result, behind, output, last⟩ := bind_eq_ok read
        obtain ⟨_, _, back, derives'⟩ := all.output (front.tidy tidy) output
        cases last
        exact ⟨_, _, start.cons (same.after (opening.cons (front.trans back))), .call name derives derives'⟩
      · cases read
        exact ⟨_, _, start.before (same.after kept), .plain name⟩

theorem lifetime_takes {duration : Lifetime} (tidy : stream.Tidy)
    (read : TypeExpr.Parser.lifetime stream = .ok duration left) : Takes stream left [.lifetime duration] := by
  obtain ⟨value, between, ensured, rest⟩ := bind_eq_ok read
  obtain ⟨token, takes, fit, rfl⟩ := ensure_takes (by decide) ensured
  have kind : token.bare.kind = .lifetime := TokenStream.kind_of_fits fit
  have own := (takes.lexed tidy).isWord (by rw [kind]; decide)
  obtain ⟨known, marked, same⟩ := own.ofMarked? kind
  rw [show token.value = token.bare.value from rfl, marked] at rest
  cases rest
  rwa [same] at takes

theorem next_of_current {found token : Token} {between : TokenStream} (looked : current stream = .ok found between)
    (moved : next between = .ok token left) (more : found.kind ≠ .endOfInput) :
    token = found ∧ stream.solid = .token found :: left.solid ∧ found.kind ≠ .comment := by
  obtain ⟨shown, rfl⟩ := current_eq_ok_iff.mp looked
  obtain rfl : found = token := Option.some.inj (shown.symm.trans (next_eq_ok_iff.mp moved).1)
  exact ⟨rfl, next_skipped moved more⟩

theorem current_leaves {found : Token} (looked : current stream = .ok found left) : Takes stream left [] := by
  obtain ⟨shown, rfl⟩ := current_eq_ok_iff.mp looked
  exact .of_eq (solid_skipped stream).symm

theorem consumes_argument (all : AllConsume steps) : Consumes (argument (steps + 1)) .argument := by
  intro stream left found tidy read
  rw [argument] at read
  obtain ⟨token, behind, looked, read⟩ := bind_eq_ok read
  have same := current_leaves looked
  have type : ∀ {between : TokenStream}, Takes stream between [] →
      (type steps >>= fun found => pure (Argument.type found)) between = .ok found left →
        ∃ words lost, Takes stream left words ∧ Derives (.argument found) words lost := by
    intro between front read
    obtain ⟨expr, behind, own, last⟩ := bind_eq_ok read
    obtain ⟨words, lost, takes, derives⟩ := all.type (front.tidy tidy) own
    cases last
    exact ⟨words, lost, front.after takes, .typeArgument derives⟩
  generalize kinds : token.kind = kind at read
  cases kind
  case lifetime =>
    obtain ⟨duration, between, own, last⟩ := bind_eq_ok read
    have takes := lifetime_takes (same.tidy tidy) own
    cases last
    exact ⟨_, _, same.after takes, .lifetimeArgument duration⟩
  case number =>
    obtain ⟨moved, between, taken, last⟩ := bind_eq_ok read
    obtain ⟨rfl, front, -⟩ := next_of_current looked taken (by rw [kinds]; decide)
    cases last
    exact ⟨_, _, ⟨[moved], front, by rw [List.map_singleton, Token.bare, kinds]⟩, .constant moved.value⟩
  case identifier =>
    obtain ⟨name, between, moved, read⟩ := bind_eq_ok read
    obtain ⟨rfl, front, plain⟩ := next_of_current looked moved (by rw [kinds]; decide)
    have start : Takes stream between [.name name.value] :=
      ⟨[name], front, by rw [List.map_singleton, Token.bare, kinds]; rfl⟩
    replace tidy := start.tidy tidy
    rcases tested (by decide) tidy read with ⟨after, equals, read⟩ | ⟨after, kept, read⟩
    · obtain ⟨value, behind, own, last⟩ := bind_eq_ok read
      obtain ⟨_, _, takes, derives⟩ := all.type (equals.tidy tidy) own
      cases last
      exact ⟨_, _, start.cons (equals.cons takes), .binding _ derives⟩
    replace tidy := kept.tidy tidy
    rcases tested (by decide) tidy read with ⟨later, colon, read⟩ | ⟨later, kept', read⟩
    · obtain ⟨bounds, behind, own, last⟩ := bind_eq_ok read
      obtain ⟨_, _, takes, derives⟩ := all.bounds (colon.tidy tidy) own
      cases last
      exact ⟨_, _, start.cons (kept.after (colon.cons takes)), .constraint _ derives⟩
    · obtain ⟨back, returned, put, read⟩ := bind_eq_ok read
      cases put
      refine type (.of_eq ?_) read
      rw [solid_unget _ plain, front]
      obtain ⟨tokens, kept, none⟩ := kept.after kept'
      rw [kept, List.map_eq_nil_iff.mp none]
      rfl
  all_goals exact type same read

theorem consumes_bound (all : AllConsume steps) : Consumes (bound (steps + 1)) .bound := by
  intro stream left found tidy read
  rw [bound] at read
  obtain ⟨isLifetime, between, looked, read⟩ := bind_eq_ok read
  have same := peekedIs_leaves looked
  replace tidy := same.tidy tidy
  cases isLifetime with
  | true =>
    obtain ⟨duration, behind, own, last⟩ := bind_eq_ok read
    have takes := lifetime_takes tidy own
    cases last
    exact ⟨_, _, same.after takes, .lifetimeBound duration⟩
  | false =>
    rcases tested (by decide) tidy read with ⟨after, opening, read⟩ | ⟨after, kept, read⟩
    · replace tidy := opening.tidy tidy
      obtain ⟨inner, behind, own, read⟩ := bind_eq_ok read
      obtain ⟨_, _, takes, derives⟩ := all.path tidy own
      obtain ⟨value, behind, closed, last⟩ := bind_eq_ok read
      have close := ensure_takes_symbol (by decide) (takes.tidy tidy) closed
      cases last
      exact ⟨_, _, same.after (opening.cons (takes.trans close)), .groupBound derives⟩
    · obtain ⟨inner, behind, own, last⟩ := bind_eq_ok read
      obtain ⟨_, _, takes, derives⟩ := all.path (kept.tidy tidy) own
      cases last
      exact ⟨_, _, same.after (kept.after takes), .pathBound derives⟩

/-! ### Paths -/

theorem consumes_chain {α : Type} {next : Segment → List Segment → Reading α} {value : α} (all : AllConsume steps)
    (tidy : stream.Tidy) (read : (do
      let first ← segment steps
      let rest ← segments steps
      next first rest) stream = .ok value left) :
    ∃ first rest behind words others lost more, next first rest behind = .ok value left ∧
      Takes stream behind (words ++ others) ∧ Derives (.segment first) words lost ∧
      Derives (.segments rest) others more := by
  obtain ⟨first, between, own, read⟩ := bind_eq_ok read
  obtain ⟨words, lost, takes, front⟩ := all.segment tidy own
  obtain ⟨rest, behind, others, last⟩ := bind_eq_ok read
  obtain ⟨_, _, more, back⟩ := all.segments (takes.tidy tidy) others
  exact ⟨first, rest, behind, _, _, _, _, last, takes.trans more, front, back⟩

def Path.behindTrait (subject : TypeExpr) (first : Segment) (rest : List Segment) : List Segment → Path
  | [] => ⟨some (subject, 0), first, rest⟩
  | head :: tail => ⟨some (subject, tail.length + 1), head, tail ++ first :: rest⟩

theorem consumes_remainder {subject : TypeExpr} (trait : List Segment) {found : Path} (all : AllConsume steps)
    (tidy : stream.Tidy) (read : (do
      let _ ← ensure .greaterThan
      let _ ← ensure .doubleColon
      let first ← segment steps
      let rest ← segments steps
      match trait with
      | [] => return Path.mk (some (subject, 0)) first rest
      | head :: tail => return Path.mk (some (subject, trait.length)) head (tail ++ first :: rest)) stream =
        .ok found left) :
    ∃ first rest words others lost more,
      Takes stream left (.symbol .greaterThan :: .symbol .doubleColon :: (words ++ others)) ∧
      Derives (.segment first) words lost ∧ Derives (.segments rest) others more ∧
      found = Path.behindTrait subject first rest trait := by
  obtain ⟨value, between, closed, read⟩ := bind_eq_ok read
  have close := ensure_takes_symbol (by decide) tidy closed
  replace tidy := close.tidy tidy
  obtain ⟨value, after, separated, read⟩ := bind_eq_ok read
  have colons := ensure_takes_symbol (by decide) tidy separated
  obtain ⟨first, rest, behind, _, _, _, _, last, takes, front, back⟩ := consumes_chain all (colons.tidy tidy) read
  have both := close.cons (colons.cons takes)
  cases trait <;> cases last <;> exact ⟨first, rest, _, _, _, _, both, front, back, rfl⟩

theorem consumes_path (all : AllConsume steps) : Consumes (TypeExpr.Parser.path (steps + 1)) .path := by
  intro stream left found tidy read
  rw [TypeExpr.Parser.path] at read
  rcases tested (by decide) tidy read with ⟨between, opening, read⟩ | ⟨between, same, read⟩
  · replace tidy := opening.tidy tidy
    obtain ⟨subject, behind, own, read⟩ := bind_eq_ok read
    obtain ⟨_, _, takes, derives⟩ := all.type tidy own
    replace tidy := takes.tidy tidy
    obtain ⟨named, between, tested, read⟩ := bind_eq_ok read
    cases named with
    | false =>
      have kept := nextIs_leaves tested
      obtain ⟨first, rest, _, _, _, _, more, front, back, rfl⟩ := consumes_remainder [] all (kept.tidy tidy) read
      exact ⟨_, _, opening.cons (takes.trans (kept.after more)), .qualified derives front back⟩
    | true =>
      have mark := nextIs_takes_name tested
      replace tidy := mark.tidy tidy
      obtain ⟨segments, between, own, read⟩ := bind_eq_ok read
      obtain ⟨trait, rfl, inner⟩ := map_eq_ok own
      obtain ⟨_, _, middle, derives'⟩ := all.path tidy inner
      obtain ⟨first, rest, _, _, _, _, more, front, back, rfl⟩ :=
        consumes_remainder trait.segments all (middle.tidy tidy) read
      exact ⟨_, _, opening.cons (takes.trans (mark.cons (middle.trans more))), .ofTrait derives derives' front back⟩
  · obtain ⟨first, rest, behind, _, _, _, _, last, takes, front, back⟩ := consumes_chain all (same.tidy tidy) read
    cases last
    exact ⟨_, _, same.after takes, .path front back⟩

theorem consumes_pathOrMacro (all : AllConsume steps) : Consumes (pathOrMacro (steps + 1)) .type := by
  intro stream left found tidy read
  rw [pathOrMacro] at read
  obtain ⟨inner, behind, own, read⟩ := bind_eq_ok read
  obtain ⟨words, lost, takes, derives⟩ := all.path tidy own
  replace tidy := takes.tidy tidy
  obtain ⟨found, between, looked, read⟩ := bind_eq_ok read
  cases found with
  | true => exact absurd looked (not_peekedIs_bang tidy)
  | false =>
    cases read
    exact ⟨_, _, takes.before (peekedIs_leaves looked), .pathType derives⟩

/-! ### Types -/

theorem constant_takes {length : String} (tidy : stream.Tidy) (read : constant stream = .ok length left) :
    Takes stream left [.measure length] := by
  obtain ⟨token, behind, looked, read⟩ := bind_eq_ok read
  have taken : token.kind = .number ∨ token.kind = .identifier →
      (next >>= fun found => pure found.value) behind = .ok length left → Takes stream left [.measure length] := by
    intro kind read
    obtain ⟨found, between, moved, last⟩ := bind_eq_ok read
    obtain ⟨rfl, front, plain⟩ := next_of_current looked moved (by rcases kind with kind | kind <;> simp [kind])
    cases last
    have own := (tidy found (by rw [front]; exact List.mem_cons_self)).1
    have isWord := own.isWord (by rcases kind with kind | kind <;> simp [Token.bare, kind])
    exact ⟨[found], front, by rw [List.map_singleton, isWord.eq_measure kind]; rfl⟩
  generalize kinds : token.kind = kind at read taken
  cases kind
  case number => exact taken (.inl rfl) read
  case identifier => exact taken (.inr rfl) read
  all_goals cases read

theorem consumes_brackets (all : AllConsume steps) : ConsumesBehind (.symbol .openSquare) (do
    let element ← type steps
    if ← nextIs .semicolon then
      let length ← constant
      let _ ← ensure .closeSquare
      return .array element length
    let _ ← ensure .closeSquare
    return .slice element) := by
  intro stream left found tidy read
  obtain ⟨element, behind, own, read⟩ := bind_eq_ok read
  obtain ⟨_, _, takes, derives⟩ := all.type tidy own
  replace tidy := takes.tidy tidy
  rcases tested (by decide) tidy read with ⟨between, mark, read⟩ | ⟨between, kept, read⟩
  · replace tidy := mark.tidy tidy
    obtain ⟨length, behind, measured, read⟩ := bind_eq_ok read
    have measure := constant_takes tidy measured
    obtain ⟨value, behind, closed, last⟩ := bind_eq_ok read
    have close := ensure_takes_symbol (by decide) (measure.tidy tidy) closed
    cases last
    exact ⟨_, _, takes.trans (mark.cons (measure.cons close)), .array length derives⟩
  · obtain ⟨value, behind, closed, last⟩ := bind_eq_ok read
    have close := ensure_takes_symbol (by decide) (kept.tidy tidy) closed
    cases last
    exact ⟨_, _, takes.trans (kept.after close), .slice derives⟩

theorem consumes_referent (all : AllConsume steps) {origin : TokenStream} {duration : Option Lifetime} {found : TypeExpr}
    (front : Takes origin stream (duration.map .lifetime).toList) (tidy : stream.Tidy) (read : (do
      let isMutable ← nextIs .identifier (some "mut")
      return TypeExpr.reference duration isMutable (← type steps)) stream = .ok found left) :
    ∃ words lost, Takes origin left words ∧ Derives (.type found) (.symbol .ampersand :: words) lost := by
  obtain ⟨isMutable, behind, tested, read⟩ := bind_eq_ok read
  have mark : Takes stream behind (if isMutable then [.name "mut"] else []) := by
    cases isMutable with
    | true => exact nextIs_takes_name tested
    | false => exact nextIs_leaves tested
  obtain ⟨element, between, own, last⟩ := bind_eq_ok read
  obtain ⟨_, _, takes, derives⟩ := all.type (mark.tidy tidy) own
  cases last
  exact ⟨_, _, front.trans (mark.trans takes), .reference duration isMutable derives⟩

theorem consumes_reference (all : AllConsume steps) : ConsumesBehind (.symbol .ampersand) (do
    let duration ← if ← peekedIs .lifetime then some <$> lifetime else pure none
    let isMutable ← nextIs .identifier (some "mut")
    return .reference duration isMutable (← type steps)) := by
  intro stream left found tidy read
  obtain ⟨isLifetime, behind, looked, read⟩ := bind_eq_ok read
  have same := peekedIs_leaves looked
  cases isLifetime with
  | false => exact consumes_referent all same (same.tidy tidy) read
  | true =>
    obtain ⟨duration, between, own, read⟩ := bind_eq_ok read
    obtain ⟨name, rfl, inner⟩ := map_eq_ok own
    have takes := same.after (lifetime_takes (same.tidy tidy) inner)
    exact consumes_referent all takes (takes.tidy tidy) read

theorem consumes_pointer (all : AllConsume steps) : ConsumesBehind (.symbol .star) (do
    if ← nextIs .identifier (some "mut") then
      return .pointer true (← type steps)
    let _ ← ensure .identifier (some "const")
    return .pointer false (← type steps)) := by
  intro stream left found tidy read
  have pointer : ∀ (isMutable : Bool) {between : TokenStream},
      Takes stream between [.name (if isMutable then "mut" else "const")] →
      (type steps >>= fun element => pure (TypeExpr.pointer isMutable element)) between = .ok found left →
        ∃ words lost, Takes stream left words ∧ Derives (.type found) (.symbol .star :: words) lost := by
    intro isMutable between front read
    obtain ⟨element, behind, own, last⟩ := bind_eq_ok read
    obtain ⟨_, _, takes, derives⟩ := all.type (front.tidy tidy) own
    cases last
    exact ⟨_, _, front.cons takes, .pointer isMutable derives⟩
  obtain ⟨isMutable, behind, tested, read⟩ := bind_eq_ok read
  cases isMutable with
  | true => exact pointer true (nextIs_takes_name tested) read
  | false =>
    obtain ⟨value, between, ensured, read⟩ := bind_eq_ok read
    obtain ⟨token, takes, fit, -⟩ := ensure_takes (by decide) ensured
    rw [BareToken.eq_name_of_fits (show token.bare.fits .identifier (some _) = true from fit)] at takes
    exact pointer false ((nextIs_leaves tested).after takes) read

theorem consumes_function (all : AllConsume steps) : ConsumesBehind (.name "fn") (do
    let _ ← ensure .openParen
    let inputs ← types .closeParen steps
    return .function inputs (← output steps)) := by
  intro stream left found tidy read
  obtain ⟨value, behind, opened, read⟩ := bind_eq_ok read
  have opening := ensure_takes_symbol (by decide) tidy opened
  replace tidy := opening.tidy tidy
  obtain ⟨inputs, behind, own, read⟩ := bind_eq_ok read
  obtain ⟨_, _, front, derives⟩ := all.types tidy own
  obtain ⟨result, behind, output, last⟩ := bind_eq_ok read
  obtain ⟨_, _, back, derives'⟩ := all.output (front.tidy tidy) output
  cases last
  exact ⟨_, _, opening.cons (front.trans back), .function derives derives'⟩

theorem consumes_implTrait (all : AllConsume steps) : ConsumesBehind (.name "impl") (do
    return .implTrait (← bounds steps)) := by
  intro stream left found tidy read
  obtain ⟨bounds, behind, own, last⟩ := bind_eq_ok read
  obtain ⟨_, _, takes, derives⟩ := all.bounds tidy own
  cases last
  exact ⟨_, _, takes, .implTrait derives⟩

theorem consumes_traitObject (all : AllConsume steps) : ConsumesBehind (.name "dyn") (do
    return .traitObject (← bounds steps)) := by
  intro stream left found tidy read
  obtain ⟨bounds, behind, own, last⟩ := bind_eq_ok read
  obtain ⟨_, _, takes, derives⟩ := all.bounds tidy own
  cases last
  exact ⟨_, _, takes, .traitObject derives⟩

theorem ConsumesBehind.next {first : BareToken} {action : Reading TypeExpr} {token : Token} {between : TokenStream}
    {found : TypeExpr} (consumes : ConsumesBehind first action) (tidy : stream.Tidy)
    (looked : current stream = .ok token between) (same : token.bare = first) (more : token.kind ≠ .endOfInput)
    (read : (next >>= fun _ => action) between = .ok found left) :
    ∃ words lost, Takes stream left words ∧ Derives (.type found) words lost := by
  obtain ⟨placed, behind, moved, read⟩ := bind_eq_ok read
  obtain ⟨rfl, front, -⟩ := next_of_current looked moved more
  have start : Takes stream behind [first] := ⟨[placed], front, by rw [← same]; rfl⟩
  obtain ⟨words, lost, takes, derives⟩ := consumes (start.tidy tidy) read
  exact ⟨_, _, start.cons takes, derives⟩

theorem consumes_type (all : AllConsume steps) : Consumes (type (steps + 1)) .type := by
  intro stream left found tidy read
  rw [type] at read
  obtain ⟨token, behind, looked, read⟩ := bind_eq_ok read
  have same := current_leaves looked
  obtain ⟨shown, -⟩ := current_eq_ok_iff.mp looked
  have path : pathOrMacro steps behind = .ok found left →
      ∃ words lost, Takes stream left words ∧ Derives (.type found) words lost := by
    intro read
    obtain ⟨words, lost, takes, derives⟩ := all.pathOrMacro (same.tidy tidy) read
    exact ⟨words, lost, same.after takes, derives⟩
  have mark : token.kind ∈ TokenKind.symbols → token.bare = .symbol token.kind := by
    intro isSymbol
    refine (tidy.skipped.of_front shown ?_ (front?_skipped shown)).1.eq_symbol isSymbol
    intro last
    rw [last] at isSymbol
    exact absurd isSymbol (by decide)
  have inferred : ConsumesBehind (.name "_") (pure .inferred) := fun _ _ _ _ read => by
    cases read
    exact ⟨[], _, .of_eq rfl, .inferred⟩
  generalize kinds : token.kind = kind at read mark
  have more : kind ≠ .endOfInput → token.kind ≠ .endOfInput := fun other => by rwa [kinds]
  cases kind
  case openParen => exact all.tupleOrGroup.next tidy looked (mark (by decide)) (more (by decide)) read
  case openSquare => exact (consumes_brackets all).next tidy looked (mark (by decide)) (more (by decide)) read
  case ampersand => exact (consumes_reference all).next tidy looked (mark (by decide)) (more (by decide)) read
  case star => exact (consumes_pointer all).next tidy looked (mark (by decide)) (more (by decide)) read
  case bang => exact absurd kinds (tidy.skipped.of_front shown (more (by decide)) (by rw [kinds]; decide)).2
  case lessThan => exact path read
  case identifier =>
    replace more := more (by decide)
    have name : ∀ {text : String}, token.value = text → token.bare = .name text := by
      rintro _ rfl
      rw [Token.bare, kinds]
      rfl
    by_cases hole : token.value = "_"
    · simp only [hole] at read
      exact inferred.next tidy looked (name hole) more read
    by_cases isFunction : token.value = "fn"
    · simp only [isFunction] at read
      exact (consumes_function all).next tidy looked (name isFunction) more read
    by_cases isImpl : token.value = "impl"
    · simp only [isImpl] at read
      exact (consumes_implTrait all).next tidy looked (name isImpl) more read
    by_cases isDyn : token.value = "dyn"
    · simp only [isDyn] at read
      exact (consumes_traitObject all).next tidy looked (name isDyn) more read
    · simp only at read
      exact path read
  all_goals cases read

theorem allConsume (steps : Nat) : AllConsume steps := by
  induction steps with
  | zero =>
    have failed : ∀ {α : Type} {form : α → Form}, Consumes (throw .outOfSteps) form := fun _ read => by cases read
    have failedOpened : ∀ {first : BareToken} {α : Type} {form : α → Form},
      ConsumesOpened first (throw .outOfSteps) form := fun _ read => by cases read
    have failedBehind : ∀ {first : BareToken}, ConsumesBehind first (throw .outOfSteps) := fun _ read => by cases read
    exact {
      type := failed
      tupleOrGroup := failedBehind
      types := failed
      output := failed
      pathOrMacro := failed
      path := failed
      segments := failed
      segment := failed
      angleArguments := failedOpened
      arguments := failed
      argument := failed
      bounds := failed
      bound := failed }
  | succ steps ih =>
    exact {
      type := consumes_type ih
      tupleOrGroup := consumes_tupleOrGroup ih
      types := consumes_types ih
      output := consumes_output ih
      pathOrMacro := consumes_pathOrMacro ih
      path := consumes_path ih
      segments := consumes_segments ih
      segment := consumes_segment ih
      angleArguments := consumes_angleArguments ih
      arguments := consumes_arguments ih
      argument := consumes_argument ih
      bounds := consumes_bounds ih
      bound := consumes_bound ih }

/-! ### The whole text -/

def Text.BangFree (text : String) : Prop := ∀ word ∈ BareToken.ofText text, word.kind ≠ .bang

instance (text : String) : Decidable (Text.BangFree text) :=
  inferInstanceAs (Decidable (∀ word ∈ BareToken.ofText text, word.kind ≠ .bang))

theorem Text.BangFree.tidy {text : String} (bangFree : BangFree text) : (TokenStream.ofText text).Tidy := by
  intro token member
  have own := List.mem_of_mem_filter member
  exact ⟨lexed_of_mem_ofText own, bangFree token.bare (List.mem_filterMap.mpr ⟨_, own, rfl⟩)⟩

namespace TypeExpr

/-- The parser drops nothing but double colons in front of angle brackets, trailing commas, and the subjects of
qualified paths that stand as traits: the tokens that it consumes are derived by the grammar, and they are those of the
rendering exactly if no such subject is among them, for which an `as` has to stand in front of an angle bracket. -/
theorem parse_consumes {text : String} (bangFree : Text.BangFree text) {expr : TypeExpr} {left : TokenStream}
    (read : parse (TokenStream.ofText text) = .ok expr left) :
    ∃ (consumed : List BareToken) (lost : List TypeExpr) (placed : List Token) (after : Position),
      Takes (TokenStream.ofText text) left consumed ∧ Derives (.type expr) consumed lost ∧
      Lexeme.ofText expr.render = (placed.map .token, .finished after) ∧
      (Trims consumed (placed.map Token.bare) ↔ lost = []) ∧
      (lost ≠ [] → [.name "as", .symbol .lessThan] <:+: consumed) := by
  obtain ⟨consumed, lost, takes, derives⟩ := (allConsume _).type bangFree.tidy read
  obtain ⟨-, sure⟩ := (sound .verbatimFree _).type (lexed_ofText text) read
  obtain ⟨⟨-, formed⟩, -⟩ := sure derives.verbatimFree
  obtain ⟨placed, after, lexed, same, -⟩ := (expr.spells formed).lexed
  refine ⟨consumed, lost, placed, after, takes, derives, lexed, ?_, derives.isInfix_of_lost⟩
  rw [same]
  exact derives.trims_iff

theorem parse_consumes_nested : ∃ expr left,
    Text.BangFree "(Vec::<u8, /* c */ [T; 4],>, &'a mut <T as Iterator<Item = A>>::Item,) // rest" ∧
    parse (TokenStream.ofText "(Vec::<u8, /* c */ [T; 4],>, &'a mut <T as Iterator<Item = A>>::Item,) // rest") =
      .ok expr left ∧
    ∃ (consumed : List BareToken) (lost : List TypeExpr) (placed : List Token) (after : Position),
      Takes (TokenStream.ofText "(Vec::<u8, /* c */ [T; 4],>, &'a mut <T as Iterator<Item = A>>::Item,) // rest") left
        consumed ∧ Derives (.type expr) consumed lost ∧
      Lexeme.ofText expr.render = (placed.map .token, .finished after) ∧
      (Trims consumed (placed.map Token.bare) ↔ lost = []) ∧
      (lost ≠ [] → [.name "as", .symbol .lessThan] <:+: consumed) := by
  let expr : TypeExpr := .tuple [.path (.angle "Vec" [.type (.named "u8"), .type (.array (.named "T") "4")]) [],
    .reference (some ⟨"a"⟩) true (.qualified (.named "T") 1 (.angle "Iterator" [.binding "Item" (.named "A")])
      [.plain "Item"])]
  have bangFree : Text.BangFree
      "(Vec::<u8, /* c */ [T; 4],>, &'a mut <T as Iterator<Item = A>>::Item,) // rest" := by decide +kernel
  have shown : ofText? "(Vec::<u8, /* c */ [T; 4],>, &'a mut <T as Iterator<Item = A>>::Item,) // rest" =
      some expr := by decide +kernel
  obtain ⟨left, read⟩ := ofText?_eq_some_iff.mp shown
  exact ⟨expr, left, bangFree, read, parse_consumes bangFree read⟩

/-- A trait that is a qualified path loses its subject: every token is consumed, and those of the rendering are fewer by
more than double colons and commas. -/
theorem parse_loses_subject : ∃ expr left,
    parse (TokenStream.ofText "<T as <U as V>::W>::X") = .ok expr left ∧ left.solid = [] ∧
      ¬ Trims (BareToken.ofText "<T as <U as V>::W>::X") (BareToken.ofText expr.render) := by
  let expr : TypeExpr := .qualified (.named "T") 2 (.plain "V") [.plain "W", .plain "X"]
  have shown : EStateM.Result.casesOn (parse (TokenStream.ofText "<T as <U as V>::W>::X"))
      (fun found left => decide (found = expr ∧ left.solid = [])) (fun _ _ => false) = true := by decide +kernel
  cases read : parse (TokenStream.ofText "<T as <U as V>::W>::X") with
  | ok found left =>
    rw [read] at shown
    obtain ⟨rfl, all⟩ := of_decide_eq_true shown
    exact ⟨_, left, rfl, all, fun trims => absurd trims.angles_eq (by decide +kernel)⟩
  | error fault left =>
    rw [read] at shown
    cases shown

end TypeExpr

end CowView
