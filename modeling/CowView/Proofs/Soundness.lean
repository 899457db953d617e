import CowView.Proofs.MacroGroup
import CowView.Proofs.Plainness

/-!
The parser gives what the grammar allows: every expression that it reads off a stream of the lexer is
well-formed, starts as the stream did, and does not go on with the token after it. The induction is on
the number of steps, over all functions of the parser at once.
-/

namespace CowView

open TokenStream TypeExpr.Parser Text

/-! ### Tokens of the lexer -/

namespace BareToken

theorem IsWord.kind_mem {token : BareToken} (isWord : token.IsWord) :
    token.kind ∈ [.identifier, .number, .lifetime] := by
  cases isWord <;> simp

theorem kind_notMem_symbols {kind : TokenKind} (word : kind ∈ [.identifier, .number, .lifetime]) :
    kind ∉ TokenKind.symbols := by
  revert word
  cases kind <;> decide

theorem Lexed.isWord {token : BareToken} (lexed : token.Lexed)
    (word : token.kind ∈ [.identifier, .number, .lifetime]) : token.IsWord := by
  rcases lexed with isWord | ⟨isSymbol, -⟩ | ⟨comment, -⟩
  · exact isWord
  · exact absurd isSymbol (kind_notMem_symbols word)
  · rw [comment] at word
    exact absurd word (by decide)

theorem Lexed.eq_symbol {token : BareToken} (lexed : token.Lexed)
    (isSymbol : token.kind ∈ TokenKind.symbols) : token = .symbol token.kind := by
  rcases lexed with isWord | ⟨-, value⟩ | ⟨comment, -⟩
  · exact absurd isSymbol (kind_notMem_symbols isWord.kind_mem)
  · rw [symbol, ← value]
  · rw [comment] at isSymbol
    exact absurd isSymbol (by decide)

theorem kind_of_fits {kind : TokenKind} {wanted : Option String} {token : BareToken}
    (fit : token.fits kind wanted = true) : token.kind = kind := by
  simp only [fits, Bool.and_eq_true, decide_eq_true_eq] at fit
  exact fit.1

theorem eq_name_of_fits {value : String} {token : BareToken}
    (fit : token.fits .identifier (some value) = true) : token = .name value := by
  by_cases same : token = .name value
  · exact same
  · rw [fits_name_of_ne same] at fit
    cases fit

end BareToken

namespace TokenStream

variable {stream left : TokenStream} {kind : TokenKind} {wanted : Option String}
  {token : BareToken}

theorem Lexed.ahead_lexed (lexed : stream.Lexed) (shown : stream.ahead? = some token)
    (more : token.kind ≠ .endOfInput) : token.Lexed := by
  rcases lexed.ahead? shown with own | rfl
  · exact own
  · exact absurd rfl more

theorem Lexed.ahead_symbol (lexed : stream.Lexed) (shown : stream.ahead? = some token)
    (isSymbol : token.kind ∈ TokenKind.symbols) : token = .symbol token.kind := by
  refine (lexed.ahead_lexed shown fun same => ?_).eq_symbol isSymbol
  rw [same] at isSymbol
  revert isSymbol
  decide

theorem nextIs_symbol (isSymbol : kind ∈ TokenKind.symbols) (lexed : stream.Lexed)
    (read : nextIs kind none stream = .ok true left) :
    left.Lexed ∧ stream.ahead? = some (.symbol kind) := by
  obtain ⟨lexed', token, shown, fit⟩ := nextIs_true lexed read
  have same := BareToken.kind_of_fits fit
  rw [← same] at isSymbol
  rw [shown, lexed.ahead_symbol shown isSymbol, same]
  exact ⟨lexed', rfl⟩

theorem nextIs_other (lexed : stream.Lexed) (read : nextIs kind none stream = .ok false left) :
    left.Lexed ∧ left.ahead? = stream.ahead? ∧
      ∀ token, stream.ahead? = some token → token.kind ≠ kind := by
  obtain ⟨lexed', same, token, shown, fit⟩ := nextIs_false lexed read
  refine ⟨lexed', same, fun other again => ?_⟩
  rw [shown] at again
  cases again
  simpa [BareToken.fits] using fit

theorem ensure_symbol {value : String} (isSymbol : kind ∈ TokenKind.symbols)
    (lexed : stream.Lexed) (read : ensure kind none false stream = .ok value left) :
    left.Lexed ∧ stream.ahead? = some (.symbol kind) := by
  obtain ⟨lexed', token, shown, fit, -⟩ := ensure_ok lexed read
  have same := BareToken.kind_of_fits fit
  rw [← same] at isSymbol
  rw [shown, lexed.ahead_symbol shown isSymbol, same]
  exact ⟨lexed', rfl⟩

theorem ensure_name {value : String} (lexed : stream.Lexed)
    (read : ensure .identifier none false stream = .ok value left) :
    left.Lexed ∧ stream.ahead? = some (.name value) ∧ (BareToken.name value).IsWord := by
  obtain ⟨lexed', token, shown, fit, rfl⟩ := ensure_ok lexed read
  have same : token = .name token.value := by rw [BareToken.name, ← BareToken.kind_of_fits fit]
  have kind := BareToken.kind_of_fits fit
  have own := (lexed.ahead_lexed shown (by rw [kind]; decide)).isWord (by rw [kind]; decide)
  rw [same] at own
  exact ⟨lexed', by rw [shown, ← same], own⟩

theorem lifetime_ok {duration : Lifetime} (lexed : stream.Lexed)
    (read : TypeExpr.Parser.lifetime stream = .ok duration left) :
    left.Lexed ∧ stream.ahead? = some (.lifetime duration) ∧
      (BareToken.lifetime duration).IsWord := by
  obtain ⟨value, between, ensured, rest⟩ := bind_eq_ok read
  obtain ⟨lexed', token, shown, fit, rfl⟩ := ensure_ok lexed ensured
  have kind := BareToken.kind_of_fits fit
  have own := (lexed.ahead_lexed shown (by rw [kind]; decide)).isWord (by rw [kind]; decide)
  obtain ⟨known, marked, same⟩ := own.ofMarked? kind
  rw [marked] at rest
  cases rest
  rw [← same]
  exact ⟨lexed', shown, own⟩

theorem test_symbol {α : Type} {yes no : Reading α} {value : α}
    (isSymbol : kind ∈ TokenKind.symbols) (lexed : stream.Lexed)
    (read : (nextIs kind none >>= fun found => if found then yes else no) stream =
      .ok value left) :
    (∃ between, (between.Lexed ∧ stream.ahead? = some (.symbol kind)) ∧
      yes between = .ok value left) ∨
    ∃ between, (between.Lexed ∧ between.ahead? = stream.ahead? ∧
      ∀ token, stream.ahead? = some token → token.kind ≠ kind) ∧ no between = .ok value left := by
  obtain ⟨found, between, tested, later⟩ := bind_eq_ok read
  cases found with
  | true => exact .inl ⟨between, nextIs_symbol isSymbol lexed tested, later⟩
  | false => exact .inr ⟨between, nextIs_other lexed tested, later⟩

theorem glance_symbol {α : Type} {yes no : Reading α} {value : α}
    (isSymbol : kind ∈ TokenKind.symbols) (lexed : stream.Lexed)
    (read : (peekedIs kind none >>= fun found => if found then yes else no) stream =
      .ok value left) :
    (∃ between, (between.Lexed ∧ (∀ token, between.front? = some token → token.bare = .symbol kind) ∧
      between.ahead? = stream.ahead? ∧ stream.ahead? = some (.symbol kind)) ∧
        yes between = .ok value left) ∨
    ∃ between, (between.Lexed ∧ between.ahead? = stream.ahead? ∧
      ∀ token, stream.ahead? = some token → token.kind ≠ kind) ∧ no between = .ok value left := by
  obtain ⟨found, between, looked, later⟩ := bind_eq_ok read
  obtain ⟨lexed', same, token, shown, fit⟩ := peekedIs_ok lexed looked
  cases found with
  | true =>
    have kinds := BareToken.kind_of_fits fit
    rw [← kinds] at isSymbol
    have whole := lexed.ahead_symbol shown isSymbol
    obtain ⟨placed, front, -, rfl⟩ := peekedIs_eq_ok_iff.mp looked
    refine .inl ⟨_, ⟨lexed', fun other again => ?_, same, by rw [shown, whole, kinds]⟩, later⟩
    rw [TokenStream.ahead?, again] at shown
    cases shown
    rw [whole, kinds]
  | false =>
    refine .inr ⟨between, ⟨lexed', same, fun other again => ?_⟩, later⟩
    rw [shown] at again
    cases again
    simpa [BareToken.fits] using fit

end TokenStream

/-! ### What a function of the parser makes sure of -/

namespace TokenStream

def Ends (stream : TokenStream) (continues : TokenKind → Bool) : Prop :=
  ∀ token, stream.ahead? = some token → continues token.kind = false

def Starts (stream : TokenStream) (words : List BareToken) : Prop :=
  stream.ahead? = some (BareToken.ahead words)

end TokenStream

def Makes {α : Type} (action : Reading α) (plain : α → Prop)
    (sure : (stream left : TokenStream) → α → Prop) : Prop :=
  ∀ ⦃stream left : TokenStream⦄ ⦃value : α⦄, stream.Lexed → action stream = .ok value left →
    left.Lexed ∧ (plain value → sure stream left value)

namespace TypeExpr

def FormsType (expr : TypeExpr) : Prop := expr.isType ∧ expr.WellFormed False

def FormTypes (exprs : List TypeExpr) : Prop :=
  (∀ expr ∈ exprs, expr.isType) ∧ WellFormedAll False exprs

def FormsOutput (output : Option TypeExpr) : Prop :=
  (∀ result ∈ output, result.isType) ∧ OutputWellFormed False output

def FormBounds (bounds : List TypeExpr) : Prop :=
  (∀ bound ∈ bounds, bound.isBound) ∧ WellFormedAll False bounds ∧ bounds ≠ [] ∧ Parted bounds

theorem formTypes_nil : FormTypes [] := ⟨List.forall_mem_nil _, trivial⟩

theorem FormTypes.cons {expr : TypeExpr} {rest : List TypeExpr} (first : expr.FormsType)
    (others : FormTypes rest) : FormTypes (expr :: rest) :=
  ⟨List.forall_mem_cons.mpr ⟨first.1, others.1⟩, first.2, others.2⟩

end TypeExpr

theorem TypeExpr.isArgument_of_isType {expr : TypeExpr} (isType : expr.isType = true) :
    expr.isArgument = true := by
  cases expr <;> first | rfl | exact isType

theorem Path.isPath_toExpr (found : Path) : found.toExpr.isPath = true := by
  obtain ⟨subject, first, rest⟩ := found
  cases subject <;> rfl

theorem Path.isBound_toExpr (found : Path) : found.toExpr.isBound = true := by
  obtain ⟨subject, first, rest⟩ := found
  cases subject <;> rfl

def MakesType (plainness : Plainness) (action : Reading TypeExpr) : Prop :=
  Makes action (fun expr => plainness.expr expr) fun stream left expr =>
    expr.FormsType ∧ stream.Starts expr.words ∧ left.Ends (expr.continuesAt ·)

def MakesPathType (plainness : Plainness) (action : Reading TypeExpr) : Prop :=
  Makes action (fun expr => plainness.expr expr) fun stream left expr =>
    (∀ name ∈ TypeExpr.reserved, stream.ahead? ≠ some (.name name)) →
      expr.FormsType ∧ stream.Starts expr.words ∧ left.Ends (expr.continuesAt ·)

def MakesForm (plainness : Plainness) (first : BareToken) (action : Reading TypeExpr) : Prop :=
  Makes action (fun expr => plainness.expr expr) fun _ left expr =>
    expr.FormsType ∧ BareToken.ahead expr.words = first ∧ left.Ends (expr.continuesAt ·)

def MakesBound (plainness : Plainness) (action : Reading TypeExpr) : Prop :=
  Makes action (fun bound => plainness.expr bound) fun _ left bound =>
    (bound.isBound ∧ bound.WellFormed False) ∧ left.Ends (bound.boundContinuesAt ·)

def MakesTypes (plainness : Plainness) (action : Reading (List TypeExpr)) : Prop :=
  Makes action (fun found => ∀ expr ∈ found, plainness.expr expr) fun _ _ found =>
    TypeExpr.FormTypes found

def MakesBounds (plainness : Plainness) (action : Reading (List TypeExpr)) : Prop :=
  Makes action (fun found => ∀ bound ∈ found, plainness.expr bound) fun _ left found =>
    TypeExpr.FormBounds found ∧
      left.Ends fun kind => decide (kind = .plus) || TypeExpr.lastContinuesAt kind found

def MakesOutput (plainness : Plainness) (action : Reading (Option TypeExpr)) : Prop :=
  Makes action (fun found => ∀ result ∈ found, plainness.expr result) fun _ left found =>
    TypeExpr.FormsOutput found ∧ left.Ends ((TypeExpr.function [] found).continuesAt ·)

/-- The subject of a path that names a trait is dropped, so the segments are sure without it. -/
def MakesPath (plainness : Plainness) (action : Reading Path) : Prop :=
  Makes action (fun found => ∀ segment ∈ found.segments, plainness.segment segment)
    fun stream left found => Segment.WellFormedAll False found.segments ∧
      (plainness.expr found.toExpr → found.toExpr.WellFormed False ∧
        stream.Starts found.toExpr.words ∧ left.Ends (found.toExpr.boundContinuesAt ·))

def MakesSegment (plainness : Plainness) (action : Reading Segment) : Prop :=
  Makes action plainness.segment fun stream left found =>
    found.WellFormed False ∧ stream.Starts found.words ∧ left.Ends (found.continuesAt ·)

def MakesSegments (plainness : Plainness) (action : Reading (List Segment)) : Prop :=
  Makes action (fun found => ∀ segment ∈ found, plainness.segment segment) fun stream left found =>
    ∀ before : Segment, stream.Ends (before.continuesAt ·) →
      (Segment.WellFormedAll False found ∧ Segment.Parted (before :: found)) ∧
        left.Ends fun kind => decide (kind = .doubleColon) ||
          Segment.lastContinuesAt kind (before.continuesAt kind) found

def MakesArgument (plainness : Plainness) (action : Reading Argument) : Prop :=
  Makes action plainness.argument fun _ _ found => found.WellFormed False

def MakesArguments (plainness : Plainness) (action : Reading (List Argument)) : Prop :=
  Makes action (fun found => ∀ argument ∈ found, plainness.argument argument) fun _ _ found =>
    Argument.WellFormedAll False found

/-- What the functions of the parser make sure of within a number of steps. -/
structure Sound (plainness : Plainness) (steps : Nat) : Prop where
  type : MakesType plainness (type steps)
  tupleOrGroup : MakesForm plainness (.symbol .openParen) (tupleOrGroup steps)
  types : ∀ closer ∈ TokenKind.symbols, MakesTypes plainness (types closer steps)
  output : MakesOutput plainness (output steps)
  pathOrMacro : MakesPathType plainness (pathOrMacro steps)
  path : MakesPath plainness (path steps)
  segments : MakesSegments plainness (segments steps)
  segment : MakesSegment plainness (segment steps)
  angleArguments : MakesArguments plainness (angleArguments steps)
  arguments : MakesArguments plainness (arguments steps)
  argument : MakesArgument plainness (argument steps)
  bounds : MakesBounds plainness (bounds steps)
  bound : MakesBound plainness (bound steps)

variable {plainness : Plainness} {steps : Nat} {stream left : TokenStream}

/-! ### Lists -/

theorem sound_output (sound : Sound plainness steps) : MakesOutput plainness (output (steps + 1)) := by
  intro stream left found lexed read
  rw [output] at read
  rcases test_symbol (by decide) lexed read with
    ⟨between, ⟨lexed, -⟩, read⟩ | ⟨between, ⟨lexed, same, other⟩, read⟩
  · obtain ⟨result, behind, first, last⟩ := bind_eq_ok read
    obtain ⟨lexed, sure⟩ := sound.type lexed first
    cases last
    refine ⟨lexed, fun plain => ?_⟩
    obtain ⟨⟨isType, formed⟩, -, ends⟩ := sure (plain result rfl)
    refine ⟨⟨fun other member => ?_, formed⟩, ends⟩
    cases member
    exact isType
  · cases read
    refine ⟨lexed, fun _ => ⟨⟨fun _ member => (by cases member), trivial⟩, fun token shown => ?_⟩⟩
    rw [same] at shown
    simp [TypeExpr.continuesAt, other token shown]

theorem sound_types (sound : Sound plainness steps) (closer : TokenKind)
    (isSymbol : closer ∈ TokenKind.symbols) : MakesTypes plainness (types closer (steps + 1)) := by
  intro stream left found lexed read
  rw [types] at read
  rcases test_symbol isSymbol lexed read with
    ⟨between, ⟨lexed, -⟩, read⟩ | ⟨between, ⟨lexed, -, -⟩, read⟩
  · cases read
    exact ⟨lexed, fun _ => TypeExpr.formTypes_nil⟩
  · obtain ⟨first, behind, own, read⟩ := bind_eq_ok read
    obtain ⟨lexed, front⟩ := sound.type lexed own
    rcases test_symbol (by decide) lexed read with
      ⟨between, ⟨lexed, -⟩, read⟩ | ⟨between, ⟨lexed, -, -⟩, read⟩
    · obtain ⟨rest, behind, others, last⟩ := bind_eq_ok read
      obtain ⟨lexed, back⟩ := sound.types closer isSymbol lexed others
      cases last
      refine ⟨lexed, fun plain => ?_⟩
      replace plain := List.forall_mem_cons.mp plain
      exact .cons (front plain.1).1 (back plain.2)
    · obtain ⟨value, behind, closed, last⟩ := bind_eq_ok read
      obtain ⟨lexed, -⟩ := ensure_symbol isSymbol lexed closed
      cases last
      exact ⟨lexed, fun plain => .cons (front (plain first List.mem_cons_self)).1
        TypeExpr.formTypes_nil⟩

theorem sound_tupleOrGroup (sound : Sound plainness steps) :
    MakesForm plainness (.symbol .openParen) (tupleOrGroup (steps + 1)) := by
  intro stream left found lexed read
  rw [tupleOrGroup] at read
  rcases test_symbol (by decide) lexed read with
    ⟨between, ⟨lexed, -⟩, read⟩ | ⟨between, ⟨lexed, -, -⟩, read⟩
  · cases read
    exact ⟨lexed, fun _ => ⟨⟨rfl, TypeExpr.formTypes_nil⟩, rfl, fun _ _ => rfl⟩⟩
  · obtain ⟨first, behind, own, read⟩ := bind_eq_ok read
    obtain ⟨lexed, front⟩ := sound.type lexed own
    rcases test_symbol (by decide) lexed read with
      ⟨between, ⟨lexed, -⟩, read⟩ | ⟨between, ⟨lexed, -, -⟩, read⟩
    · cases read
      refine ⟨lexed, fun plain => ?_⟩
      obtain ⟨isType, formed⟩ := (front (plainness.parts plain)).1
      exact ⟨⟨isType, formed⟩, rfl, fun _ _ => rfl⟩
    · obtain ⟨value, behind, closed, read⟩ := bind_eq_ok read
      obtain ⟨lexed, -⟩ := ensure_symbol (by decide) lexed closed
      obtain ⟨rest, behind, others, last⟩ := bind_eq_ok read
      obtain ⟨lexed, back⟩ := sound.types _ (by decide) lexed others
      cases last
      refine ⟨lexed, fun plain => ?_⟩
      have parts : ∀ expr ∈ first :: rest, plainness.expr expr := plainness.parts plain
      rw [List.forall_mem_cons] at parts
      have formed := TypeExpr.FormTypes.cons (front parts.1).1 (back parts.2)
      refine ⟨⟨rfl, formed⟩, ?_, fun _ _ => rfl⟩
      cases rest <;> rfl

theorem sound_bounds (sound : Sound plainness steps) : MakesBounds plainness (bounds (steps + 1)) := by
  intro stream left found lexed read
  rw [bounds] at read
  obtain ⟨first, behind, own, read⟩ := bind_eq_ok read
  obtain ⟨lexed, front⟩ := sound.bound lexed own
  rcases test_symbol (by decide) lexed read with
    ⟨between, ⟨lexed, shown⟩, read⟩ | ⟨between, ⟨lexed, same, other⟩, read⟩
  · obtain ⟨rest, behind, others, last⟩ := bind_eq_ok read
    obtain ⟨lexed, back⟩ := sound.bounds lexed others
    cases last
    refine ⟨lexed, fun plain => ?_⟩
    replace plain := List.forall_mem_cons.mp plain
    obtain ⟨⟨isBound, formed⟩, ends⟩ := front plain.1
    obtain ⟨⟨areBounds, all, some, parted⟩, last⟩ := back plain.2
    refine ⟨⟨List.forall_mem_cons.mpr ⟨isBound, areBounds⟩, ⟨formed, all⟩, List.cons_ne_nil _ _, ?_⟩, ?_⟩
    · rw [TypeExpr.Parted, List.dropLast_cons_of_ne_nil some, List.forall_mem_cons]
      exact ⟨ends _ shown, parted⟩
    · cases rest with
      | nil => exact absurd rfl some
      | cons second rest => exact last
  · cases read
    refine ⟨lexed, fun plain => ?_⟩
    obtain ⟨⟨isBound, formed⟩, ends⟩ := front (plain first List.mem_cons_self)
    refine ⟨⟨by simpa using isBound, ⟨formed, trivial⟩, List.cons_ne_nil _ _, List.forall_mem_nil _⟩,
      fun token shown => ?_⟩
    rw [same] at shown
    simp [TypeExpr.lastContinuesAt, other token shown, ends token shown]

theorem sound_arguments (sound : Sound plainness steps) : MakesArguments plainness (arguments (steps + 1)) := by
  intro stream left found lexed read
  rw [arguments] at read
  rcases test_symbol (by decide) lexed read with
    ⟨between, ⟨lexed, -⟩, read⟩ | ⟨between, ⟨lexed, -, -⟩, read⟩
  · cases read
    exact ⟨lexed, fun _ => trivial⟩
  · obtain ⟨first, behind, own, read⟩ := bind_eq_ok read
    obtain ⟨lexed, front⟩ := sound.argument lexed own
    rcases test_symbol (by decide) lexed read with
      ⟨between, ⟨lexed, -⟩, read⟩ | ⟨between, ⟨lexed, -, -⟩, read⟩
    · obtain ⟨rest, behind, others, last⟩ := bind_eq_ok read
      obtain ⟨lexed, back⟩ := sound.arguments lexed others
      cases last
      refine ⟨lexed, fun plain => ?_⟩
      replace plain := List.forall_mem_cons.mp plain
      exact ⟨front plain.1, back plain.2⟩
    · obtain ⟨value, behind, closed, last⟩ := bind_eq_ok read
      obtain ⟨lexed, -⟩ := ensure_symbol (by decide) lexed closed
      cases last
      exact ⟨lexed, fun plain => ⟨front (plain first List.mem_cons_self), trivial⟩⟩

theorem sound_segments (sound : Sound plainness steps) : MakesSegments plainness (segments (steps + 1)) := by
  intro stream left found lexed read
  rw [segments] at read
  rcases test_symbol (by decide) lexed read with
    ⟨between, ⟨lexed, shown⟩, read⟩ | ⟨between, ⟨lexed, same, other⟩, read⟩
  · obtain ⟨first, behind, own, read⟩ := bind_eq_ok read
    obtain ⟨lexed, front⟩ := sound.segment lexed own
    obtain ⟨rest, behind, others, last⟩ := bind_eq_ok read
    obtain ⟨lexed, back⟩ := sound.segments lexed others
    cases last
    refine ⟨lexed, fun plain before apart => ?_⟩
    replace plain := List.forall_mem_cons.mp plain
    obtain ⟨formed, -, ends⟩ := front plain.1
    obtain ⟨⟨all, parted⟩, last⟩ := back plain.2 first ends
    refine ⟨⟨⟨formed, all⟩, ?_⟩, last⟩
    exact List.forall_mem_cons.mpr ⟨apart _ shown, parted⟩
  · cases read
    refine ⟨lexed, fun _ before apart => ⟨⟨trivial, List.forall_mem_nil _⟩, fun token shown => ?_⟩⟩
    rw [same] at shown
    simpa [Segment.lastContinuesAt, other token shown] using apart token shown

theorem sound_angleArguments (sound : Sound plainness steps) :
    MakesArguments plainness (angleArguments (steps + 1)) := by
  intro stream left found lexed read
  rw [angleArguments] at read
  obtain ⟨value, behind, opened, read⟩ := bind_eq_ok read
  obtain ⟨lexed, -⟩ := ensure_symbol (by decide) lexed opened
  exact sound.arguments lexed read

/-! ### Segments and arguments -/

theorem sound_segment (sound : Sound plainness steps) : MakesSegment plainness (segment (steps + 1)) := by
  intro stream left found lexed read
  rw [TypeExpr.Parser.segment] at read
  obtain ⟨name, behind, named, read⟩ := bind_eq_ok read
  obtain ⟨lexed, start, isWord⟩ := ensure_name lexed named
  have angle : ∀ {behind : TokenStream}, behind.Lexed →
      (angleArguments steps >>= fun found => pure (Segment.angle name found)) behind =
        .ok found left → left.Lexed ∧ (plainness.segment found → found.WellFormed False ∧
          stream.Starts found.words ∧ left.Ends (found.continuesAt ·)) := by
    intro behind lexed read
    obtain ⟨arguments, behind, own, last⟩ := bind_eq_ok read
    obtain ⟨lexed, sure⟩ := sound.angleArguments lexed own
    cases last
    refine ⟨lexed, fun plain => ?_⟩
    exact ⟨⟨isWord, sure (plainness.segmentParts plain)⟩, start, fun _ _ => rfl⟩
  rcases glance_symbol (by decide) lexed read with
    ⟨between, ⟨lexed, -⟩, read⟩ | ⟨between, ⟨lexed, same, noAngle⟩, read⟩
  · exact angle lexed read
  rw [← same] at noAngle
  rcases glance_symbol (by decide) lexed read with
    ⟨between, ⟨lexed, only, -⟩, read⟩ | ⟨between, ⟨lexed, same, -⟩, read⟩
  · obtain ⟨colons, behind, moved, read⟩ := bind_eq_ok read
    obtain ⟨lexed, front⟩ := next_ok lexed moved
    have own := only colons front
    rcases glance_symbol (by decide) lexed read with
      ⟨between, ⟨lexed, -⟩, read⟩ | ⟨between, ⟨lexed, -⟩, read⟩
    · exact angle lexed read
    · obtain ⟨back, behind, returned, last⟩ := bind_eq_ok read
      have kind : colons.kind = .doubleColon := congrArg BareToken.kind own
      obtain ⟨lexed, shown⟩ := unget_ok lexed
        (by rw [own]; exact .inr (.inl ⟨by decide, rfl⟩)) (by rw [kind]; decide) returned
      cases last
      refine ⟨lexed, fun _ => ⟨isWord, start, fun token again => ?_⟩⟩
      rw [shown, own] at again
      cases again
      rfl
  rw [← same] at noAngle
  rcases test_symbol (by decide) lexed read with
    ⟨between, ⟨lexed, -⟩, read⟩ | ⟨between, ⟨lexed, same, noParen⟩, read⟩
  · obtain ⟨inputs, behind, own, read⟩ := bind_eq_ok read
    obtain ⟨lexed, front⟩ := sound.types _ (by decide) lexed own
    obtain ⟨output, behind, result, last⟩ := bind_eq_ok read
    obtain ⟨lexed, back⟩ := sound.output lexed result
    cases last
    refine ⟨lexed, fun plain => ?_⟩
    obtain ⟨own, result⟩ := plainness.segmentParts plain
    obtain ⟨formed, ends⟩ := back result
    refine ⟨⟨isWord, front own, formed⟩, start, ?_⟩
    cases output <;> exact ends
  · cases read
    refine ⟨lexed, fun _ => ⟨isWord, start, fun token shown => ?_⟩⟩
    rw [same] at shown
    simp [Segment.continuesAt, noAngle token shown, noParen token shown]

theorem sound_argument (sound : Sound plainness steps) : MakesArgument plainness (argument (steps + 1)) := by
  intro stream left found lexed read
  rw [argument] at read
  obtain ⟨token, behind, looked, read⟩ := bind_eq_ok read
  obtain ⟨lexed, same, shown, front⟩ := current_ok lexed looked
  have type : ∀ {behind : TokenStream}, behind.Lexed →
      (type steps >>= fun found => pure (Argument.type found)) behind = .ok found left →
        left.Lexed ∧ (plainness.argument found → found.WellFormed False) := by
    intro behind lexed read
    obtain ⟨expr, behind, own, last⟩ := bind_eq_ok read
    obtain ⟨lexed, sure⟩ := sound.type lexed own
    cases last
    refine ⟨lexed, fun plain => ?_⟩
    obtain ⟨isType, formed⟩ := (sure (plainness.argumentParts plain)).1
    exact ⟨TypeExpr.isArgument_of_isType isType, formed⟩
  have wordAhead : token.kind ∈ [.identifier, .number, .lifetime] → token.bare.IsWord := by
    intro word
    refine ((lexed.front? front).resolve_right fun last => ?_).isWord word
    rw [show token.kind = .endOfInput from congrArg BareToken.kind last] at word
    exact absurd word (by decide)
  generalize kinds : token.kind = kind at read wordAhead
  cases kind
  case lifetime =>
    obtain ⟨duration, behind, own, last⟩ := bind_eq_ok read
    obtain ⟨lexed, -, isWord⟩ := lifetime_ok lexed own
    cases last
    exact ⟨lexed, fun _ => ⟨rfl, isWord⟩⟩
  case number =>
    obtain ⟨taken, behind, moved, last⟩ := bind_eq_ok read
    obtain ⟨lexed, again⟩ := next_ok lexed moved
    obtain rfl : token = taken := Option.some.inj (front.symm.trans again)
    cases last
    have isWord := wordAhead (by decide)
    rw [Token.bare, kinds] at isWord
    exact ⟨lexed, fun _ => ⟨rfl, isWord⟩⟩
  case identifier =>
    obtain ⟨name, behind, moved, read⟩ := bind_eq_ok read
    obtain ⟨lexed, again⟩ := next_ok lexed moved
    obtain rfl : token = name := Option.some.inj (front.symm.trans again)
    have isWord := wordAhead (by decide)
    rcases test_symbol (by decide) lexed read with
      ⟨between, ⟨lexed, -⟩, read⟩ | ⟨between, ⟨lexed, -, -⟩, read⟩
    · obtain ⟨value, behind, own, last⟩ := bind_eq_ok read
      obtain ⟨lexed, sure⟩ := sound.type lexed own
      cases last
      refine ⟨lexed, fun plain => ?_⟩
      rw [Token.bare, kinds] at isWord
      exact ⟨isWord, (sure (plainness.argumentParts plain)).1⟩
    rcases test_symbol (by decide) lexed read with
      ⟨between, ⟨lexed, -⟩, read⟩ | ⟨between, ⟨lexed, -, -⟩, read⟩
    · obtain ⟨bounds, behind, own, last⟩ := bind_eq_ok read
      obtain ⟨lexed, sure⟩ := sound.bounds lexed own
      cases last
      refine ⟨lexed, fun plain => ?_⟩
      rw [Token.bare, kinds] at isWord
      exact ⟨isWord, (sure (plainness.argumentParts plain)).1⟩
    · obtain ⟨back, behind, returned, read⟩ := bind_eq_ok read
      obtain ⟨lexed, -⟩ := unget_ok lexed (.inl isWord) (by rw [kinds]; decide) returned
      exact type lexed read
  all_goals exact type lexed read

theorem sound_bound (sound : Sound plainness steps) : MakesBound plainness (bound (steps + 1)) := by
  intro stream left found lexed read
  rw [bound] at read
  obtain ⟨isLifetime, between, looked, read⟩ := bind_eq_ok read
  obtain ⟨lexed, -⟩ := peekedIs_ok lexed looked
  cases isLifetime with
  | true =>
    obtain ⟨duration, behind, own, last⟩ := bind_eq_ok read
    obtain ⟨lexed, -, isWord⟩ := lifetime_ok lexed own
    cases last
    exact ⟨lexed, fun _ => ⟨⟨rfl, isWord⟩, fun _ _ => rfl⟩⟩
  | false =>
    rcases test_symbol (by decide) lexed read with
      ⟨between, ⟨lexed, -⟩, read⟩ | ⟨between, ⟨lexed, -, -⟩, read⟩
    · obtain ⟨inner, behind, own, read⟩ := bind_eq_ok read
      obtain ⟨lexed, sure⟩ := sound.path lexed own
      obtain ⟨value, behind, closed, last⟩ := bind_eq_ok read
      obtain ⟨lexed, -⟩ := ensure_symbol (by decide) lexed closed
      cases last
      refine ⟨lexed, fun plain => ?_⟩
      have own : plainness.expr inner.toExpr := plainness.parts plain
      obtain ⟨formed, -⟩ := (sure (plainness.path own).2).2 own
      exact ⟨⟨inner.isPath_toExpr, formed⟩, fun _ _ => rfl⟩
    · obtain ⟨inner, behind, own, last⟩ := bind_eq_ok read
      obtain ⟨lexed, sure⟩ := sound.path lexed own
      cases last
      refine ⟨lexed, fun plain => ?_⟩
      obtain ⟨formed, -, ends⟩ := (sure (plainness.path plain).2).2 plain
      exact ⟨⟨inner.isBound_toExpr, formed⟩, ends⟩

/-! ### Paths -/

theorem Segment.lastContinuesAt_append (kind : TokenKind) (first : Segment) (rest : List Segment)
    (front : List Segment) (before : Bool) : lastContinuesAt kind before (front ++ first :: rest) =
      lastContinuesAt kind (first.continuesAt kind) rest := by
  induction front generalizing before with
  | nil => rfl
  | cons head tail ih => exact ih _

theorem segments_path_ok {trait : List Segment} (sound : Sound plainness steps)
    (lexed : stream.Lexed)
    (read : (Path.segments <$> path steps) stream = .ok trait left) : left.Lexed ∧
      ((∀ segment ∈ trait, plainness.segment segment) → Segment.WellFormedAll False trait) := by
  change EStateM.map Path.segments (path steps) stream = _ at read
  rw [EStateM.map] at read
  split at read
  next inner behind own =>
    obtain ⟨lexed, sure⟩ := sound.path lexed own
    cases read
    exact ⟨lexed, fun plain => (sure plain).1⟩
  · cases read

theorem chain_ok {α : Type} {next : Segment → List Segment → Reading α} {value : α}
    (sound : Sound plainness steps) (lexed : stream.Lexed)
    (read : (do
      let first ← segment steps
      let rest ← segments steps
      next first rest) stream = .ok value left) :
    ∃ first rest behind, next first rest behind = .ok value left ∧ behind.Lexed ∧
      ((∀ segment ∈ first :: rest, plainness.segment segment) →
        (Segment.WellFormedAll False (first :: rest) ∧ Segment.Parted (first :: rest)) ∧
          stream.Starts first.words ∧ behind.Ends fun kind => decide (kind = .doubleColon) ||
            Segment.lastContinuesAt kind (first.continuesAt kind) rest) := by
  obtain ⟨first, between, own, read⟩ := bind_eq_ok read
  obtain ⟨lexed, front⟩ := sound.segment lexed own
  obtain ⟨rest, behind, others, last⟩ := bind_eq_ok read
  obtain ⟨lexed, back⟩ := sound.segments lexed others
  refine ⟨first, rest, behind, last, lexed, fun plain => ?_⟩
  replace plain := List.forall_mem_cons.mp plain
  obtain ⟨formed, starts, ends⟩ := front plain.1
  obtain ⟨⟨all, parted⟩, last⟩ := back plain.2 first ends
  exact ⟨⟨⟨formed, all⟩, parted⟩, starts, last⟩

theorem qualified_ok {origin : TokenStream} {subject : TypeExpr} (trait : List Segment)
    {found : Path} (sound : Sound plainness steps) (lexed : stream.Lexed)
    (start : origin.ahead? = some (.symbol .lessThan))
    (front : plainness.expr subject → subject.FormsType)
    (middle : (∀ segment ∈ trait, plainness.segment segment) → Segment.WellFormedAll False trait)
    (read : (do
      let _ ← ensure .greaterThan
      let _ ← ensure .doubleColon
      let first ← segment steps
      let rest ← segments steps
      match trait with
      | [] => return Path.mk (some (subject, 0)) first rest
      | head :: tail => return Path.mk (some (subject, trait.length)) head (tail ++ first :: rest))
        stream =
        .ok found left) :
    left.Lexed ∧ ((∀ segment ∈ found.segments, plainness.segment segment) →
      Segment.WellFormedAll False found.segments ∧
        (plainness.expr found.toExpr → found.toExpr.WellFormed False ∧
          origin.Starts found.toExpr.words ∧ left.Ends (found.toExpr.boundContinuesAt ·))) := by
  obtain ⟨value, behind, closed, read⟩ := bind_eq_ok read
  obtain ⟨lexed, -⟩ := ensure_symbol (by decide) lexed closed
  obtain ⟨value, behind, colons, read⟩ := bind_eq_ok read
  obtain ⟨lexed, -⟩ := ensure_symbol (by decide) lexed colons
  obtain ⟨first, rest, behind, last, lexed, back⟩ := chain_ok sound lexed read
  cases trait with
  | nil =>
    cases last
    refine ⟨lexed, fun plain => ?_⟩
    obtain ⟨⟨all, parted⟩, -, ends⟩ := back plain
    refine ⟨all, fun whole => ⟨⟨front ((plainness.path whole).1 _ rfl), all.1, all.2,
      ⟨Int.le_refl _, Nat.zero_le _⟩, parted, nofun⟩, start, ends⟩⟩
  | cons head tail =>
    cases last
    refine ⟨lexed, fun plain => ?_⟩
    replace plain : ∀ segment ∈ (head :: tail) ++ first :: rest, plainness.segment segment := plain
    rw [List.forall_mem_append] at plain
    obtain ⟨⟨all, parted⟩, -, ends⟩ := back plain.2
    have joined : Segment.WellFormedAll False ((head :: tail) ++ first :: rest) :=
      Segment.wellFormedAll_append.mpr ⟨middle plain.1, all⟩
    refine ⟨joined, fun whole => ⟨⟨front ((plainness.path whole).1 _ rfl), joined.1,
      joined.2, ⟨Int.natCast_nonneg _, ?_⟩, ?_, nofun⟩, start, fun token shown => ?_⟩⟩
    · simp
    · simpa using parted
    · simp only [Path.toExpr, TypeExpr.boundContinuesAt, Segment.lastContinuesAt_append]
      exact ends token shown

theorem sound_path (sound : Sound plainness steps) : MakesPath plainness (path (steps + 1)) := by
  intro stream left found lexed read
  rw [path] at read
  rcases test_symbol (by decide) lexed read with
    ⟨between, ⟨lexed, start⟩, read⟩ | ⟨between, ⟨lexed, same, -⟩, read⟩
  · obtain ⟨subject, behind, own, read⟩ := bind_eq_ok read
    obtain ⟨lexed, front⟩ := sound.type lexed own
    obtain ⟨named, behind, tested, read⟩ := bind_eq_ok read
    cases named with
    | false =>
      obtain ⟨lexed, -⟩ := nextIs_false lexed tested
      exact qualified_ok [] sound lexed start (fun plain => (front plain).1) (fun _ => trivial) read
    | true =>
      obtain ⟨lexed, -⟩ := nextIs_true lexed tested
      obtain ⟨trait, behind, inner, read⟩ := bind_eq_ok read
      obtain ⟨lexed, middle⟩ := segments_path_ok sound lexed inner
      exact qualified_ok trait sound lexed start (fun plain => (front plain).1) middle read
  · obtain ⟨first, rest, behind, last, lexed, back⟩ := chain_ok sound lexed read
    cases last
    refine ⟨lexed, fun plain => ?_⟩
    obtain ⟨⟨all, parted⟩, starts, ends⟩ := back plain
    refine ⟨all, fun _ => ⟨⟨all.1, all.2, parted⟩, ?_, ends⟩⟩
    obtain ⟨others, shown⟩ := first.exists_words
    rw [Starts, same] at starts
    rw [Path.toExpr, TypeExpr.words_path, Starts, starts, shown]
    rfl

/-! ### Macros -/

theorem BareToken.Lexed.isPlain {token : BareToken} (lexed : token.Lexed)
    (plain : CommentFree token.value) : TokenGroup.IsPlain token := by
  rcases lexed with isWord | isSymbol | ⟨-, slash⟩
  · exact .inl isWord
  · exact .inr isSymbol
  · exact absurd slash plain

theorem macroGroup_ok {path : String} {expr : TypeExpr} (lexed : stream.Lexed)
    (read : macroGroup path stream = .ok expr left) : left.Lexed ∧ ∃ opening rest,
      expr = .verbatim (path ++ "!" ++
        TokenGroup.join ((opening :: rest).map BareToken.value)) ∧
      ((∀ token ∈ opening :: rest, CommentFree token.value) → TokenGroup.IsGroup opening rest) := by
  obtain ⟨-, opening, closer, values, -, -, front, opens, grouped, rfl⟩ := macroGroup_eq_ok_iff.mp read
  have lexed := lexed.skipped.advanced
  obtain ⟨lexed', tokens, rfl, balanced, all⟩ := TokenGroup.readWithin_ok lexed.advanced grouped
  have isSymbol := (TokenGroup.mem_closers opens).2.1
  have own : opening.bare = .symbol opening.kind := by
    rcases lexed.front? front with own | last
    · exact own.eq_symbol isSymbol
    · exact absurd (congrArg BareToken.kind last) (TokenGroup.ne_of_closer? opens).1
  refine ⟨lexed', opening.bare, tokens, rfl, fun plain => ⟨⟨closer, opens, balanced⟩, ?_, ?_⟩⟩
  · rw [own]
    rfl
  · exact fun token member => (all token member).isPlain (plain token (List.mem_cons_of_mem _ member))

theorem spells_invocation {path : TypeExpr} {strict : Prop} (formed : path.WellFormed strict)
    {opening : BareToken} {rest : List BareToken} (group : TokenGroup.IsGroup opening rest) :
    Spells (path.render ++ "!" ++ TokenGroup.join ((opening :: rest).map BareToken.value))
      (path.words ++ .symbol .bang :: opening :: rest) := by
  intro text tokens apart spelled
  have inner := TokenGroup.spells_join_group group text tokens apart spelled
  have mark := Spelled.mark .bang (by decide) (by decide) inner
  have whole := path.spells formed _ _ (startsApart_spelling (by decide) _) mark
  simpa [TokenKind.spelling] using whole

theorem BareToken.ofText_eq {text : String} {words : List BareToken} (spells : Spells text words) :
    ofText text = words := by
  have spelled := spells [] [] rfl .nil
  rw [List.append_nil, List.append_nil] at spelled
  obtain ⟨placed, after, read, same⟩ := spelled.ofText
  rw [ofText, read, ← same, List.filterMap_map]
  exact congrFun List.filterMap_eq_map placed

theorem BareToken.StartsType.append {words more : List BareToken} (starts : StartsType words)
    (apart : ∀ next ∈ more.head?, next.kind ≠ .equals ∧ next.kind ≠ .colon) :
    StartsType (words ++ more) := by
  match words with
  | [] => exact starts.elim
  | [first] => exact ⟨starts.1, fun second member _ => apart second member⟩
  | first :: second :: rest => exact starts

theorem wellFormed_invocation {path : TypeExpr} (isPath : path.isPath = true) (isType : path.isType = true)
    (formed : path.WellFormed False) (ends : path.boundContinuesAt .bang = false)
    {opening : BareToken} {rest : List BareToken} (group : TokenGroup.IsGroup opening rest) :
    TypeExpr.Opaque (path.render ++ "!" ++
      TokenGroup.join ((opening :: rest).map BareToken.value)) := by
  have spells := spells_invocation formed group
  have words := BareToken.ofText_eq spells
  refine ⟨by rwa [words], ?_, fun steps enough => ?_⟩
  · rw [words]
    exact (TypeExpr.startsType isType formed).append (by simp [BareToken.symbol])
  · rw [words, List.length_append, List.length_cons] at enough
    -- the path is read as it settles, with the same text
    have settles := path.settles formed
    obtain ⟨found, same⟩ := TypeExpr.exists_path (settles.isPath.trans isPath) settles.formed
    have reads := (path.settle.readable trivial settles.formed).path found same
    have text : found.toExpr.render = path.render := by rw [same, settles.text]
    have own : found.toExpr.words = path.words := by rw [same, settles.words]
    rw [words, ← own]
    obtain ⟨steps, rfl⟩ : ∃ less, steps = less + 2 := ⟨steps - 2, by omega⟩
    refine reads_type_of_path (by rw [same, settles.isType, isType]) ?_
    rw [pathOrMacro]
    refine (reads steps (by rw [own]; omega)).bind (.seen true (fun _ _ => rfl) ?_) fun _ _ => ?_
    · rw [← text]
      exact reads_macroGroup _ group
    · rw [same, settles.boundContinues]
      exact ends

theorem Path.isType_toExpr {found : Path} {stream : TokenStream}
    (starts : stream.Starts found.toExpr.words)
    (free : ∀ name ∈ TypeExpr.reserved, stream.ahead? ≠ some (.name name)) :
    found.toExpr.isType = true := by
  obtain ⟨subject, first, rest⟩ := found
  cases subject with
  | some pair => rfl
  | none =>
    obtain ⟨others, shown⟩ := first.exists_words
    rw [Path.toExpr, TypeExpr.words_path, Starts, shown] at starts
    have unreserved : first.name ∉ TypeExpr.reserved := fun member => free _ member starts
    simpa [Path.toExpr, TypeExpr.isType] using unreserved

theorem sound_pathOrMacro (sound : Sound plainness steps) : MakesPathType plainness (pathOrMacro (steps + 1)) := by
  intro stream left found lexed read
  rw [pathOrMacro] at read
  obtain ⟨inner, behind, own, read⟩ := bind_eq_ok read
  obtain ⟨lexed, front⟩ := sound.path lexed own
  rcases glance_symbol (by decide) lexed read with
    ⟨between, ⟨lexed, -, -, shown⟩, read⟩ | ⟨between, ⟨lexed, same, noBang⟩, read⟩
  · obtain ⟨lexed, opening, rest, rfl, grouped⟩ := macroGroup_ok lexed read
    refine ⟨lexed, fun plain free => ?_⟩
    obtain ⟨own, values⟩ := plainness.invocation plain
    obtain ⟨formed, starts, ends⟩ := (front (plainness.path own).2).2 own
    have isType := inner.isType_toExpr starts free
    have group := grouped fun token member => values _ (List.mem_map_of_mem member)
    refine ⟨⟨rfl, wellFormed_invocation inner.isPath_toExpr isType formed (ends _ shown) group⟩, ?_,
      fun _ _ => rfl⟩
    rw [TypeExpr.words, BareToken.ofText_eq (spells_invocation formed group), Starts, starts,
      BareToken.ahead_append (TypeExpr.startsType isType formed).ne_nil]
  · cases read
    refine ⟨lexed, fun plain free => ?_⟩
    obtain ⟨formed, starts, ends⟩ := (front (plainness.path plain).2).2 plain
    refine ⟨⟨inner.isType_toExpr starts free, formed⟩, starts, fun token shown => ?_⟩
    rw [same] at shown
    exact Path.continuesAt_eq_false_iff.mpr ⟨noBang token shown, ends token shown⟩

/-! ### Types -/

theorem MakesForm.behind {first : BareToken} {action : Reading TypeExpr} {found : TypeExpr}
    {between : TokenStream} (makes : MakesForm plainness first action) (lexed : between.Lexed)
    (shown : stream.ahead? = some first)
    (read : (next >>= fun _ => action) between = .ok found left) :
    left.Lexed ∧ (plainness.expr found →
      found.FormsType ∧ stream.Starts found.words ∧ left.Ends (found.continuesAt ·)) := by
  obtain ⟨token, behind, moved, read⟩ := bind_eq_ok read
  obtain ⟨lexed, sure⟩ := makes (next_ok lexed moved).1 read
  refine ⟨lexed, fun plain => ?_⟩
  obtain ⟨forms, starts, ends⟩ := sure plain
  exact ⟨forms, by rw [Starts, starts, shown], ends⟩

/-- A number or a name starts as the test for the length of an array expects. -/
theorem BareToken.IsWord.eq_measure {token : BareToken} (isWord : token.IsWord)
    (kind : token.kind = .number ∨ token.kind = .identifier) : token = .measure token.value := by
  cases isWord with
  | identifier noDigit => simp [measure, noDigit, name]
  | number digit => simp [measure, digit]
  | lifetime => rcases kind with kind | kind <;> cases kind

theorem constant_ok {length : String} (lexed : stream.Lexed)
    (read : constant stream = .ok length left) :
    left.Lexed ∧ (BareToken.measure length).IsWord := by
  obtain ⟨token, behind, looked, read⟩ := bind_eq_ok read
  obtain ⟨lexed, -, -, front⟩ := current_ok lexed looked
  have taken : token.kind = .number ∨ token.kind = .identifier →
      (next >>= fun found => pure found.value) behind = .ok length left →
        left.Lexed ∧ (BareToken.measure length).IsWord := by
    intro kind read
    obtain ⟨found, between, moved, last⟩ := bind_eq_ok read
    obtain ⟨lexed', again⟩ := next_ok lexed moved
    obtain rfl : token = found := Option.some.inj (front.symm.trans again)
    cases last
    have isWord : token.bare.IsWord := by
      rcases lexed.front? front with own | last
      · exact own.isWord (by rcases kind with kind | kind <;> simp [Token.bare, kind])
      · have ended : token.kind = .endOfInput := congrArg BareToken.kind last
        rcases kind with kind | kind <;> rw [ended] at kind <;> cases kind
    refine ⟨lexed', ?_⟩
    have same : token.bare = .measure token.value := isWord.eq_measure kind
    rwa [← same]
  generalize kinds : token.kind = kind at read taken
  cases kind
  case number => exact taken (.inl rfl) read
  case identifier => exact taken (.inr rfl) read
  all_goals cases read

theorem forms_bracket (sound : Sound plainness steps) : MakesForm plainness (.symbol .openSquare) (do
    let element ← type steps
    if ← nextIs .semicolon then
      let length ← constant
      let _ ← ensure .closeSquare
      return .array element length
    let _ ← ensure .closeSquare
    return .slice element) := by
  intro stream left found lexed read
  obtain ⟨element, behind, own, read⟩ := bind_eq_ok read
  obtain ⟨lexed, front⟩ := sound.type lexed own
  rcases test_symbol (by decide) lexed read with
    ⟨between, ⟨lexed, -⟩, read⟩ | ⟨between, ⟨lexed, -⟩, read⟩
  · obtain ⟨length, behind, measured, read⟩ := bind_eq_ok read
    obtain ⟨lexed, isWord⟩ := constant_ok lexed measured
    obtain ⟨value, behind, closed, last⟩ := bind_eq_ok read
    obtain ⟨lexed, -⟩ := ensure_symbol (by decide) lexed closed
    cases last
    refine ⟨lexed, fun plain => ?_⟩
    exact ⟨⟨rfl, (front (plainness.parts plain)).1, isWord⟩, rfl, fun _ _ => rfl⟩
  · obtain ⟨value, behind, closed, last⟩ := bind_eq_ok read
    obtain ⟨lexed, -⟩ := ensure_symbol (by decide) lexed closed
    cases last
    refine ⟨lexed, fun plain => ?_⟩
    exact ⟨⟨rfl, (front (plainness.parts plain)).1⟩, rfl, fun _ _ => rfl⟩

theorem forms_referent (sound : Sound plainness steps) {duration : Option Lifetime}
    (isWord : ∀ name ∈ duration, (BareToken.lifetime name).IsWord) :
    MakesForm plainness (.symbol .ampersand) (do
      let isMutable ← nextIs .identifier (some "mut")
      return .reference duration isMutable (← type steps)) := by
  intro stream left found lexed read
  obtain ⟨isMutable, behind, tested, read⟩ := bind_eq_ok read
  obtain ⟨element, between, own, last⟩ := bind_eq_ok read
  have lexed : behind.Lexed := by
    cases isMutable with
    | true => exact (nextIs_true lexed tested).1
    | false => exact (nextIs_false lexed tested).1
  obtain ⟨lexed', front⟩ := sound.type lexed own
  cases last
  refine ⟨lexed', fun plain => ?_⟩
  obtain ⟨forms, starts, ends⟩ := front (plainness.parts plain)
  refine ⟨⟨rfl, isWord, forms, ?_⟩, rfl, ends⟩
  rintro rfl same
  obtain ⟨-, kept, token, shown, missed⟩ := nextIs_false ‹stream.Lexed› tested
  rw [Starts, kept, same, shown] at starts
  cases starts
  cases missed

theorem forms_reference (sound : Sound plainness steps) : MakesForm plainness (.symbol .ampersand) (do
    let duration ← if ← peekedIs .lifetime then some <$> lifetime else pure none
    let isMutable ← nextIs .identifier (some "mut")
    return .reference duration isMutable (← type steps)) := by
  intro stream left found lexed read
  obtain ⟨isLifetime, behind, looked, read⟩ := bind_eq_ok read
  obtain ⟨lexed, -⟩ := peekedIs_ok lexed looked
  cases isLifetime with
  | false => exact forms_referent sound (fun _ member => by cases member) lexed read
  | true =>
    obtain ⟨duration, between, own, read⟩ := bind_eq_ok read
    change EStateM.map some lifetime behind = _ at own
    rw [EStateM.map] at own
    split at own
    next name after got =>
      cases own
      obtain ⟨lexed, -, isWord⟩ := lifetime_ok lexed got
      exact forms_referent sound (fun other member => by cases member; exact isWord) lexed read
    · cases own

theorem forms_pointer (sound : Sound plainness steps) : MakesForm plainness (.symbol .star) (do
    if ← nextIs .identifier (some "mut") then
      return .pointer true (← type steps)
    let _ ← ensure .identifier (some "const")
    return .pointer false (← type steps)) := by
  have pointer : ∀ isMutable, MakesForm plainness (.symbol .star)
      (type steps >>= fun element => pure (.pointer isMutable element)) := by
    intro isMutable stream left found lexed read
    obtain ⟨element, behind, own, last⟩ := bind_eq_ok read
    obtain ⟨lexed, front⟩ := sound.type lexed own
    cases last
    refine ⟨lexed, fun plain => ?_⟩
    obtain ⟨forms, -, ends⟩ := front (plainness.parts plain)
    exact ⟨⟨rfl, forms⟩, rfl, ends⟩
  intro stream left found lexed read
  obtain ⟨isMutable, behind, tested, read⟩ := bind_eq_ok read
  cases isMutable with
  | true => exact pointer true (nextIs_true lexed tested).1 read
  | false =>
    obtain ⟨value, between, ensured, read⟩ := bind_eq_ok read
    exact pointer false (ensure_ok (nextIs_false lexed tested).1 ensured).1 read

theorem forms_function (sound : Sound plainness steps) : MakesForm plainness (.name "fn") (do
    let _ ← ensure .openParen
    let inputs ← types .closeParen steps
    return .function inputs (← output steps)) := by
  intro stream left found lexed read
  obtain ⟨value, behind, opened, read⟩ := bind_eq_ok read
  obtain ⟨lexed, -⟩ := ensure_symbol (by decide) lexed opened
  obtain ⟨inputs, behind, own, read⟩ := bind_eq_ok read
  obtain ⟨lexed, front⟩ := sound.types _ (by decide) lexed own
  obtain ⟨output, behind, result, last⟩ := bind_eq_ok read
  obtain ⟨lexed, back⟩ := sound.output lexed result
  cases last
  refine ⟨lexed, fun plain => ?_⟩
  obtain ⟨own, result⟩ := plainness.parts plain
  obtain ⟨forms, ends⟩ := back result
  refine ⟨⟨rfl, front own, forms⟩, rfl, ?_⟩
  cases output <;> exact ends

theorem forms_implTrait (sound : Sound plainness steps) : MakesForm plainness (.name "impl") (do
    return .implTrait (← bounds steps)) := by
  intro stream left found lexed read
  obtain ⟨bounds, behind, own, last⟩ := bind_eq_ok read
  obtain ⟨lexed, sure⟩ := sound.bounds lexed own
  cases last
  refine ⟨lexed, fun plain => ?_⟩
  obtain ⟨forms, ends⟩ := sure (plainness.parts plain)
  exact ⟨⟨rfl, forms⟩, rfl, ends⟩

theorem forms_traitObject (sound : Sound plainness steps) : MakesForm plainness (.name "dyn") (do
    return .traitObject (← bounds steps)) := by
  intro stream left found lexed read
  obtain ⟨bounds, behind, own, last⟩ := bind_eq_ok read
  obtain ⟨lexed, sure⟩ := sound.bounds lexed own
  cases last
  refine ⟨lexed, fun plain => ?_⟩
  obtain ⟨forms, ends⟩ := sure (plainness.parts plain)
  exact ⟨⟨rfl, forms⟩, rfl, ends⟩

theorem sound_type (sound : Sound plainness steps) : MakesType plainness (type (steps + 1)) := by
  intro stream left found lexed read
  rw [type] at read
  obtain ⟨token, behind, looked, read⟩ := bind_eq_ok read
  obtain ⟨lexed', same, shown, -⟩ := current_ok lexed looked
  have mark : token.kind ∈ TokenKind.symbols → stream.ahead? = some (.symbol token.kind) :=
    fun isSymbol => by rw [shown, lexed.ahead_symbol shown isSymbol]; rfl
  have path : (∀ name ∈ TypeExpr.reserved, token.bare ≠ .name name) →
      pathOrMacro steps behind = .ok found left → left.Lexed ∧ (plainness.expr found →
        found.FormsType ∧ stream.Starts found.words ∧ left.Ends (found.continuesAt ·)) := by
    intro free read
    obtain ⟨lexed, sure⟩ := sound.pathOrMacro lexed' read
    refine ⟨lexed, fun plain => ?_⟩
    obtain ⟨forms, starts, ends⟩ := sure plain fun name member => by
      rw [same, shown]
      exact fun equal => free name member (Option.some.inj equal)
    exact ⟨forms, by rw [Starts, ← same, starts], ends⟩
  have never : MakesForm plainness (.symbol .bang) (pure .never) := fun _ _ _ lexed read => by
    cases read
    exact ⟨lexed, fun _ => ⟨⟨rfl, trivial⟩, rfl, fun _ _ => rfl⟩⟩
  have inferred : MakesForm plainness (.name "_") (pure .inferred) := fun _ _ _ lexed read => by
    cases read
    exact ⟨lexed, fun _ => ⟨⟨rfl, trivial⟩, rfl, fun _ _ => rfl⟩⟩
  generalize kinds : token.kind = kind at read mark
  cases kind
  case openParen => exact sound.tupleOrGroup.behind lexed' (mark (by decide)) read
  case openSquare => exact (forms_bracket sound).behind lexed' (mark (by decide)) read
  case ampersand => exact (forms_reference sound).behind lexed' (mark (by decide)) read
  case star => exact (forms_pointer sound).behind lexed' (mark (by decide)) read
  case bang => exact never.behind lexed' (mark (by decide)) read
  case lessThan =>
    refine path (fun name _ equal => ?_) read
    rw [show token.kind = .identifier from congrArg BareToken.kind equal] at kinds
    cases kinds
  case identifier =>
    have name : stream.ahead? = some (.name token.value) := by
      rw [shown, Token.bare, kinds]
      rfl
    by_cases hole : token.value = "_"
    · simp only [hole] at read
      exact inferred.behind lexed' (hole ▸ name) read
    by_cases isFunction : token.value = "fn"
    · simp only [isFunction] at read
      exact (forms_function sound).behind lexed' (isFunction ▸ name) read
    by_cases isImpl : token.value = "impl"
    · simp only [isImpl] at read
      exact (forms_implTrait sound).behind lexed' (isImpl ▸ name) read
    by_cases isDyn : token.value = "dyn"
    · simp only [isDyn] at read
      exact (forms_traitObject sound).behind lexed' (isDyn ▸ name) read
    · simp only at read
      refine path (fun name member equal => ?_) read
      rw [← show token.value = name from congrArg BareToken.value equal] at member
      simp [TypeExpr.reserved, hole, isFunction, isImpl, isDyn] at member
  all_goals cases read

/-- The parser makes sure of it within every number of steps. -/
theorem sound (plainness : Plainness) (steps : Nat) : Sound plainness steps := by
  induction steps with
  | zero =>
    have failed : ∀ {α : Type} {plain : α → Prop} {sure : TokenStream → TokenStream → α → Prop},
        Makes (throw .outOfSteps) plain sure := fun _ read => by cases read
    exact {
      type := failed
      tupleOrGroup := failed
      types := fun _ _ => failed
      output := failed
      pathOrMacro := failed
      path := failed
      segments := failed
      segment := failed
      angleArguments := failed
      arguments := failed
      argument := failed
      bounds := failed
      bound := failed }
  | succ steps ih =>
    exact {
      type := sound_type ih
      tupleOrGroup := sound_tupleOrGroup ih
      types := sound_types ih
      output := sound_output ih
      pathOrMacro := sound_pathOrMacro ih
      path := sound_path ih
      segments := sound_segments ih
      segment := sound_segment ih
      angleArguments := sound_angleArguments ih
      arguments := sound_arguments ih
      argument := sound_argument ih
      bounds := sound_bounds ih
      bound := sound_bound ih }

end CowView
