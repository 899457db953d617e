import CowView.Declaration.Parser
import CowView.Fault.Category
import CowView.Proofs.Ending
import CowView.Proofs.Scanning

/-!
Reading a unit ends, on every text: with the declarations, or with a fault that says what is wrong with
the text (`readUnit_ends`). The lexer takes at least one character for each lexeme, the loops over
parameters, fields, variants and declarations take at least one token in each round, and reading ahead
stops at the end of the input, so no bound on the steps is ever reached.
-/

namespace CowView

open TokenStream

/-! ### The stream of a text -/

/-- Only the text is to blame for a fault of the lexer, since the steps are more than the characters. -/
theorem Lexeme.faults_readWithin (steps : Nat) (cursor : Cursor) (enough : cursor.rest.length < steps) :
    (∀ fault, Lexeme.fault fault ∈ (readWithin steps cursor).1 → fault.isSource) ∧
      ∀ fault, (readWithin steps cursor).2 = .stuck fault → fault.isSource := by
  induction steps generalizing cursor with
  | zero => omega
  | succ steps ih =>
    rw [readWithin]
    split
    · exact ⟨by simp, by simp⟩
    next found after read =>
      obtain ⟨blanks, feed, cut⟩ := Cursor.next_cuts read
      have less := cut.length_lt
      have later := ih after (by omega)
      exact ⟨fun fault member => later.1 fault (by simpa using member), later.2⟩
    next cause after read =>
      have source := Cursor.next_fault read
      split
      next less =>
        have below : cursor.skipBlanks.rest.length ≤ cursor.rest.length := by
          rw [Cursor.skipBlanks, Cursor.drop, List.length_drop]
          omega
        have later := ih after (by omega)
        refine ⟨fun fault member => ?_, later.2⟩
        rcases List.mem_cons.mp member with same | member
        · cases same
          exact source
        · exact later.1 fault member
      · refine ⟨by simp, fun fault same => ?_⟩
        cases same
        exact source

theorem TokenStream.sane_ofText (text : String) : (TokenStream.ofText text).Sane := by
  have faults := Lexeme.faults_readWithin _ (Cursor.ofText text) (Nat.lt_succ_self _)
  exact ⟨faults.1, faults.2, fun token member => (lexed_of_mem_ofText member).marked⟩

theorem TokenStream.skipped_eq_of_front? {stream : TokenStream} {token : Token}
    (shown : stream.front? = some token) (plain : token.kind ≠ .comment) : stream.skipped = stream := by
  obtain ⟨pending, ending, docs⟩ := stream
  unfold front? at shown
  split at shown
  next first rest same =>
    cases shown
    cases same
    simp [skipped, dropComments, Token.isComment, plain]
  next same _ =>
    cases same
    rfl
  · cases shown

/-! ### Names, parameters and fields -/

section

variable {takes : Bool} {room : Nat}

theorem extent_lt_length (stream : TokenStream) : stream.extent < stream.pending.length + 1 :=
  Nat.lt_succ_of_le stream.extent_le_length

/-- Tokens that were read ahead and wait to be put back, and the stream behind them, make up no more than
there was. -/
def LooksAhead (total : Nat) : EStateM.Result Fault TokenStream (Option String × List Token) → Prop
  | .ok found left => left.Sane ∧ (∀ token ∈ found.2, token.Marked) ∧
      left.extent + (found.2.map Lexeme.token).countP Lexeme.counts ≤ total
  | .error fault left => fault.Refuses ∧ left.Sane

theorem lookaheadFrom_ends (steps : Nat) (depth : Int) (seen : List Token) (stream : TokenStream)
    (sane : stream.Sane) (marked : ∀ token ∈ seen, token.Marked) (enough : stream.pending.length < steps) :
    LooksAhead (stream.extent + (seen.map Lexeme.token).countP Lexeme.counts)
      (lookaheadFrom steps depth seen stream) := by
  induction steps generalizing depth seen stream with
  | zero => omega
  | succ steps ih =>
    rw [lookaheadFrom, bind_apply]
    rcases sane.peek with ⟨token, shown⟩ | ⟨fault, left, -, read, refuses, behind⟩
    · rw [next_eq_ok_iff.mpr ⟨shown, rfl⟩]
      have own : ∀ other ∈ token :: seen, other.Marked := by
        simpa using ⟨sane.front? shown, marked⟩
      have moved : stream.advanced.extent + ((token :: seen).map Lexeme.token).countP Lexeme.counts ≤
          stream.extent + (seen.map Lexeme.token).countP Lexeme.counts := by
        rw [List.map_cons, List.countP_cons]
        by_cases more : token.kind.IsSolid
        · have less := extent_advanced shown more
          simp only [Lexeme.counts, more, decide_true, if_true]
          omega
        · have less := stream.extent_advanced_le
          simp only [Lexeme.counts, more, decide_false, Bool.false_eq_true, if_false]
          omega
      have done (name : Option String) : LooksAhead (stream.extent +
          (seen.map Lexeme.token).countP Lexeme.counts) (.ok (name, token :: seen) stream.advanced) :=
        ⟨sane.advanced, own, moved⟩
      have further (depth : Int) (more : token.kind ≠ .endOfInput) : LooksAhead (stream.extent +
          (seen.map Lexeme.token).countP Lexeme.counts)
          (lookaheadFrom steps depth (token :: seen) stream.advanced) := by
        have less := length_advanced shown more
        have later := ih depth (token :: seen) stream.advanced sane.advanced own (by omega)
        cases run : lookaheadFrom steps depth (token :: seen) stream.advanced with
        | ok found left =>
          rw [run] at later
          exact ⟨later.1, later.2.1, Nat.le_trans later.2.2 moved⟩
        | error fault left => rwa [run] at later
      dsimp only
      cases kind : token.kind with
      | endOfInput => exact done none
      | identifier =>
        split
        · exact done (some token.value)
        · exact further _ (by rw [kind]; decide)
      | _ => exact further _ (by rw [kind]; decide)
    · rw [read]
      exact ⟨refuses, behind⟩

theorem ends_lookaheadFieldName : Ends false room lookaheadFieldName := by
  refine .get fun stream sane small => ?_
  have looked := lookaheadFrom_ends (stream.pending.length + 1) 0 [] stream sane (by simp) (Nat.lt_succ_self _)
  rw [bind_apply]
  cases run : lookaheadFrom (stream.pending.length + 1) 0 [] stream with
  | ok found behind =>
    rw [run] at looked
    obtain ⟨kept, marked, most⟩ := looked
    dsimp only
    rw [bind_apply, forM_unget]
    refine ⟨⟨fun fault member => kept.fault fault ?_, kept.stuck, fun token member => ?_⟩, ?_⟩
    · simpa using member
    · rcases List.mem_append.mp member with back | member
      · exact marked token (by simpa using back)
      · exact kept.marked token member
    · have count : (found.2.reverse.map Lexeme.token).countP Lexeme.counts =
          (found.2.map Lexeme.token).countP Lexeme.counts := by
        rw [List.map_reverse, List.countP_reverse]
      change List.countP Lexeme.counts _ + 0 ≤ _
      rw [List.countP_append, count]
      have : behind.extent = behind.pending.countP Lexeme.counts := rfl
      simp only [List.map_nil, List.countP_nil] at most
      omega
  | error fault behind =>
    rw [run] at looked
    exact looked

namespace Declaration.Parser

theorem ends_introduced (role : String) (isMember : Bool) : Ends true room (introduced role isMember) := by
  refine (ends_ensure (by decide)).taking fun name less _ => ?_
  split
  · exact .pure _
  next fault failed =>
    refine .throw ?_
    unfold publicName at failed
    split at failed
    · cases failed
      trivial
    · cases failed

theorem ends_ensureDistinct (names : List String) (problem : String → DeclarationProblem) :
    Ends false room (ensureDistinct names problem) := by
  unfold ensureDistinct
  split
  · exact .throw trivial
  · exact .pure _

theorem ends_parameterBounds : Ends false room parameterBounds :=
  .tested (by decide) (fun _ _ => ends_bounds.loose) (.pure _)

theorem ends_parameter : Ends true room parameter := by
  refine .glanced (fun token _ => Ends.located ?_ token) (.tested (by decide) (fun _ _ => ?_) ?_)
  · exact TypeExpr.Parser.ends_lifetime.taking fun _ _ _ => ends_parameterBounds.bind fun _ => .pure _
  · exact (ends_ensure (by decide)).taking fun _ _ _ => (ends_ensure (by decide)).taking fun _ _ _ =>
      ends_type.taking fun _ _ _ => .pure _
  · exact (ends_introduced _ _).taking fun _ _ _ => ends_parameterBounds.bind fun _ => .pure _

theorem ends_parameters (steps : Nat) (enough : room < steps) : Ends false room (parameters steps) := by
  induction steps generalizing room with
  | zero => omega
  | succ steps ih =>
    refine .tested (by decide) (fun _ _ => .pure _) (ends_parameter.taking fun first less below => ?_)
    refine .tested (by decide) (fun few _ => ?_) ((ends_ensure (by decide)).taking fun _ _ _ => .pure _)
    exact (ih (by omega)).bind fun _ => .pure _

theorem ends_generics : Ends false room generics := by
  refine ends_nextIs.bind fun found => .ite (fun _ => .pure _) fun _ => .get fun stream => ?_
  refine (Ends.bind (ends_parameters _ (extent_lt_length stream)) fun found => ?_) stream
  exact (ends_ensureDistinct _ _).bind fun _ => .pure _

theorem ends_field (owner : String) (name : Option String) (index : Nat) (type : TypeExpr)
    (mark : Option Annotation) (docs : String) : Ends false room (field owner name index type mark docs) := by
  unfold field
  dsimp only
  split
  · exact .pure _
  · exact .throw trivial

theorem ends_lastDocs : Ends false room (lastDocs true) :=
  fun _ sane small => ⟨⟨sane.fault, sane.stuck, sane.marked⟩, small⟩

theorem ends_namedField (owner : String) (index : Nat) : Ends true room (namedField owner index) := by
  have remaining (label : Option String) : Ends true room (do
      let docsBefore ← lastDocs
      let mark ← Annotation.parseAll ⟨some owner, label⟩
      let docsAfter ← lastDocs
      let docs := if docsAfter.isEmpty then docsBefore else docsAfter
      let name ← introduced "field" true
      let _ ← ensure .colon
      field owner (some name) index (← TypeExpr.parse) mark docs) := by
    refine ends_lastDocs.bind fun before => Annotation.ends_parseAll.bind fun mark =>
      ends_lastDocs.bind fun docs => (ends_introduced _ _).taking fun name _ _ => ?_
    exact (ends_ensure (by decide)).taking fun _ _ _ => ends_type.taking fun _ _ _ => ends_field _ _ _ _ _ _
  refine .glanced (fun token _ => Ends.located ?_ token) (remaining none)
  exact ends_lookaheadFieldName.bind remaining

theorem ends_tupleField (owner : String) (index : Nat) : Ends true room (tupleField owner index) :=
  ends_peekedIs.bind fun _ => ends_lastDocs.bind fun _ => Annotation.ends_parseAll.bind fun _ =>
    ends_type.taking fun _ _ _ => ends_field _ _ _ _ _ _

theorem ends_namedFields (owner : String) (steps index : Nat) (enough : room < steps) :
    Ends false room (namedFields owner steps index) := by
  induction steps generalizing room index with
  | zero => omega
  | succ steps ih =>
    refine .tested (by decide) (fun _ _ => .pure _) ((ends_namedField _ _).taking fun first less below => ?_)
    exact ends_nextIs.bind fun _ => (ih _ (by omega)).bind fun _ => .pure _

theorem ends_tupleFields (owner : String) (steps index : Nat) (enough : room < steps) :
    Ends false room (tupleFields owner steps index) := by
  induction steps generalizing room index with
  | zero => omega
  | succ steps ih =>
    refine .tested (by decide) (fun _ _ => .pure _) ((ends_tupleField _ _).taking fun first less below => ?_)
    refine .tested (by decide) (fun few _ => ?_) ((ends_ensure (by decide)).taking fun _ _ _ => .pure _)
    exact (ih _ (by omega)).bind fun _ => .pure _

theorem ends_fieldList (owner : String) : Ends false room (fieldList owner) := by
  refine .tested (by decide) (fun _ _ => ?_) (.tested (by decide) (fun _ _ => ?_) (.pure _))
  · refine .get fun stream => (Ends.bind (ends_namedFields _ _ _ (extent_lt_length stream)) fun _ => ?_) stream
    exact (ends_ensureDistinct _ _).bind fun _ => .pure _
  · refine .get fun stream => (Ends.bind (ends_tupleFields _ _ _ (extent_lt_length stream)) fun _ => ?_) stream
    exact .pure _

theorem ends_variant (owner : String) : Ends true room (variant owner) :=
  ends_peekedIs.bind fun _ => ends_lastDocs.bind fun _ =>
    (ends_introduced _ _).taking fun _ _ _ => (ends_fieldList _).bind fun _ => .pure _

theorem ends_variants (owner : String) (steps : Nat) (enough : room < steps) :
    Ends false room (variants owner steps) := by
  induction steps generalizing room with
  | zero => omega
  | succ steps ih =>
    refine .tested (by decide) (fun _ _ => .pure _) ((ends_variant _).taking fun first less below => ?_)
    exact ends_nextIs.bind fun _ => (ih (by omega)).bind fun _ => .pure _

theorem ends_union (owner : String) : Ends true room (union owner) := by
  refine (ends_ensure (by decide)).taking fun _ _ _ => .get fun stream => ?_
  refine (Ends.bind (ends_variants _ _ (extent_lt_length stream)) fun _ => ?_) stream
  exact (ends_ensureDistinct _ _).bind fun _ => .pure _

theorem ends_consume {kind : TokenKind} (more : kind.IsSolid) : Ends false room (consume kind) := by
  have within (steps room : Nat) (enough : room < steps) : Ends false room (consumeWithin kind steps) := by
    induction steps generalizing room with
    | zero => omega
    | succ steps ih => exact .tested more (fun _ _ => ih _ (by omega)) (.pure _)
  exact .get fun stream => within _ _ (extent_lt_length stream) stream

theorem ends_qualifiedName : Ends true room (TokenStream.qualifiedName .dot) := by
  have further (steps room : Nat) (name : String) (enough : room < steps) :
      Ends false room (qualifiedNameFrom .dot steps name) := by
    induction steps generalizing room name with
    | zero => omega
    | succ steps ih =>
      refine .tested (by decide) (fun less _ => ?_) (.pure _)
      exact (ends_ensure (by decide)).taking fun _ _ _ => ih _ _ (by omega)
  exact (ends_ensure (by decide)).taking fun _ _ _ => .get fun stream =>
    further _ _ _ (extent_lt_length stream) stream

end Declaration.Parser

/-! ### Units -/

section

variable {α β : Type}

def onTokens : EStateM.Result Fault UnitState α → EStateM.Result Fault TokenStream α
  | .ok value left => .ok value left.stream
  | .error fault left => .error fault left.stream

def UnitEndsOn (takes : Bool) (room : Nat) (action : UnitReading α) (state : UnitState) : Prop :=
  state.stream.Sane → state.stream.extent ≤ room → Ended takes room (onTokens (action state))

/-- The action on a unit ends well wherever no more than so many lexemes are left. -/
def UnitEnds (takes : Bool) (room : Nat) (action : UnitReading α) : Prop :=
  ∀ state, UnitEndsOn takes room action state

theorem UnitReading.bind_apply (action : UnitReading α) (next : α → UnitReading β) (state : UnitState) :
    (action >>= next) state = match action state with
      | .ok value left => next value left
      | .error fault left => .error fault left := by
  change EStateM.bind action next state = _
  rw [EStateM.bind]
  cases action state <;> rfl

/-- What takes something leaves room for what follows. -/
theorem UnitEndsOn.taking {action : UnitReading α} {next : α → UnitReading β} {state : UnitState}
    (first : UnitEndsOn true room action state)
    (later : ∀ found less, less < room → UnitEnds false less (next found)) :
    UnitEndsOn takes room (action >>= next) state := by
  intro sane small
  have ended := first sane small
  rw [UnitReading.bind_apply]
  cases run : action state with
  | ok value left =>
    rw [run] at ended
    have less : left.stream.extent + 1 ≤ room := ended.2
    have most : takes.toNat ≤ 1 := Bool.toNat_le takes
    exact (later value (room - 1) (by omega) left ended.1 (by omega)).mono (by simp; omega)
  | error fault left => rwa [run] at ended

namespace UnitEnds

variable {action : UnitReading α} {next : α → UnitReading β}

theorem pure (value : α) : UnitEnds false room (pure value) :=
  fun _ sane small => ⟨sane, small⟩

theorem throw {fault : Fault} (refuses : fault.Refuses) :
    UnitEnds takes room (throw fault : UnitReading α) :=
  fun _ sane _ => ⟨refuses, sane⟩

theorem onStream {action : Reading α} (ends : Ends takes room action) :
    UnitEnds takes room (UnitReading.onStream action) := by
  intro state sane small
  have ended := ends state.stream sane small
  unfold UnitReading.onStream
  cases run : action state.stream with
  | ok value left => rwa [run] at ended
  | error fault left => rwa [run] at ended

theorem taking (first : UnitEnds true room action)
    (later : ∀ found less, less < room → UnitEnds false less (next found)) :
    UnitEnds takes room (action >>= next) :=
  fun state => (first state).taking later

theorem bind (first : UnitEnds false room action) (later : ∀ found, UnitEnds takes room (next found)) :
    UnitEnds takes room (action >>= next) := by
  intro state sane small
  have ended := first state sane small
  rw [UnitReading.bind_apply]
  cases run : action state with
  | ok value left =>
    rw [run] at ended
    exact later value left ended.1 ended.2
  | error fault left => rwa [run] at ended

theorem map {change : α → β} (first : UnitEnds takes room action) :
    UnitEnds takes room (change <$> action) := by
  intro state sane small
  have ended := first state sane small
  change Ended takes room (onTokens (EStateM.map change action state))
  unfold EStateM.map
  cases run : action state with
  | ok value left => rwa [run] at ended
  | error fault left => rwa [run] at ended

theorem ite {condition : Prop} [Decidable condition] {yes no : UnitReading α}
    (first : condition → UnitEnds takes room yes) (second : ¬ condition → UnitEnds takes room no) :
    UnitEnds takes room (if condition then yes else no) := by
  split
  next holds => exact first holds
  next fails => exact second fails

/-- A step that only looks at the unit, whose extent bounds what follows. -/
theorem get {next : UnitState → UnitReading β}
    (later : ∀ state, UnitEnds takes state.stream.extent (next state)) :
    UnitEnds takes room (MonadState.get >>= next) :=
  fun state sane small => (later state state sane (Nat.le_refl _)).mono (by omega)

theorem modify {change : UnitState → UnitState} (same : ∀ state, (change state).stream = state.stream) :
    UnitEnds false room (modify change) := by
  intro state sane small
  have kept : (change state).stream = state.stream := same state
  change Ended false room (.ok () (change state).stream)
  rw [kept]
  exact ⟨sane, small⟩

theorem note (event : Event) : UnitEnds false room (UnitReading.note event) := modify fun _ => rfl

theorem shown {next : Token → UnitReading β}
    (later : ∀ token (state : UnitState), state.stream.front? = some token → UnitEndsOn takes room (next token) state) :
    UnitEnds takes room (UnitReading.onStream peek >>= next) := by
  intro state sane small
  rw [UnitReading.bind_apply]
  unfold UnitReading.onStream
  rcases sane.peek with ⟨token, shown⟩ | ⟨fault, left, read, -, refuses, behind⟩
  · rw [peek_eq_ok_iff.mpr ⟨shown, rfl⟩]
    exact later token state shown sane small
  · rw [read]
    exact ⟨refuses, behind⟩

end UnitEnds

end

namespace Declaration.Parser

theorem unitEnds_register (declaration : Declaration) : UnitEnds false room (register declaration) := by
  refine .get fun state => .ite (fun _ => .throw trivial) fun _ => ?_
  exact (UnitEnds.note _).bind fun _ => .modify fun _ => rfl

def AtDeclaration (token : Token) : Prop :=
  token.kind = .identifier ∧ (token.value = "record" ∨ token.value = "union")

/-- The assertion about the first word holds where that word starts a declaration. -/
theorem declaration_ends {state : UnitState} {token : Token} (shown : state.stream.front? = some token)
    (starts : AtDeclaration token) : UnitEndsOn true room declaration state := by
  have remaining (keyword : String) (room : Nat) : UnitEnds false room (do
      let docs ← lastDocs
      let name ← introduced keyword false
      let parameters ← generics
      UnitReading.note (.reading keyword name)
      let body ← if keyword = "record" then
          Body.record <$> (fieldList name : UnitReading FieldList)
        else Body.union <$> (union name : UnitReading (List Variant))
      register ⟨name, parameters, body, (← get).scope, docs⟩) := by
    refine (UnitEnds.onStream ends_lastDocs).bind fun docs =>
      (UnitEnds.onStream (ends_introduced _ _)).taking fun name less _ =>
        (UnitEnds.onStream ends_generics).bind fun parameters => (UnitEnds.note _).bind fun _ => ?_
    have last (body : Body) (room : Nat) : UnitEnds false room (do
        register ⟨name, parameters, body, (← get).scope, docs⟩) := .get fun state => unitEnds_register _
    split
    · have body : UnitEnds false less (Body.record <$> (fieldList name : UnitReading FieldList)) :=
        .map (.onStream (ends_fieldList name))
      exact body.bind fun body => last body _
    · have body : UnitEnds true less (Body.union <$> (union name : UnitReading (List Variant))) :=
        .map (.onStream (ends_union name))
      exact body.taking fun body few _ => last body few
  obtain ⟨kind, value⟩ := starts
  have known : ¬ (token.value ≠ "record" && token.value ≠ "union") = true := by
    rcases value with same | same <;> simp [same]
  intro sane small
  have own : state.stream.skipped = state.stream :=
    skipped_eq_of_front? shown (by rw [kind]; decide)
  have read : (ensure .identifier : UnitReading String) state =
      .ok token.value { state with stream := state.stream.advanced } := by
    have taken : ensure .identifier none false state.stream = .ok token.value state.stream.advanced := by
      refine ensure_eq_ok_iff.mpr ⟨token, ?_, ?_, rfl, ?_⟩
      · rw [own, shown]
      · simp [fits, kind]
      · rw [own]
    change UnitReading.onStream (ensure .identifier) state = _
    unfold UnitReading.onStream
    rw [taken]
  have less := extent_advanced shown (by rw [kind]; decide)
  have ended := remaining token.value (room - 1) { state with stream := state.stream.advanced }
    sane.advanced (by dsimp only; omega)
  unfold declaration
  rw [UnitReading.bind_apply, read]
  dsimp only
  rw [if_neg known]
  exact ended.mono (by simp; omega)

theorem unitEnds_namespaceName : UnitEnds false room namespaceName := by
  refine (UnitEnds.onStream ends_nextIs).bind fun found => .ite (fun _ => ?_) fun _ => ?_
  · refine (UnitEnds.onStream ends_qualifiedName).taking fun name less _ => ?_
    refine (UnitEnds.modify ?_).bind fun _ => .onStream (ends_consume (by decide))
    exact fun _ => rfl
  · exact .onStream (ends_consume (by decide))

theorem unitEnds_declarations (steps : Nat) (enough : room < steps) :
    UnitEnds false room (declarations steps) := by
  induction steps generalizing room with
  | zero => omega
  | succ steps ih =>
    refine (UnitEnds.onStream (ends_consume (by decide))).bind fun _ =>
      (UnitEnds.onStream ends_peekedIs).bind fun finished => .ite (fun _ => .pure _) fun _ => ?_
    refine .shown fun token state shown => ?_
    split
    next starts =>
      have starting : AtDeclaration token := by simpa [AtDeclaration] using starts
      refine (declaration_ends shown starting).taking fun _ less below => ?_
      exact (UnitEnds.onStream (ends_consume (by decide))).bind fun _ => ih (by omega)
    · exact UnitEnds.throw (refuses_unexpected _ _) state

theorem unitEnds_unit : UnitEnds false room unit :=
  unitEnds_namespaceName.bind fun _ => .get fun state => unitEnds_declarations _ (extent_lt_length state.stream)

end Declaration.Parser

end

/-! ### Whole texts -/

/-- A fault of a place of the text, or of an annotation: one that names misuse of an annotation or an
unknown strategy. -/
def Fault.Located (fault : Fault) : Prop :=
  .source ∈ fault.category.lineage ∨ fault.category = .misannotated ∨ fault.category = .unknownStrategy

theorem Fault.located_source (line column : Int) (problem : SourceProblem) :
    (Fault.source line column problem).Located := by
  left
  cases problem <;> simp [Fault.category, FaultCategory.lineage]

theorem Fault.located_of_isSource {fault : Fault} (source : fault.isSource = true) : fault.Located := by
  cases fault with
  | source line column problem => exact located_source line column problem
  | naming | generation | notFound | assertion | outOfSteps => cases source

theorem Fault.Refuses.located {fault : Fault} (refuses : fault.Refuses)
    (other : ∀ problem, fault ≠ .naming problem) : fault.Located := by
  cases fault with
  | source line column problem => exact located_source line column problem
  | naming problem => exact absurd rfl (other problem)
  | generation attribution problem =>
    cases problem with
    | misannotated => exact .inr (.inl rfl)
    | unknownStrategy => exact .inr (.inr rfl)
    | unsupportedShape | nameTaken | other => cases refuses
  | notFound | assertion | outOfSteps => cases refuses

namespace Declaration.Parser

/-- A fault about a name gets the place of the next token, or gives way to the fault met there. -/
def located (stream : TokenStream) : Fault → Fault
  | .naming problem =>
    match peek stream with
    | .ok token _ => .source token.line token.column (.naming problem)
    | .error fault _ => fault
  | fault => fault

theorem located_eq_self {stream : TokenStream} {fault : Fault} (other : ∀ problem, fault ≠ .naming problem) :
    located stream fault = fault := by
  cases fault with
  | naming problem => exact absurd rfl (other problem)
  | source | generation | notFound | assertion | outOfSteps => rfl

theorem locating_of_ok {action : UnitReading Unit} {state left : UnitState} {value : Unit}
    (run : action state = .ok value left) : locating action state = .ok () left := by
  unfold locating
  rw [run]

/-- Looking for the place may take a fault off the tokens, and changes nothing else. -/
theorem locating_of_error {action : UnitReading Unit} {state left : UnitState} {fault : Fault}
    (run : action state = .error fault left) : ∃ stream : TokenStream,
      locating action state = .error (located left.stream fault) { left with stream } := by
  unfold locating
  rw [run]
  cases fault with
  | naming problem =>
    cases read : peek left.stream with
    | ok token stream =>
      have looked : (peek : UnitReading Token) left = .ok token { left with stream } := by
        change UnitReading.onStream peek left = _
        unfold UnitReading.onStream
        rw [read]
      refine ⟨stream, ?_⟩
      simp only [located, read, UnitReading.bind_apply, looked]
      rfl
    | error fault stream =>
      have looked : (peek : UnitReading Token) left = .error fault { left with stream } := by
        change UnitReading.onStream peek left = _
        unfold UnitReading.onStream
        rw [read]
      refine ⟨stream, ?_⟩
      simp only [located, read, UnitReading.bind_apply, looked]
  | source | generation | notFound | assertion | outOfSteps => exact ⟨left.stream, rfl⟩

theorem located_isSource {stream : TokenStream} (sane : stream.Sane) (problem : DeclarationProblem) :
    (located stream (.naming problem)).isSource := by
  unfold located
  dsimp only
  split
  · rfl
  next read => exact sane.peek_fault read

theorem locating_error {action : UnitReading Unit} {room : Nat} (ends : UnitEnds false room action)
    {state left : UnitState} {fault : Fault} (sane : state.stream.Sane) (small : state.stream.extent ≤ room)
    (failed : locating action state = .error fault left) : fault.Located := by
  have ended := ends state sane small
  cases run : action state with
  | ok value between =>
    rw [locating_of_ok run] at failed
    cases failed
  | error cause between =>
    obtain ⟨stream, located⟩ := locating_of_error run
    rw [located] at failed
    rw [run] at ended
    cases failed
    cases cause with
    | naming problem => exact Fault.located_of_isSource (located_isSource ended.2 problem)
    | source | generation | notFound | assertion | outOfSteps => exact ended.1.located (by simp)

end Declaration.Parser

theorem Declaration.Parser.unit_ne_outOfSteps (text : String) (registry : List Declaration) (left : UnitState) :
    unit (UnitState.ofText text registry) ≠ .error .outOfSteps left := by
  intro dry
  have start : (UnitState.ofText text registry).stream.Sane := sane_ofText text
  have ended := unitEnds_unit (UnitState.ofText text registry) start (Nat.le_refl _)
  rw [dry] at ended
  exact ended.1

/-- Reading a unit gives the declarations, or a fault of a place of the text, of an annotation or of its
strategy. In particular no bound on the steps is reached, no assertion fails, and no fault about a name is
left without its place. -/
theorem readUnit_ends (text : String) (registry : List Declaration) :
    (readUnit text registry).1 = none ∨ ∃ fault, (readUnit text registry).1 = some fault ∧ fault.Located := by
  unfold readUnit
  split
  · exact .inl rfl
  next fault left failed =>
    have start : (UnitState.ofText text registry).stream.Sane := sane_ofText text
    exact .inr ⟨fault, rfl, Declaration.Parser.locating_error Declaration.Parser.unitEnds_unit start
      (Nat.le_refl _) failed⟩

end CowView
