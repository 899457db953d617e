import CowView.Proofs.ReadingBack
import CowView.Proofs.SignificantTokens

/-!
Units are read back as they were written (`readUnit_written`). The words of a unit lead the parser from one
declaration to the next; since reading any text ends, its steps are enough.
-/

namespace CowView

open TokenStream

variable {words rest : List BareToken}

/-! ### Units -/

section

variable {α β : Type} {point target between : UnitState → Prop}

def UnitComes (good : α → Prop) (target : UnitState → Prop) : EStateM.Result Fault UnitState α → Prop
  | .ok value left => good value ∧ target left
  | .error fault _ => fault = .outOfSteps

def UnitMoves (action : UnitReading α) (point : UnitState → Prop) (good : α → Prop) (target : UnitState → Prop) : Prop :=
  ∀ state, point state → UnitComes good target (action state)

structure UnitState.At (earlier : List Declaration) (scope? : Option String) (done : List Declaration)
    (words : List BareToken) (state : UnitState) : Prop where
  stream : state.stream.Shows words
  scope : state.scope = scope?
  declared : state.declared = done
  registry : state.registry = earlier ++ done

namespace UnitMoves

variable {action : UnitReading α} {next : α → UnitReading β} {good : α → Prop} {fine : β → Prop} {value : α}
  {earlier declared : List Declaration} {scope? : Option String}

theorem pure {value : β} (holds : fine value) : UnitMoves (pure value) point fine point :=
  fun _ here => ⟨holds, here⟩

theorem dry : UnitMoves (throw Fault.outOfSteps : UnitReading β) point fine target := fun _ _ => rfl

theorem bind (first : UnitMoves action point good between)
    (later : ∀ value, good value → UnitMoves (next value) between fine target) :
    UnitMoves (action >>= next) point fine target := by
  intro state here
  have came := first state here
  rw [UnitReading.bind_apply]
  cases run : action state with
  | ok found left =>
    rw [run] at came
    exact later found came.1 left came.2
  | error fault left => rwa [run] at came

theorem after (first : UnitMoves action point (value = ·) between) (later : UnitMoves (next value) between fine target) :
    UnitMoves (action >>= next) point fine target :=
  first.bind fun found same => by
    cases same
    exact later

theorem map (change : α → β) (first : UnitMoves action point (value = ·) target) :
    UnitMoves (change <$> action) point (change value = ·) target := by
  rw [map_eq_pure_bind]
  exact first.after (.pure rfl)

theorem get {next : UnitState → UnitReading β}
    (later : ∀ state, point state → UnitMoves (next state) point fine target) :
    UnitMoves (MonadState.get >>= next) point fine target :=
  fun state here => later state here state here

theorem onStream {action : Reading α} (moves : Moves action words good rest) :
    UnitMoves (UnitReading.onStream action) (UnitState.At earlier scope? declared words) good
      (UnitState.At earlier scope? declared rest) := by
  intro state here
  have came := moves _ here.stream
  unfold UnitReading.onStream
  cases run : action state.stream with
  | ok value left =>
    rw [run] at came
    exact ⟨came.1, came.2, here.scope, here.declared, here.registry⟩
  | error fault left => rwa [run] at came

theorem modify {change : UnitState → UnitState} (leads : ∀ state, point state → target (change state)) :
    UnitMoves (modify change) point (() = ·) target :=
  fun state here => ⟨rfl, leads state here⟩

theorem note (event : Event) : UnitMoves (UnitReading.note event) (UnitState.At earlier scope? declared words) (() = ·)
    (UnitState.At earlier scope? declared words) :=
  modify fun _ here => ⟨here.stream, here.scope, here.declared, here.registry⟩

end UnitMoves

end

theorem Body.Written.ahead_ne {apart : Prop} {body : Body} (written : body.Written apart words)
    (other : (BareToken.ahead rest).kind ≠ .lessThan) : (BareToken.ahead (words ++ rest)).kind ≠ .lessThan := by
  cases written with
  | record one =>
    cases one with
    | named | tuple => exact (startsIn_symbol _).ahead_ne (by decide)
    | unit => exact other
  | union all => exact (startsIn_symbol _).ahead_ne (by decide)

theorem Declaration.Written.ahead {apart : Prop} {declaration : Declaration} (written : declaration.Written apart words) :
    BareToken.ahead (words ++ rest) = .name declaration.body.keyword := by
  obtain ⟨parameters, body, -, -, -, rfl⟩ := written
  rfl

theorem Declaration.WrittenAll.kind_ne {apart : Prop} {declarations : List Declaration}
    (written : Declaration.WrittenAll apart declarations words) {kind : TokenKind}
    (other : kind ∉ [TokenKind.identifier, .endOfInput]) : (BareToken.ahead words).kind ≠ kind := by
  cases written with
  | nil => exact fun same => other (by simp [← same, BareToken.last])
  | cons _ one later =>
    rw [one.ahead]
    exact fun same => other (by simp [← same, BareToken.name])

/-- Behind a declaration stand a semicolon, the word that starts the next one, or nothing at all. -/
theorem Declaration.WrittenAll.kind_ahead {apart : Prop} {declarations : List Declaration}
    (written : Declaration.WrittenAll apart declarations words) (count : Nat) :
    (BareToken.ahead (semicolons count ++ words)).kind ∈ [TokenKind.semicolon, .identifier, .endOfInput] := by
  cases count with
  | succ count => exact List.mem_cons_self
  | zero =>
    cases written with
    | nil => simp [semicolons, BareToken.last]
    | cons _ one later =>
      rw [semicolons, List.replicate_zero, List.nil_append, one.ahead]
      simp [BareToken.name]

namespace Declaration.Parser

variable {earlier declared : List Declaration} {scope? : Option String}

theorem unitMoves_register (declaration : Declaration)
    (fresh : declaration.name ∉ (earlier ++ declared).map (·.name)) :
    UnitMoves (register declaration) (UnitState.At earlier scope? declared words) (() = ·)
      (UnitState.At earlier scope? (declared ++ [declaration]) words) := by
  refine .get fun state here => ?_
  have free : ¬ state.registry.any (·.name = declaration.name) = true := by
    rw [here.registry]
    simpa using fresh
  rw [if_neg free]
  refine (UnitMoves.note _).after (.modify fun state here => ?_)
  exact ⟨here.stream, here.scope, by rw [here.declared], by rw [here.registry, List.append_assoc]⟩

theorem unitMoves_declaration {declaration : Declaration} (written : declaration.Written True words)
    (named : declaration.WellNamed fun _ => True)
    (free : ∀ parameter ∈ declaration.parameters, ∀ bounds, parameter ≠ .type "const" bounds)
    (own : declaration.scope = scope?) (fresh : declaration.name ∉ (earlier ++ declared).map (·.name))
    (ends : BareToken.Unbracketed rest) (other : (BareToken.ahead rest).kind ≠ .lessThan) :
    UnitMoves Parser.declaration (UnitState.At earlier scope? declared (words ++ rest)) (() = ·)
      (UnitState.At earlier scope? (declared ++ [declaration]) rest) := by
  obtain ⟨name, parameters, body, scope, docs⟩ := declaration
  obtain ⟨generics, fields, writtenGenerics, writtenBody, undocumented, rfl⟩ := written
  dsimp only at own undocumented writtenGenerics writtenBody
  subst own undocumented
  have start : (BareToken.ahead (fields ++ rest)).kind ≠ .lessThan := writtenBody.ahead_ne other
  have last : UnitMoves (do
      register ⟨name, parameters, body, (← get).scope, ""⟩) (UnitState.At earlier scope declared rest) (() = ·)
      (UnitState.At earlier scope (declared ++ [⟨name, parameters, body, scope, ""⟩]) rest) := by
    refine .get fun state here => ?_
    rw [here.scope]
    exact unitMoves_register _ fresh
  rw [List.cons_append, List.cons_append, List.append_assoc]
  cases writtenBody with
  | @record list _ one =>
    have record : UnitMoves (Body.record <$> (fieldList name : UnitReading FieldList))
        (UnitState.At earlier scope declared (fields ++ rest)) (Body.record list = ·)
        (UnitState.At earlier scope declared rest) :=
      .map Body.record (.onStream (moves_fieldList one named.body ends))
    refine (UnitMoves.onStream (moves_ensure rfl)).after ?_
    refine (UnitMoves.onStream moves_lastDocs).after ((UnitMoves.onStream (moves_introduced named.shown)).after ?_)
    refine (UnitMoves.onStream (moves_generics writtenGenerics named.parameters free named.distinct start)).after ?_
    exact (UnitMoves.note _).after (record.after last)
  | @union variants words all =>
    have union : UnitMoves (Body.union <$> (Parser.union name : UnitReading (List Variant)))
        (UnitState.At earlier scope declared (.symbol .openBrace :: (words ++ [.symbol .closeBrace]) ++ rest))
        (Body.union variants = ·) (UnitState.At earlier scope declared rest) := by
      rw [List.cons_append, List.append_assoc]
      exact .map Body.union (.onStream (moves_union all named.body.2 named.body.1))
    refine (UnitMoves.onStream (moves_ensure rfl)).after ?_
    refine (UnitMoves.onStream moves_lastDocs).after ((UnitMoves.onStream (moves_introduced named.shown)).after ?_)
    refine (UnitMoves.onStream (moves_generics writtenGenerics named.parameters free named.distinct start)).after ?_
    exact (UnitMoves.note _).after (union.after last)

theorem unitMoves_declarations {declarations : List Declaration}
    (written : Declaration.WrittenAll True declarations words)
    (named : ∀ declaration ∈ declarations, declaration.WellNamed fun _ => True)
    (free : ∀ declaration ∈ declarations, ∀ parameter ∈ declaration.parameters, ∀ bounds,
      parameter ≠ .type "const" bounds)
    (own : ∀ declaration ∈ declarations, declaration.scope = scope?)
    (distinct : ((earlier ++ declared ++ declarations).map (·.name)).Nodup) (steps : Nat) :
    UnitMoves (Parser.declarations steps) (UnitState.At earlier scope? declared words) (() = ·)
      (UnitState.At earlier scope? (declared ++ declarations) []) := by
  induction written generalizing steps declared with
  | nil =>
    cases steps with
    | zero => exact .dry
    | succ steps =>
      refine (UnitMoves.onStream (moves_consume 0 (by simp [BareToken.last]))).after ?_
      refine (UnitMoves.onStream (moves_peekedIs true rfl)).after ?_
      rw [List.append_nil]
      exact .pure rfl
  | @cons declaration rest words more count one later ih =>
    cases steps with
    | zero => exact .dry
    | succ steps =>
      have next : BareToken.ahead (words ++ (semicolons count ++ more)) = .name declaration.body.keyword := one.ahead
      have other : (BareToken.ahead (words ++ (semicolons count ++ more))).kind ≠ .semicolon := by
        rw [next]
        simp [BareToken.name]
      refine (UnitMoves.onStream (moves_consume 0 other)).after ?_
      refine (UnitMoves.onStream (moves_peekedIs false (by rw [next]; rfl))).after ?_
      refine (UnitMoves.onStream moves_peek).bind fun token same => ?_
      rw [next] at same
      have kind : token.kind = .identifier := congrArg BareToken.kind same
      have value : token.value = declaration.body.keyword := congrArg BareToken.value same
      have starts : (token.kind = .identifier && (token.value = "record" || token.value = "union")) = true := by
        rw [kind, value]
        cases declaration.body <;> rfl
      rw [if_pos starts]
      have fresh : declaration.name ∉ (earlier ++ declared).map (·.name) := by
        rw [List.map_append] at distinct
        exact fun member => (List.nodup_append.mp distinct).2.2 _ member _ (by simp) rfl
      have behind := later.kind_ahead count
      refine (unitMoves_declaration one (named _ (by simp)) (free _ (by simp)) (own _ (by simp)) fresh ?_ ?_).after ?_
      · exact .of_mem behind (by decide)
      · exact fun same => absurd behind (by rw [same]; decide)
      refine (UnitMoves.onStream (moves_consume count (later.kind_ne (by decide)))).after ?_
      have more : ((earlier ++ (declared ++ [declaration]) ++ rest).map (·.name)).Nodup := by simpa using distinct
      have found := ih (fun declaration member => named declaration (by simp [member]))
        (fun declaration member => free declaration (by simp [member]))
        (fun declaration member => own declaration (by simp [member])) more steps
      rwa [List.append_assoc] at found

theorem unitMoves_namespaceName {scope? : Option String} {declarations : List Declaration} {count : Nat}
    (header : ScopeWritten scope? words) (written : Declaration.WrittenAll True declarations rest) :
    UnitMoves namespaceName (UnitState.At earlier none [] (words ++ (semicolons count ++ rest))) (() = ·)
      (UnitState.At earlier scope? [] rest) := by
  have ends : UnitMoves (consume .semicolon : UnitReading Unit)
      (UnitState.At earlier scope? [] (semicolons count ++ rest)) (() = ·) (UnitState.At earlier scope? [] rest) :=
    .onStream (moves_consume count (written.kind_ne (by decide)))
  cases header with
  | none =>
    have other : (BareToken.ahead (semicolons count ++ rest)).fits .identifier (some "namespace") = false := by
      cases count with
      | succ count => rfl
      | zero =>
        rw [semicolons, List.replicate_zero, List.nil_append]
        cases written with
        | nil => rfl
        | @cons declaration _ _ _ _ one later =>
          rw [one.ahead]
          cases declaration.body <;> rfl
    exact (UnitMoves.onStream (moves_nextIs_other other)).after ends
  | named first parts =>
    refine (UnitMoves.onStream (moves_nextIs rfl)).after ?_
    refine (UnitMoves.onStream (moves_qualifiedName first parts ?_)).after ?_
    · exact fun same => absurd (written.kind_ahead count) (by rw [same]; decide)
    · refine UnitMoves.after (.modify fun state here => ?_) ends
      exact ⟨here.stream, rfl, here.declared, here.registry⟩

end Declaration.Parser

/-- A unit is read back from every text that it is written in: the namespace and exactly its declarations, in
their order. Bare annotations are kept apart from parentheses that are not theirs. -/
theorem readUnit_written {text : String} {scope? : Option String} {earlier declarations : List Declaration}
    (written : UnitWritten True scope? declarations words) (inWords : InWords text words)
    (declared : WellDeclared earlier declarations) :
    (readUnit text earlier).1 = none ∧ (readUnit text earlier).2.declared = declarations ∧
      (readUnit text earlier).2.scope = scope? := by
  obtain ⟨header, count, body, writtenScope, all, own, rfl⟩ := written
  have start : UnitState.At earlier none [] (header ++ (semicolons count ++ body)) (UnitState.ofText text earlier) :=
    ⟨inWords.shows, rfl, rfl, (List.append_nil _).symm⟩
  have moves : UnitMoves Declaration.Parser.unit
      (UnitState.At earlier none [] (header ++ (semicolons count ++ body))) (() = ·)
      (UnitState.At earlier scope? declarations []) := by
    refine (Declaration.Parser.unitMoves_namespaceName writtenScope all).after (.get fun state _ => ?_)
    have distinct : ((earlier ++ [] ++ declarations).map Declaration.name).Nodup := by
      rw [List.append_nil]
      exact declared.distinct
    exact Declaration.Parser.unitMoves_declarations all declared.named declared.free own distinct _
  have came := moves _ start
  cases run : Declaration.Parser.unit (UnitState.ofText text earlier) with
  | ok value left =>
    rw [run] at came
    have read : readUnit text earlier = (none, left) := by
      refine readUnit_eq_none.mpr ?_
      unfold Declaration.Parser.locating
      rw [run]
    rw [read]
    exact ⟨rfl, came.2.declared, came.2.scope⟩
  | error fault left =>
    rw [run] at came
    have dry : fault = .outOfSteps := came
    rw [dry] at run
    exact absurd run (Declaration.Parser.unit_ne_outOfSteps _ _ _)

/-- A record with an annotated field, trailing commas and a semicolon. -/
theorem readUnit_written_record : (readUnit "record R<T,>(@butcher(copy) T,);" []).1 = none ∧
    (readUnit "record R<T,>(@butcher(copy) T,);" []).2.declared =
        [⟨"R", [.type "T" []], .record ⟨[⟨none, 0, .named "T", .copy, [], ""⟩], .tuple⟩, none, ""⟩] ∧
      (readUnit "record R<T,>(@butcher(copy) T,);" []).2.scope = none := by
  have type : Wording TypeExpr.parse (.named "T") [.name "T"] :=
    ⟨"T", _, .of_lexemes ⟨1, 1, 2⟩ (by decide +kernel) (by decide +kernel) (by decide), rfl, rfl⟩
  have text : InWords "record R<T,>(@butcher(copy) T,);"
      [.name "record", .name "R", .symbol .lessThan, .name "T", .symbol .comma, .symbol .greaterThan,
        .symbol .openParen, .symbol .atSign, .name "butcher", .symbol .openParen, .name "copy", .symbol .closeParen,
        .name "T", .symbol .comma, .symbol .closeParen, .symbol .semicolon] :=
    .of_lexemes ⟨32, 1, 33⟩ (by decide +kernel) (by decide +kernel) (by decide)
  have field : Field.WrittenTuple True ⟨none, 0, .named "T", .copy, [], ""⟩
      [.symbol .atSign, .name "butcher", .symbol .openParen, .name "copy", .symbol .closeParen, .name "T"] :=
    ⟨_, _, ⟨some .copy, .listed (.last (.strategy .copy)), rfl, rfl⟩, rfl, type, fun _ bare => absurd bare (by decide), rfl⟩
  have unit : UnitWritten True none
      [⟨"R", [.type "T" []], .record ⟨[⟨none, 0, .named "T", .copy, [], ""⟩], .tuple⟩, none, ""⟩] _ :=
    ⟨[], 0, _, .none, .cons 1 ⟨_, _, .listed (.cons (.type "T") .nil), .record (.tuple (.cons field .nil)), rfl, rfl⟩
      .nil, by simp, rfl⟩
  have shown (name : String) (head : name.toList.head? ≠ some '_') (free : name ∉ keywords) : PublicName false name :=
    ⟨head, free, by simp⟩
  refine readUnit_written unit text ⟨fun declaration member => ?_, by simp, by simp⟩
  cases List.mem_singleton.mp member
  refine ⟨shown "R" (by decide) (by decide), trivial, ?_, by simp, ?_⟩
  · simpa [Parameter.WellNamed] using shown "T" (by decide) (by decide)
  · exact ⟨rfl, by simp⟩

/-- The parenthesis of a type is taken for that of a bare annotation in front of it: this record, with one field
of a pair type, is refused. -/
theorem readUnit_bare_parenthesis : ∃ words declaration, UnitWritten False none [declaration] words ∧
    InWords "record R(@butcher (A, B))" words ∧ WellDeclared [] [declaration] ∧
      declaration.body = .record ⟨[⟨none, 0, .tuple [.named "A", .named "B"], .regular, [], ""⟩], .tuple⟩ ∧
      (readUnit "record R(@butcher (A, B))" []).1 ≠ none := by
  have type : Wording TypeExpr.parse (.tuple [.named "A", .named "B"])
      [.symbol .openParen, .name "A", .symbol .comma, .name "B", .symbol .closeParen] :=
    ⟨"(A, B)", _, .of_lexemes ⟨6, 1, 7⟩ (by decide +kernel) (by decide +kernel) (by decide), rfl, rfl⟩
  have text : InWords "record R(@butcher (A, B))"
      [.name "record", .name "R", .symbol .openParen, .symbol .atSign, .name "butcher", .symbol .openParen,
        .name "A", .symbol .comma, .name "B", .symbol .closeParen, .symbol .closeParen] :=
    .of_lexemes ⟨25, 1, 26⟩ (by decide +kernel) (by decide +kernel) (by decide)
  have field : Field.WrittenTuple False ⟨none, 0, .tuple [.named "A", .named "B"], .regular, [], ""⟩
      [.symbol .atSign, .name "butcher", .symbol .openParen, .name "A", .symbol .comma, .name "B", .symbol .closeParen] :=
    ⟨_, _, ⟨none, .bare, rfl, rfl⟩, rfl, type, False.elim, rfl⟩
  refine ⟨_, ⟨"R", [], .record ⟨[⟨none, 0, .tuple [.named "A", .named "B"], .regular, [], ""⟩], .tuple⟩, none, ""⟩,
    ⟨[], 0, _, .none, .cons 0 ⟨[], _, .none, .record (.tuple (.last field)), rfl, rfl⟩ .nil, by simp, rfl⟩, text,
    ⟨fun declaration member => ?_, by simp, by simp⟩, rfl, by decide +kernel⟩
  cases List.mem_singleton.mp member
  exact ⟨⟨by decide, by decide, by simp⟩, trivial, by simp, by simp, rfl, by simp⟩

end CowView
