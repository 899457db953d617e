import CowView.Proofs.FollowingFields
import CowView.Proofs.Termination

/-!
What a unit declares depends on its significant tokens alone. Two texts with the same tokens, those comments
left out that are no documentation, are both read or both refused, and what is read is the same
(`readUnit_significant`). A run on one text is followed by a run on the other one up to the number of steps,
and the steps do not run out.
-/

namespace CowView

open TokenStream

def Token.isSignificant (token : Token) : Bool := !(token.isComment && !DocComment.isDoc token.value)

/-! ### Units -/

structure UnitState.Alike (first second : UnitState) : Prop where
  stream : CowView.Alike [] first.stream second.stream
  scope : first.scope = second.scope
  declared : first.declared = second.declared
  registry : first.registry = second.registry

def UnitMatches {α : Type} (value : α) (left : UnitState) : EStateM.Result Fault UnitState α → Prop
  | .ok value' left' => value = value' ∧ left.Alike left'
  | .error fault _ => fault = .outOfSteps

def UnitFollows {α : Type} (one two : UnitReading α) : Prop :=
  ∀ first second, first.Alike second → ∀ value left, one first = .ok value left → UnitMatches value left (two second)

namespace UnitFollows

variable {α β : Type} {one two : UnitReading α} {next next' : α → UnitReading β}

theorem pure (value : α) : UnitFollows (pure value) (pure value) := by
  intro first second alike found left read
  cases read
  exact ⟨rfl, alike⟩

theorem dry : UnitFollows one (throw Fault.outOfSteps : UnitReading α) :=
  fun _ _ _ _ _ _ => rfl

theorem throw {fault : Fault} : UnitFollows (throw fault) two :=
  fun _ _ _ _ _ read => by cases read

theorem onStream {one two : Reading α} (follows : Follows [] Eq one two) :
    UnitFollows (UnitReading.onStream one) (UnitReading.onStream two) := by
  intro first second alike value left read
  unfold UnitReading.onStream at read ⊢
  cases run : one first.stream with
  | ok found stream =>
    rw [run] at read
    cases read
    have step := follows _ _ alike.stream _ stream run
    cases run' : two second.stream with
    | ok found' stream' =>
      rw [run'] at step
      exact ⟨step.1, step.2, alike.scope, alike.declared, alike.registry⟩
    | error fault stream' => rwa [run'] at step
  | error fault stream =>
    rw [run] at read
    cases read

theorem bind (front : UnitFollows one two) (later : ∀ value, UnitFollows (next value) (next' value)) :
    UnitFollows (one >>= next) (two >>= next') := by
  intro first second alike value left read
  rw [UnitReading.bind_apply] at read ⊢
  cases run : one first with
  | ok found between =>
    rw [run] at read
    have step := front first second alike found between run
    cases run' : two second with
    | ok found' between' =>
      rw [run'] at step
      obtain ⟨rfl, alike⟩ := step
      exact later found between between' alike value left read
    | error fault between' => rwa [run'] at step
  | error fault between =>
    rw [run] at read
    cases read

theorem map (change : α → β) (front : UnitFollows one two) : UnitFollows (change <$> one) (change <$> two) := by
  rw [map_eq_pure_bind, map_eq_pure_bind]
  exact front.bind fun _ => .pure _

theorem ite {condition : Prop} [Decidable condition] {yes no yes' no' : UnitReading α}
    (first : UnitFollows yes yes') (second : UnitFollows no no') :
    UnitFollows (if condition then yes else no) (if condition then yes' else no') := by
  split
  · exact first
  · exact second

theorem get {next next' : UnitState → UnitReading β}
    (later : ∀ first second, first.Alike second → UnitFollows (next first) (next' second)) :
    UnitFollows (MonadState.get >>= next) (MonadState.get >>= next') :=
  fun first second alike => later first second alike first second alike

/-- A change that goes by the namespace and the declarations. -/
theorem modify {change : UnitState → UnitState}
    (keeps : ∀ first second : UnitState, first.Alike second → (change first).Alike (change second)) :
    UnitFollows (modify change) (modify change) := by
  intro first second alike value left read
  cases read
  exact ⟨rfl, keeps first second alike⟩

theorem note (event : Event) : UnitFollows (UnitReading.note event) (UnitReading.note event) :=
  modify fun _ _ alike => ⟨alike.stream, alike.scope, alike.declared, alike.registry⟩

/-- After a test the comments in front are gone, and the token that is looked at is the same. -/
theorem glanced {kind : TokenKind} {wanted : Option String} {yes yes' : UnitReading β}
    {next next' : Token → UnitReading β} (first : UnitFollows yes yes')
    (second : ∀ front front', front.bare = front'.bare → UnitFollows (next front) (next' front')) :
    UnitFollows
      (UnitReading.onStream (peekedIs kind wanted) >>= fun found =>
        if found = true then yes else UnitReading.onStream peek >>= next)
      (UnitReading.onStream (peekedIs kind wanted) >>= fun found =>
        if found = true then yes' else UnitReading.onStream peek >>= next') := by
  intro state state' alike value left read
  obtain ⟨front, front', shown, shown', same⟩ := alike.stream.shown
  have skipped : UnitState.Alike { state with stream := state.stream.skipped }
      { state' with stream := state'.stream.skipped } :=
    ⟨alike.stream.skipped stops_nil, alike.scope, alike.declared, alike.registry⟩
  have glance {state : UnitState} {front : Token} (shown : state.stream.skipped.front? = some front) :
      UnitReading.onStream (peekedIs kind wanted) state =
        .ok (fits kind wanted front) { state with stream := state.stream.skipped } := by
    unfold UnitReading.onStream
    rw [peekedIs_eq_ok_iff.mpr ⟨front, shown, rfl, rfl⟩]
  have look {state : UnitState} {front : Token} (shown : state.stream.front? = some front) :
      UnitReading.onStream peek state = .ok front state := by
    unfold UnitReading.onStream
    rw [peek_eq_ok_iff.mpr ⟨shown, rfl⟩]
  rw [UnitReading.bind_apply, glance shown] at read
  rw [UnitReading.bind_apply, glance shown', ← fits_congr same]
  dsimp only at read ⊢
  split at read
  next found =>
    rw [if_pos found]
    exact first _ _ skipped value left read
  next missing =>
    rw [if_neg missing]
    rw [UnitReading.bind_apply, look shown] at read
    rw [UnitReading.bind_apply, look shown']
    exact second front front' same _ _ skipped value left read

end UnitFollows

namespace Declaration.Parser

theorem unitFollows_register (declaration : Declaration) :
    UnitFollows (register declaration) (register declaration) := by
  refine .get fun first second alike => ?_
  rw [alike.registry]
  refine .ite .throw ((UnitFollows.note _).bind fun _ => .modify fun first second alike => ?_)
  exact ⟨alike.stream, alike.scope, by rw [alike.declared], by rw [alike.registry]⟩

theorem unitFollows_declaration : UnitFollows declaration declaration := by
  refine (UnitFollows.onStream (follows_ensure (by decide))).bind fun keyword => .ite .throw ?_
  refine (UnitFollows.onStream follows_lastDocs).bind fun docs =>
    (UnitFollows.onStream (follows_introduced _ _)).bind fun name =>
      (UnitFollows.onStream follows_generics).bind fun parameters => (UnitFollows.note _).bind fun _ => ?_
  have last (body : Body) : UnitFollows (do
      register ⟨name, parameters, body, (← get).scope, docs⟩) (do
      register ⟨name, parameters, body, (← get).scope, docs⟩) := by
    refine .get fun first second alike => ?_
    rw [alike.scope]
    exact unitFollows_register _
  split
  · have body : UnitFollows (Body.record <$> (fieldList name : UnitReading FieldList))
        (Body.record <$> (fieldList name : UnitReading FieldList)) := .map _ (.onStream (follows_fieldList name))
    exact body.bind last
  · have body : UnitFollows (Body.union <$> (union name : UnitReading (List Variant)))
        (Body.union <$> (union name : UnitReading (List Variant))) := .map _ (.onStream (follows_union name))
    exact body.bind last

theorem unitFollows_namespaceName : UnitFollows namespaceName namespaceName := by
  have ends : UnitFollows (consume .semicolon : UnitReading Unit) (consume .semicolon : UnitReading Unit) :=
    .onStream (follows_consume (by decide))
  refine (UnitFollows.onStream (follows_nextIs (by decide))).bind fun found => .ite ?_ ends
  refine (UnitFollows.onStream follows_qualifiedName).bind fun name => UnitFollows.bind (.modify ?_) fun _ => ends
  exact fun first second alike => ⟨alike.stream, rfl, alike.declared, alike.registry⟩

theorem unitFollows_declarations (steps less : Nat) : UnitFollows (declarations steps) (declarations less) := by
  induction steps generalizing less with
  | zero => exact .throw
  | succ steps ih =>
    cases less with
    | zero => exact .dry
    | succ less =>
      refine (UnitFollows.onStream (follows_consume (by decide))).bind fun _ => ?_
      refine .glanced (.pure _) fun front front' same => ?_
      have kinds : front.kind = front'.kind := congrArg BareToken.kind same
      have values : front.value = front'.value := congrArg BareToken.value same
      rw [← kinds, ← values]
      refine .ite (unitFollows_declaration.bind fun _ => ?_) .throw
      exact (UnitFollows.onStream (follows_consume (by decide))).bind fun _ => ih less

theorem unitFollows_unit : UnitFollows unit unit :=
  unitFollows_namespaceName.bind fun _ => .get fun _ _ _ => unitFollows_declarations _ _

end Declaration.Parser

/-! ### Texts -/

section

variable {text other : String} {registry : List Declaration}

theorem readUnit_eq_none {state : UnitState} : readUnit text registry = (none, state) ↔
    Declaration.Parser.locating Declaration.Parser.unit (UnitState.ofText text registry) = .ok () state := by
  unfold readUnit
  cases Declaration.Parser.locating Declaration.Parser.unit (UnitState.ofText text registry) with
  | ok value left => exact ⟨fun same => by cases same; rfl, fun same => by cases same; rfl⟩
  | error fault left => exact ⟨fun same => (by cases same), fun same => (by cases same)⟩

/-- A unit that is read off one text is read off every text with the same tokens. -/
theorem readUnit_alike (alike : (UnitState.ofText text registry).Alike (UnitState.ofText other registry))
    {state : UnitState} (read : readUnit text registry = (none, state)) :
    ∃ state', readUnit other registry = (none, state') ∧ state.Alike state' := by
  have found := Declaration.Parser.locating_eq_ok (readUnit_eq_none.mp read)
  have step := Declaration.Parser.unitFollows_unit _ _ alike () state found
  cases run : Declaration.Parser.unit (UnitState.ofText other registry) with
  | ok value state' =>
    rw [run] at step
    refine ⟨state', readUnit_eq_none.mpr ?_, step.2⟩
    unfold Declaration.Parser.locating
    rw [run]
  | error fault left =>
    rw [run] at step
    have dry : fault = .outOfSteps := step
    rw [dry] at run
    exact absurd run (Declaration.Parser.unit_ne_outOfSteps _ _ _)

/-- Texts with the same significant tokens and without macros are both read or both refused, and then they
declare the same in the same namespace. -/
theorem readUnit_significant {first second : List Token} (lexes : TokenStream.Lexes text first)
    (lexes' : TokenStream.Lexes other second) (quiet : ∀ token ∈ first ++ second, token.kind ≠ .bang)
    (same : (first.filter Token.isSignificant).map Token.bare = (second.filter Token.isSignificant).map Token.bare)
    (registry : List Declaration) :
    ((readUnit text registry).1 = none ↔ (readUnit other registry).1 = none) ∧
      ((readUnit text registry).1 = none →
        (readUnit text registry).2.declared = (readUnit other registry).2.declared ∧
          (readUnit text registry).2.scope = (readUnit other registry).2.scope) := by
  have words {text : String} {tokens : List Token} (lexes : TokenStream.Lexes text tokens) :
      (TokenStream.ofText text).words = (tokens.filter Token.isSignificant).map Token.bare := lexes.words
  have start {text other : String} {first second : List Token} (lexes : TokenStream.Lexes text first)
      (lexes' : TokenStream.Lexes other second) (quiet : ∀ token ∈ second, token.kind ≠ .bang)
      (same : (first.filter Token.isSignificant).map Token.bare =
        (second.filter Token.isSignificant).map Token.bare) :
      (UnitState.ofText text registry).Alike (UnitState.ofText other registry) := by
    refine ⟨⟨lexes.clean, lexes'.clean, ?_, ?_, .inl ?_⟩, rfl, rfl, rfl⟩
    · rw [List.append_nil]
      exact (words lexes').trans (same.symm.trans (words lexes).symm)
    · rfl
    · intro word member
      change word ∈ (TokenStream.ofText other).words at member
      rw [words lexes'] at member
      obtain ⟨token, known, rfl⟩ := List.mem_map.mp member
      exact quiet token (List.mem_of_mem_filter known)
  have forward := start lexes lexes' (fun token member => quiet token (by simp [member])) same
  have backward := start lexes' lexes (fun token member => quiet token (by simp [member])) same.symm
  have whole {text : String} (done : (readUnit text registry).1 = none) :
      readUnit text registry = (none, (readUnit text registry).2) := Prod.ext done rfl
  refine ⟨⟨fun done => ?_, fun done => ?_⟩, fun done => ?_⟩
  · obtain ⟨state, read, -⟩ := readUnit_alike forward (whole done)
    rw [read]
  · obtain ⟨state, read, -⟩ := readUnit_alike backward (whole done)
    rw [read]
  · obtain ⟨state, read, alike⟩ := readUnit_alike forward (whole done)
    rw [read]
    exact ⟨alike.declared, alike.scope⟩

/-- A comment and a line break between two words change nothing: both texts are read. -/
theorem readUnit_significant_comment : (readUnit "record //\n A" []).1 = none ∧
    (readUnit "record A" []).2.declared = (readUnit "record //\n A" []).2.declared ∧
      (readUnit "record A" []).2.scope = (readUnit "record //\n A" []).2.scope := by
  have plain : TokenStream.Lexes "record A"
      [⟨.identifier, "record", ⟨0, 1, 1⟩⟩, ⟨.identifier, "A", ⟨7, 1, 8⟩⟩] :=
    ⟨⟨8, 1, 9⟩, by decide +kernel⟩
  have apart : TokenStream.Lexes "record //\n A"
      [⟨.identifier, "record", ⟨0, 1, 1⟩⟩, ⟨.comment, "//", ⟨7, 1, 8⟩⟩, ⟨.identifier, "A", ⟨11, 2, 2⟩⟩] :=
    ⟨⟨12, 2, 3⟩, by decide +kernel⟩
  have read : (readUnit "record A" []).1 = none := by decide +kernel
  obtain ⟨both, equal⟩ := readUnit_significant plain apart (by decide) (by decide) []
  exact ⟨both.mp read, equal read⟩

end

end CowView
