import CowView.Generation
import CowView.Proofs.Termination

/-!
What reading a text registers. `Contents.ofText` reads the declarations of a text that are complete before reading
ends, whatever is registered; the registry only decides how many of them are kept. Those with new names are, up to
the first name that is taken already (`readUnit_registers`).
-/

namespace CowView

open TokenStream

/-! ### Declarations whatever is registered -/

structure Contents where
  found : List (Declaration × TokenStream)
  ending : EStateM.Result Fault TokenStream Unit

namespace Declaration.Parser

def complete (scope : Option String) : Reading Declaration := do
  let keyword ← ensure .identifier
  if keyword ≠ "record" && keyword ≠ "union" then
    throw (.assertion "Declarations start with record or union")
  let docs ← lastDocs
  let name ← introduced keyword false
  let parameters ← generics
  let body ← if keyword = "record" then Body.record <$> fieldList name else Body.union <$> union name
  return ⟨name, parameters, body, scope, docs⟩

def another : Reading Bool := do
  consume .semicolon
  if ← peekedIs .endOfInput then
    return false
  let token ← peek
  if token.kind = .identifier && (token.value = "record" || token.value = "union") then
    return true
  else
    throw (unexpected token ["record", "union"])

def leading : Reading (Option String) := do
  if ← nextIs .identifier (some "namespace") then
    let name ← TokenStream.qualifiedName
    consume .semicolon
    return some name
  else
    consume .semicolon
    return none

def contentsFrom (scope : Option String) : Nat → TokenStream → Contents
  | 0, stream => ⟨[], .error .outOfSteps stream⟩
  | steps + 1, stream =>
    match another stream with
    | .error fault left => ⟨[], .error fault left⟩
    | .ok false left => ⟨[], .ok () left⟩
    | .ok true start =>
      match complete scope start with
      | .error fault left => ⟨[], .error fault left⟩
      | .ok declaration behind =>
        match consume .semicolon behind with
        | .error fault left => ⟨[(declaration, behind)], .error fault left⟩
        | .ok _ left =>
          let later := contentsFrom scope steps left
          ⟨(declaration, behind) :: later.found, later.ending⟩

end Declaration.Parser

open Declaration.Parser

namespace Contents

def ofText (text : String) : Option String × Contents :=
  match leading (TokenStream.ofText text) with
  | .error fault left => (none, ⟨[], .error fault left⟩)
  | .ok scope left => (scope, contentsFrom scope (left.pending.length + 1) left)

def fault? (contents : Contents) : Option Fault :=
  match contents.ending with
  | .ok _ _ => none
  | .error fault left => some (located left fault)

theorem ofText_of_leading {text : String} {scope : Option String} {left : TokenStream}
    (led : leading (TokenStream.ofText text) = .ok scope left) :
    ofText text = (scope, contentsFrom scope (left.pending.length + 1) left) := by
  rw [ofText, led]

theorem fault?_of_error {contents : Contents} {fault : Fault} {left : TokenStream}
    (ended : contents.ending = .error fault left) : contents.fault? = some (located left fault) := by
  rw [fault?, ended]

end Contents

def completeIn (text : String) : List Declaration := (Contents.ofText text).2.found.map (·.1)

def faultIn? (text : String) : Option Fault := (Contents.ofText text).2.fault?

/-! ### New names -/

def fresh (names : List String) : List Declaration → List Declaration
  | [] => []
  | declaration :: rest =>
    if declaration.name ∈ names then []
    else declaration :: fresh (names ++ [declaration.name]) rest

section

variable {names : List String} {declarations : List Declaration}

theorem fresh_distinct (names : List String) (declarations : List Declaration) :
    ((fresh names declarations).map (·.name)).Nodup ∧ ∀ declaration ∈ fresh names declarations,
      declaration.name ∉ names := by
  induction declarations generalizing names with
  | nil => exact ⟨.nil, nofun⟩
  | cons declaration rest ih =>
    rw [fresh]
    split
    · exact ⟨.nil, nofun⟩
    next new =>
      obtain ⟨distinct, apart⟩ := ih (names ++ [declaration.name])
      have behind : ∀ other ∈ fresh (names ++ [declaration.name]) rest,
          other.name ∉ names ∧ other.name ≠ declaration.name :=
        fun other member => by simpa using apart other member
      refine ⟨List.nodup_cons.mpr ⟨fun member => ?_, distinct⟩,
        List.forall_mem_cons.mpr ⟨new, fun other member => (behind other member).1⟩⟩
      obtain ⟨other, member, same⟩ := List.mem_map.mp member
      exact (behind other member).2 same

theorem fresh_stops (names : List String) (declarations : List Declaration) :
    fresh names declarations = declarations ∨ ∃ declaration rest,
      declarations = fresh names declarations ++ declaration :: rest ∧
        declaration.name ∈ names ++ (fresh names declarations).map (·.name) := by
  induction declarations generalizing names with
  | nil => exact .inl rfl
  | cons declaration rest ih =>
    rw [fresh]
    split
    next taken => exact .inr ⟨declaration, rest, rfl, by simpa using taken⟩
    next new =>
      rcases ih (names ++ [declaration.name]) with same | ⟨other, later, parts, taken⟩
      · exact .inl (by rw [same])
      · refine .inr ⟨other, later, congrArg (declaration :: ·) parts, ?_⟩
        simpa using taken

theorem fresh_cons_of_mem {declaration : Declaration} (taken : declaration.name ∈ names) :
    fresh names (declaration :: declarations) = [] := if_pos taken

end

/-! ### Reading and registering -/

namespace UnitReading

theorem onStream_apply {α : Type} (action : Reading α) (state : UnitState) :
    onStream action state = match action state.stream with
      | .ok value stream => .ok value { state with stream }
      | .error fault stream => .error fault { state with stream } := rfl

theorem onStream_bind {α β : Type} (action : Reading α) (next : α → UnitReading β) (state : UnitState) :
    (onStream action >>= next) state = match action state.stream with
      | .ok value stream => next value { state with stream }
      | .error fault stream => .error fault { state with stream } := by
  rw [bind_apply, onStream_apply]
  cases action state.stream <;> rfl

theorem map_onStream {α β : Type} (change : α → β) (action : Reading α) :
    change <$> onStream action = onStream (change <$> action) := by
  funext state
  change EStateM.map change (onStream action) state = onStream (EStateM.map change action) state
  simp only [EStateM.map, onStream]
  cases action state.stream <;> rfl

end UnitReading

def Quiet (journal : List Event) : Prop := ∀ event ∈ journal, event.isNotice = false

theorem Quiet.append {first second : List Event} (one : Quiet first) (two : Quiet second) : Quiet (first ++ second) :=
  List.forall_mem_append.mpr ⟨one, two⟩

theorem Quiet.concat {journal : List Event} {event : Event} (quiet : Quiet journal) (own : event.isNotice = false) :
    Quiet (journal ++ [event]) := quiet.append (List.forall_mem_singleton.mpr own)

namespace Declaration.Parser

variable {scope : Option String}

/-- In a namespace, the action registers the declaration that the reading gives, or fails like the reading; apart
from that it writes to the journal, but no notice. -/
def Registers (scope : Option String) (action : UnitReading Unit) (reading : Reading Declaration) : Prop :=
  ∀ state : UnitState, state.scope = scope → ∃ journal, (Quiet state.journal → Quiet journal) ∧
    action state = match reading state.stream with
      | .ok declaration stream => register declaration { state with stream, journal }
      | .error fault stream => .error fault { state with stream, journal }

namespace Registers

theorem throw (fault : Fault) : Registers scope (throw fault) (throw fault) :=
  fun state _ => ⟨state.journal, id, rfl⟩

theorem ite {condition : Prop} [Decidable condition] {yes no : UnitReading Unit} {yes' no' : Reading Declaration}
    (first : Registers scope yes yes') (second : Registers scope no no') :
    Registers scope (if condition then yes else no) (if condition then yes' else no') := by
  split
  · exact first
  · exact second

theorem bind {α : Type} (first : Reading α) {action : α → UnitReading Unit} {reading : α → Reading Declaration}
    (later : ∀ value, Registers scope (action value) (reading value)) :
    Registers scope (UnitReading.onStream first >>= action) (first >>= reading) := by
  intro state own
  rw [UnitReading.onStream_bind, TokenStream.bind_apply]
  cases first state.stream with
  | ok value left => exact later value { state with stream := left } own
  | error fault left => exact ⟨state.journal, id, rfl⟩

theorem note {event : Event} (quiet : event.isNotice = false) {action : UnitReading Unit}
    {reading : Reading Declaration} (later : Registers scope action reading) :
    Registers scope (UnitReading.note event >>= fun _ => action) reading := by
  intro state own
  obtain ⟨journal, keeps, run⟩ := later { state with journal := state.journal ++ [event] } own
  exact ⟨journal, fun before => keeps (before.concat quiet), run⟩

end Registers

theorem registers_declaration (scope : Option String) : Registers scope declaration (complete scope) := by
  refine .bind _ fun keyword => .ite (.throw _) (.bind _ fun docs => .bind _ fun name => .bind _ fun parameters => ?_)
  refine .note rfl ?_
  have last (body : Body) : Registers scope (do register ⟨name, parameters, body, (← get).scope, docs⟩)
      (pure ⟨name, parameters, body, scope, docs⟩) := by
    intro state own
    rw [← own]
    exact ⟨state.journal, id, rfl⟩
  by_cases record : keyword = "record"
  · rw [if_pos record, if_pos record]
    have body := Registers.bind (Body.record <$> fieldList name) last
    rwa [← UnitReading.map_onStream] at body
  · rw [if_neg record, if_neg record]
    have body := Registers.bind (Body.union <$> union name) last
    rwa [← UnitReading.map_onStream] at body

def GoesOn (more action : UnitReading Unit) (reading : Reading Bool) : Prop :=
  ∀ state : UnitState, action state = match reading state.stream with
    | .ok true stream => more { state with stream }
    | .ok false stream => .ok () { state with stream }
    | .error fault stream => .error fault { state with stream }

namespace GoesOn

variable {more : UnitReading Unit}

theorem bind {α : Type} (first : Reading α) {action : α → UnitReading Unit} {reading : α → Reading Bool}
    (later : ∀ value, GoesOn more (action value) (reading value)) :
    GoesOn more (UnitReading.onStream first >>= action) (first >>= reading) := by
  intro state
  rw [UnitReading.onStream_bind, TokenStream.bind_apply]
  cases first state.stream with
  | ok value left => exact later value { state with stream := left }
  | error fault left => rfl

theorem ite {condition : Prop} [Decidable condition] {yes no : UnitReading Unit} {yes' no' : Reading Bool}
    (first : GoesOn more yes yes') (second : GoesOn more no no') :
    GoesOn more (if condition then yes else no) (if condition then yes' else no') := by
  split
  · exact first
  · exact second

end GoesOn

theorem goesOn_declarations (steps : Nat) : GoesOn (do
    declaration
    consume .semicolon
    declarations steps) (declarations (steps + 1)) another :=
  .bind _ fun _ => .bind _ fun _ => .ite (fun _ => rfl) (.bind _ fun _ => .ite (fun _ => rfl) fun _ => rfl)

/-! ### Keeping what is new -/

/-- What is kept of complete declarations where some names are taken: those with new names, and the end, which comes
early at a name that is taken. -/
def kept (names : List String) : List (Declaration × TokenStream) → EStateM.Result Fault TokenStream Unit →
    List Declaration × EStateM.Result Fault TokenStream Unit
  | [], ending => ([], ending)
  | (declaration, behind) :: rest, ending =>
    if declaration.name ∈ names then ([], .error (.naming (.alreadyDeclared declaration.name)) behind)
    else
      let later := kept (names ++ [declaration.name]) rest ending
      (declaration :: later.1, later.2)

section

variable {names : List String} {declaration : Declaration} (behind : TokenStream)
  (rest : List (Declaration × TokenStream)) (ending : EStateM.Result Fault TokenStream Unit)

theorem kept_of_mem (taken : declaration.name ∈ names) : kept names ((declaration, behind) :: rest) ending =
    ([], .error (.naming (.alreadyDeclared declaration.name)) behind) := if_pos taken

theorem kept_of_notMem (new : declaration.name ∉ names) : kept names ((declaration, behind) :: rest) ending =
    (declaration :: (kept (names ++ [declaration.name]) rest ending).1,
      (kept (names ++ [declaration.name]) rest ending).2) := if_neg new

theorem kept_fst (names : List String) :
    (kept names rest ending).1 = fresh names (rest.map (·.1)) := by
  induction rest generalizing names with
  | nil => rfl
  | cons first rest ih =>
    rw [List.map_cons, fresh]
    by_cases taken : first.1.name ∈ names
    · rw [kept_of_mem _ _ _ taken, if_pos taken]
    · rw [kept_of_notMem _ _ _ taken, if_neg taken, ih]

theorem kept_snd (names : List String) :
    ((kept names rest ending).1 = rest.map (·.1) → (kept names rest ending).2 = ending) ∧
      ((kept names rest ending).1 ≠ rest.map (·.1) →
        ∃ name stream, (kept names rest ending).2 = .error (.naming (.alreadyDeclared name)) stream) := by
  induction rest generalizing names with
  | nil => exact ⟨fun _ => rfl, fun never => absurd rfl never⟩
  | cons first rest ih =>
    by_cases taken : first.1.name ∈ names
    · rw [kept_of_mem _ _ _ taken]
      exact ⟨nofun, fun _ => ⟨_, _, rfl⟩⟩
    · rw [kept_of_notMem _ _ _ taken, List.map_cons]
      have later := ih (names ++ [first.1.name])
      simpa only [ne_eq, List.cons.injEq, true_and] using later

end

def unitAfter : EStateM.Result Fault UnitState Unit → UnitState
  | .ok _ left => left
  | .error _ left => left

structure Adds (state : UnitState) (result : EStateM.Result Fault UnitState Unit) (more : List Declaration)
    (ending : EStateM.Result Fault TokenStream Unit) : Prop where
  ending : onTokens result = ending
  declared : (unitAfter result).declared = state.declared ++ more
  registry : (unitAfter result).registry = state.registry ++ more
  scope : (unitAfter result).scope = state.scope
  journal : Quiet state.journal → Quiet (unitAfter result).journal

theorem Adds.none (state : UnitState) (value : EStateM.Result Fault TokenStream Unit) :
    Adds state (match value with
      | .ok _ stream => .ok () { state with stream }
      | .error fault stream => .error fault { state with stream }) [] value := by
  cases value <;> exact ⟨rfl, (List.append_nil _).symm, (List.append_nil _).symm, rfl, id⟩

def having (state : UnitState) (declaration : Declaration) (stream : TokenStream) (journal : List Event) : UnitState :=
  { state with
    stream
    declared := state.declared ++ [declaration]
    registry := state.registry ++ [declaration]
    journal }

theorem Adds.cons {state : UnitState} {declaration : Declaration} {stream : TokenStream} {journal : List Event}
    {result : EStateM.Result Fault UnitState Unit} {more : List Declaration}
    {ending : EStateM.Result Fault TokenStream Unit} (quiet : Quiet state.journal → Quiet journal)
    (later : Adds (having state declaration stream journal) result more ending) :
    Adds state result (declaration :: more) ending where
  ending := later.ending
  declared := by rw [later.declared, having, List.append_assoc, List.singleton_append]
  registry := by rw [later.registry, having, List.append_assoc, List.singleton_append]
  scope := later.scope
  journal := later.journal ∘ quiet

theorem register_apply (declaration : Declaration) (state : UnitState) : register declaration state =
    if declaration.name ∈ state.registry.map (·.name) then
      .error (.naming (.alreadyDeclared declaration.name)) state
    else .ok () (having state declaration state.stream
      (state.journal ++ [.registering declaration.qualifiedName])) := by
  change (if state.registry.any (·.name = declaration.name) then throw _ else _ : UnitReading Unit) state = _
  have same : state.registry.any (·.name = declaration.name) = true ↔
      declaration.name ∈ state.registry.map (·.name) := by simp
  by_cases taken : declaration.name ∈ state.registry.map (·.name)
  · rw [if_pos taken, if_pos (same.mpr taken)]
    rfl
  · rw [if_neg taken, if_neg (taken ∘ same.mp)]
    rfl

/-- Declarations are read one after the other, and kept as long as their names are new. -/
theorem declarations_adds (steps : Nat) (state : UnitState) :
    let contents := contentsFrom state.scope steps state.stream
    let outcome := kept (state.registry.map (·.name)) contents.found contents.ending
    Adds state (declarations steps state) outcome.1 outcome.2 := by
  induction steps generalizing state with
  | zero => exact .none state (.error .outOfSteps state.stream)
  | succ steps ih =>
    dsimp only
    rw [goesOn_declarations steps state, contentsFrom]
    cases another state.stream with
    | error fault left => exact .none state (.error fault left)
    | ok more start =>
      cases more with
      | false => exact .none state (.ok () start)
      | true =>
        dsimp only
        obtain ⟨journal, keeps, read⟩ := registers_declaration state.scope { state with stream := start } rfl
        rw [UnitReading.bind_apply, read]
        cases complete state.scope start with
        | error fault left => exact ⟨rfl, (List.append_nil _).symm, (List.append_nil _).symm, rfl, keeps⟩
        | ok declaration behind =>
          dsimp only
          rw [register_apply]
          -- The reading goes on to the semicolon whether or not the name is taken; the unit stops before it.
          by_cases taken : declaration.name ∈ state.registry.map (·.name)
          · rw [if_pos taken]
            cases consume .semicolon behind <;> rw [kept_of_mem _ _ _ taken] <;>
              exact ⟨rfl, (List.append_nil _).symm, (List.append_nil _).symm, rfl, keeps⟩
          · rw [if_neg taken]
            have quiet : Quiet state.journal → Quiet (journal ++ [.registering declaration.qualifiedName]) :=
              fun before => (keeps before).concat rfl
            generalize journal ++ [.registering declaration.qualifiedName] = journal at quiet ⊢
            change Adds state ((UnitReading.onStream (consume .semicolon) >>= fun _ => declarations steps)
              (having state declaration behind journal)) _ _
            rw [UnitReading.onStream_bind]
            have front : (having state declaration behind journal).stream = behind := rfl
            rw [front]
            cases consume .semicolon behind with
            | error fault left =>
              rw [kept_of_notMem _ _ _ taken]
              exact .cons quiet (.none (having state declaration left journal) (.error fault left))
            | ok value left =>
              rw [kept_of_notMem _ _ _ taken]
              have later := ih (having state declaration left journal)
              dsimp only [having] at later
              rw [List.map_append] at later
              exact .cons quiet later

/-! ### Whole texts -/

def Scopes (action : UnitReading Unit) (reading : Reading (Option String)) : Prop :=
  ∀ state : UnitState, ∃ scope, action state = match reading state.stream with
    | .ok found stream => .ok () { state with stream, scope := found.or state.scope }
    | .error fault stream => .error fault { state with stream, scope }

theorem Scopes.bind {α : Type} (first : Reading α) {action : α → UnitReading Unit}
    {reading : α → Reading (Option String)} (later : ∀ value, Scopes (action value) (reading value)) :
    Scopes (UnitReading.onStream first >>= action) (first >>= reading) := by
  intro state
  rw [UnitReading.onStream_bind, TokenStream.bind_apply]
  cases first state.stream with
  | ok value left => exact later value { state with stream := left }
  | error fault left => exact ⟨state.scope, rfl⟩

theorem scopes_namespaceName : Scopes namespaceName leading := by
  refine .bind _ fun found => ?_
  cases found with
  | false =>
    intro state
    refine ⟨state.scope, ?_⟩
    change UnitReading.onStream (consume .semicolon) state = _
    rw [UnitReading.onStream_apply, if_neg (by simp), TokenStream.bind_apply]
    cases consume .semicolon state.stream <;> rfl
  | true =>
    refine .bind _ fun name state => ⟨some name, ?_⟩
    change UnitReading.onStream (consume .semicolon) { state with scope := some name } = _
    rw [UnitReading.onStream_apply, TokenStream.bind_apply]
    cases consume .semicolon state.stream <;> rfl

theorem unit_apply (text : String) (registry : List Declaration) :
    let contents := (Contents.ofText text).2
    let outcome := kept (registry.map (·.name)) contents.found contents.ending
    let result := unit (UnitState.ofText text registry)
    onTokens result = outcome.2 ∧ (unitAfter result).declared = outcome.1 ∧
      (unitAfter result).registry = registry ++ outcome.1 ∧
      ((∃ left, outcome.2 = .ok () left) → (unitAfter result).scope = (Contents.ofText text).1) ∧
      Quiet (unitAfter result).journal := by
  obtain ⟨scope, run⟩ := scopes_namespaceName (UnitState.ofText text registry)
  have start : (UnitState.ofText text registry).stream = TokenStream.ofText text := rfl
  rw [start] at run
  unfold unit Contents.ofText
  dsimp only
  rw [UnitReading.bind_apply, run]
  cases leading (TokenStream.ofText text) with
  | error fault left =>
    refine ⟨rfl, rfl, (List.append_nil _).symm, ?_, nofun⟩
    rintro ⟨_, never⟩
    cases never
  | ok found left =>
    have own : (found.or (UnitState.ofText text registry).scope) = found := Option.or_none
    dsimp only
    rw [own]
    have adds := declarations_adds (left.pending.length + 1) ⟨left, found, [], registry, []⟩
    exact ⟨adds.ending, adds.declared, adds.registry, fun _ => adds.scope, adds.journal nofun⟩

end Declaration.Parser

theorem readUnit_of_ok {text : String} {registry : List Declaration} {left : UnitState} {value : Unit}
    (run : unit (UnitState.ofText text registry) = .ok value left) : readUnit text registry = (none, left) := by
  unfold readUnit
  rw [locating_of_ok run]

theorem readUnit_of_error {text : String} {registry : List Declaration} {left : UnitState} {fault : Fault}
    (run : unit (UnitState.ofText text registry) = .error fault left) : ∃ stream : TokenStream,
      readUnit text registry = (some (located left.stream fault), { left with stream }) := by
  obtain ⟨stream, located⟩ := locating_of_error run
  refine ⟨stream, ?_⟩
  unfold readUnit
  rw [located]

/-- **What reading a text registers.** The declarations that are complete are added to the registry in their order,
up to the first whose name is taken. The text is at fault as it would be on its own, or at that name. -/
theorem readUnit_registers (text : String) (registry : List Declaration) :
    (readUnit text registry).2.declared = fresh (registry.map (·.name)) (completeIn text) ∧
    (readUnit text registry).2.registry = registry ++ fresh (registry.map (·.name)) (completeIn text) ∧
    (fresh (registry.map (·.name)) (completeIn text) = completeIn text →
      (readUnit text registry).1 = faultIn? text ∧
        ((readUnit text registry).1 = none → (readUnit text registry).2.scope = (Contents.ofText text).1)) ∧
    (fresh (registry.map (·.name)) (completeIn text) ≠ completeIn text →
      ∃ fault, (readUnit text registry).1 = some fault ∧ fault.isSource = true) := by
  have ended := unitEnds_unit (UnitState.ofText text registry) (sane_ofText text) (Nat.le_refl _)
  obtain ⟨tokens, declared, registered, scope, -⟩ := unit_apply text registry
  obtain ⟨all, some⟩ := kept_snd (Contents.ofText text).2.found (Contents.ofText text).2.ending (registry.map (·.name))
  rw [kept_fst] at declared registered all some
  change fresh _ (completeIn text) = completeIn text → _ at all
  change fresh _ (completeIn text) ≠ completeIn text → _ at some
  rw [← tokens] at all some scope
  cases run : unit (UnitState.ofText text registry) with
  | ok value left =>
    rw [run] at declared registered scope all some
    rw [readUnit_of_ok run]
    refine ⟨declared, registered, fun new => ⟨?_, fun _ => scope ⟨left.stream, rfl⟩⟩, fun taken => ?_⟩
    · rw [faultIn?, Contents.fault?, ← all new]
      rfl
    · obtain ⟨_, _, never⟩ := some taken
      cases never
  | error fault left =>
    rw [run] at declared registered ended all some
    obtain ⟨stream, outcome⟩ := readUnit_of_error run
    rw [outcome]
    refine ⟨declared, registered, fun new => ⟨?_, nofun⟩, fun taken => ?_⟩
    · rw [faultIn?, Contents.fault?, ← all new]
      rfl
    · obtain ⟨name, behind, naming⟩ := some taken
      cases naming
      exact ⟨_, rfl, located_isSource ended.2 _⟩

/-! ### Contexts -/

namespace Context

variable {context : Context} {text : String}

theorem parse_fst (context : Context) (text : String) : (context.parse text).1 =
    match (readUnit text context.registry).1 with
    | none => .ok (readUnit text context.registry).2.declared
    | some fault => .error fault := by
  unfold parse
  generalize readUnit text context.registry = outcome
  rfl

theorem generate_fst (context : Context) (text template : String) : (context.generate text template).1 =
    match (readUnit text context.registry).1 with
    | none => context.render template (readUnit text context.registry).2
    | some fault => .error (.unit fault) := by
  unfold generate
  generalize readUnit text context.registry = outcome
  obtain ⟨fault, state⟩ := outcome
  cases fault <;> rfl

theorem parse_registry (context : Context) (text : String) : (context.parse text).2 =
    { context with registry := context.registry ++ fresh context.names (completeIn text) } := by
  obtain ⟨-, registered, -⟩ := readUnit_registers text context.registry
  change { context with registry := (readUnit text context.registry).2.registry } = _
  rw [registered]
  rfl

theorem exists_readUnit {declared : List Declaration} (read : (context.parse text).1 = .ok declared) :
    ∃ state : UnitState, readUnit text context.registry = (none, state) ∧ state.declared = declared := by
  rcases outcome : readUnit text context.registry with ⟨fault, state⟩
  rw [parse, outcome] at read
  cases fault with
  | some fault => cases read
  | none =>
    cases read
    exact ⟨state, rfl, rfl⟩

theorem parse_eq_ok {declared : List Declaration} (read : (context.parse text).1 = .ok declared) :
    declared = completeIn text ∧ fresh context.names (completeIn text) = completeIn text ∧ faultIn? text = none := by
  obtain ⟨state, outcome, rfl⟩ := exists_readUnit read
  obtain ⟨given, -, own, other⟩ := readUnit_registers text context.registry
  rw [outcome] at given own other
  by_cases all : fresh context.names (completeIn text) = completeIn text
  · exact ⟨given.trans all, all, (own all).1.symm⟩
  · obtain ⟨fault, never, -⟩ := other all
    cases never

end Context

end CowView
