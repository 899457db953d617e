import CowView.Proofs.Sessions
import CowView.Proofs.Views

/-!
From instances to views and back. In every state that a script reaches, each instance whose declarations
do not bar it has a view through any pointer to it, and both functions that make instances of views give
back one of the same kind that is equal (`Session.Reached.round_trip`).
-/

namespace CowView.Live

def ComesBack (run : Run Value) (value : Value) (store : Store) : Prop :=
  ∃ back later, run store = .ok back later ∧ later.kindOf back = store.kindOf value ∧
    equal back value later = .ok true later

/-- A view is made through the pointer, has the discriminant of the value if that is one of a union, and both
ways back give the value again, in every later store. -/
def RoundTrips (store : Store) (value pointer : Value) : Prop :=
  ∃ view after, invoke (.kind (store.kindOf value)) "butcher" [pointer] store = .ok view after ∧
    (∀ unit position side index, store.kindOf value = .variant unit position side index →
      ∃ name, member value "discriminant" store = .ok (.text name) store ∧
        member view "discriminant" after = .ok (.text name) after) ∧
    ∀ now, after.Grows now → ComesBack (invoke view "unbutcher" []) value now ∧
      ComesBack (invoke (.kind (store.kindOf value)) "unbutcher" [view]) value now

section

variable {store : Store} {kind : Kind} {loaded : Loaded} {fields : List FieldView} {value pointer : Value}
  {attributes : List (String × Value)} {owned : Bool}

theorem equal_of_alike (named : store.units.WellNamed) {layers : Nat} {copy : Value}
    (alike : store.AlikeWithin layers copy value) (enough : layers ≤ store.objects.size + 8) :
    equal copy value store = .ok true store :=
  equalWithin_of_alike named alike enough

namespace Store.ViewOf

variable {view : Value} {viewed : List (String × Value)} {layers : Nat}

theorem comesBack {run : Run Value} {store : Store} {entries : List (String × Value)} {back : Value}
    {after : Store} (named : store.units.WellNamed) (ran : run store = .ok back after)
    (grows : store.Grows after) (held : store.object? value = some (.entity (kind.onSide .source) attributes))
    (made : after.object? back = some (.entity (kind.onSide .source) entries))
    (alike : after.AlikeWithin layers back value) (enough : layers ≤ store.objects.size + 8) :
    ComesBack run value store := by
  refine ⟨back, after, ran, ?_, ?_⟩
  · rw [kindOf_of_object? made, kindOf_of_object? held]
    rfl
  · have more := grows.size_le
    exact equal_of_alike (grows.units ▸ named) alike (by omega)

theorem bothWays (viewOf : store.ViewOf layers kind loaded fields value attributes view viewed)
    (named : store.units.WellNamed) (enough : layers ≤ store.objects.size) :
    ComesBack (invoke view "unbutcher" []) value store ∧
      ComesBack (invoke (.kind (kind.onSide .source)) "unbutcher" [view]) value store := by
  constructor
  · obtain ⟨back, after, entries, ran, grows, made, alike⟩ :=
      viewOf.rebuild named (show 2 * layers + 1 ≤ 2 * (store.objects.size + 8) - 2 by omega)
    refine comesBack named ?_ grows viewOf.held made alike (by omega)
    rw [invoke_unbutcher_view viewOf.forms named (viewOf.ordinary.slots viewOf.forms) viewOf.shown viewOf.slots']
    exact ran
  · obtain ⟨back, after, entries, ran, grows, made, alike⟩ :=
      viewOf.putTogether named (show 2 * layers + 1 ≤ 2 * (store.objects.size + 8) - 1 by omega) (.inl rfl)
    refine comesBack named ?_ grows viewOf.held made alike (by omega)
    rw [invoke_unbutcher_kind viewOf.forms named viewOf.ordinary.generated (.inl rfl)]
    exact ran

end Store.ViewOf

/-- Instances that are built of plain contents make the round trip, unless they are captured. -/
theorem roundTrips (standard : store.Standard) (named : store.units.WellNamed) (plain : store.Plain value)
    (free : ¬ store.Captures value) (forms : store.units.Forms kind loaded fields)
    (held : store.object? value = some (.entity (kind.onSide .source) attributes))
    (points : store.PointsTo pointer value owned) : RoundTrips store value pointer := by
  have kindOf : store.kindOf value = kind.onSide .source := Store.kindOf_of_object? held
  have ordinary := Store.ordinary_of_not_captures free forms held
  have apart := ordinary.slots forms
  have names := forms.named named
  obtain ⟨scope?, -, lent, open_⟩ := points.pointing
  obtain ⟨view, after, ran, grows, less, entries, layers, viewOf⟩ := viewed (store.objects.size + 1)
    (2 * (store.objects.size + 8) - 1) standard named plain.within free forms held lent open_ (by omega)
  have named' : after.units.WellNamed := grows.units ▸ named
  rw [RoundTrips, kindOf]
  refine ⟨view, after, ?_, fun unit position side index variant => ?_, fun now more => ?_⟩
  · rw [invoke_butcher forms named ordinary.generated]
    exact ran
  · have shown := viewOf.shown
    cases forms with
    | record => cases variant
    | variant found body chosen =>
      exact ⟨_, member_discriminant found body chosen names apart held viewOf.slots,
        member_discriminant (grows.units ▸ found) body chosen names apart shown viewOf.slots'⟩
  · have size := (grows.trans more).size_le
    exact (viewOf.grows more).bothWays (more.units ▸ named') (by omega)

end

/-! ### Reached states -/

theorem Store.Plain.forms {store : Store} {value : Value} {kind : Kind} {attributes : List (String × Value)}
    (plain : store.Plain value) (held : store.object? value = some (.entity kind attributes)) :
    ∃ own loaded fields, store.units.Forms own loaded fields ∧ kind = own.onSide .source := by
  obtain ⟨layers, built⟩ := plain
  cases layers with
  | zero => exact built.elim
  | succ layers =>
    cases built with
    | simple simple =>
      rw [object?_simple simple] at held
      cases held
    | bytearray held' | list held' | tuple held' | dict held' | box held' =>
      rw [held] at held'
      cases held'
    | entity forms held' =>
      rw [held] at held'
      cases held'
      exact ⟨_, _, _, forms, rfl⟩

/-- In every state that a script reaches, instances that are built of plain contents make the round trip
through a view, if nothing bars that in their declarations or in those of nested instances. -/
theorem Session.Reached.round_trip {session : Session} (reached : session.Reached)
    (standard : session.store.Standard) {kind : Kind} {value pointer : Value}
    {attributes : List (String × Value)} {owned : Bool}
    (held : session.store.object? value = some (.entity kind attributes)) (plain : session.store.Plain value)
    (points : session.store.PointsTo pointer value owned)
    (free : ¬ session.store.Involves session.store.units.Bars value) :
    RoundTrips session.store value pointer := by
  obtain ⟨kind, loaded, fields, forms, rfl⟩ := plain.forms held
  exact roundTrips standard reached.fromTexts.wellNamed plain (reached.fromTexts.not_captures free) forms held points

/-- A union, and a record with a nested field that holds a value of it. -/
def heldUnion : Declaration := ⟨"S", [], .union [⟨"A", ⟨[], .unit⟩, ""⟩], none, ""⟩

def holdingRecord : Declaration :=
  ⟨"P", [], .record ⟨[⟨some "x", 0, .named "i64", .regular, [], ""⟩,
    ⟨some "s", 1, .named "S", .nested, [], ""⟩], .named⟩, none, ""⟩

def nestedLent : Session :=
  Live.lending "union S { A } record P { x : i64 @butcher(rebutcher) s : S }" ["P"]
    [.plain (.int 5), .call (.named ["m", "S", "A"]) [] []]

theorem nestedLent_store : nestedLent.store = .lending [heldUnion, holdingRecord]
    [.entity (.variant 0 0 .source 0) [], .entity (.record 0 1 .source) [("x", .int 5), ("s", .object 1)],
      .scope "scope-1" true false, .borrowed (.object 2) (.object 3)] := by decide +kernel

theorem nestedLent_plain : nestedLent.store.Plain (.object 2) := by
  rw [nestedLent_store]
  refine ⟨3, .entity (@Units.Forms.record _ _ _ .source _ _ rfl rfl) rfl rfl ?_ fun field member content own => ?_⟩
  · simp only [List.forall_mem_cons]
    exact ⟨.simple rfl, .entity (@Units.Forms.variant _ _ _ _ .source _ _ _ rfl rfl rfl) rfl rfl (by simp) (by simp),
      by simp⟩
  · simp only [holdingRecord, List.map_cons, List.map_nil, List.mem_cons, List.not_mem_nil, or_false] at member
    rcases member with rfl | rfl
    · trivial
    · cases own
      exact ⟨_, _, rfl⟩

theorem round_trip_nested : RoundTrips nestedLent.store (.object 2) (.object 4) := by
  have held : nestedLent.store.object? (.object 2) =
      some (.entity (.record 0 1 .source) [("x", .int 5), ("s", .object 1)]) := by
    rw [nestedLent_store]
    rfl
  have points : nestedLent.store.PointsTo (.object 4) (.object 2) false := by
    rw [nestedLent_store]
    exact .borrowed rfl rfl
  have standard : nestedLent.store.Standard := by
    rw [nestedLent_store]
    exact ⟨rfl, rfl⟩
  have safe : nestedLent.store.units.areSafe := by
    rw [nestedLent_store]
    decide +kernel
  have reached : nestedLent.Reached := lending_reached _ _ _
  exact reached.round_trip standard held nestedLent_plain points (Store.not_involves safe _)

/-- A union that is named like a variable of the function that makes its values. -/
def capturedUnion : Declaration := ⟨"discriminant", [], .union [⟨"A", ⟨[], .unit⟩, ""⟩], none, ""⟩

def capturedLent : Session := Live.lending "union discriminant { A }" ["discriminant", "A"] []

theorem capturedLent_store : capturedLent.store = .lending [capturedUnion]
    [.entity (.variant 0 0 .source 0) [], .scope "scope-1" true false, .borrowed (.object 1) (.object 2)] := by
  decide +kernel

/-- The session is like those in which instances make the round trip, but for the captured name. -/
theorem capturedLent_ordinary : capturedLent.store.Standard ∧
    (∀ unit ∈ capturedLent.store.units, ∀ loaded ∈ unit.declarations,
      ∀ side, loaded.view.nameOn side ≠ takenForGranted) ∧
    capturedLent.store.object? (.object 1) = some (.entity (.variant 0 0 .source 0) []) ∧
    capturedLent.store.PointsTo (.object 3) (.object 1) false := by
  rw [capturedLent_store]
  refine ⟨⟨rfl, rfl⟩, fun unit present loaded member side => ?_, rfl, .borrowed rfl rfl⟩
  obtain rfl := List.mem_singleton.mp present
  obtain rfl := List.mem_singleton.mp member
  cases side <;> decide

theorem capturedLent_forms : capturedLent.store.units.Forms (.variant 0 0 .source 0)
    ⟨View.resolved .default capturedUnion, none⟩ [] := by
  rw [capturedLent_store]
  exact @Units.Forms.variant _ 0 0 0 .source _ _ ⟨⟨"A", ⟨[], .unit⟩, ""⟩, []⟩ rfl rfl rfl

theorem fails_after {first : Run Value} {second : Value → Run Value} {store : Store} {problem : Misuse}
    (evaluated : (match first store with
      | .ok found between => match second found between with
        | .ok .. => false
        | .error failure _ => failure = .misuse problem
      | .error .. => false) = true) :
    ∃ found between later, first store = .ok found between ∧
      second found between = .error (.misuse problem) later := by
  split at evaluated
  next found between ran =>
    split at evaluated
    · cases evaluated
    next failure later ran' =>
      obtain rfl : failure = .misuse problem := by simpa using evaluated
      exact ⟨found, between, later, ran, ran'⟩
  · cases evaluated

/-- The view of a value of the union is made, but does not come back. -/
theorem capturedLent_fails : ∃ view after later,
    invoke (.kind (capturedLent.store.kindOf (.object 1))) "butcher" [.object 3] capturedLent.store =
      .ok view after ∧ invoke view "unbutcher" [] after = .error (.misuse .noMember) later :=
  fails_after (by rw [capturedLent_store]; decide +kernel)

theorem round_trip_captured : ¬ ∀ (session : Session) (kind : Kind) (value pointer : Value)
    (attributes : List (String × Value)) (owned : Bool), session.Reached → session.store.Standard →
      (∀ unit ∈ session.store.units, ∀ loaded ∈ unit.declarations,
        ∀ side, loaded.view.nameOn side ≠ takenForGranted) →
      session.store.object? value = some (.entity kind attributes) → session.store.Plain value →
      session.store.PointsTo pointer value owned → RoundTrips session.store value pointer := by
  intro all
  obtain ⟨standard, names, held, points⟩ := capturedLent_ordinary
  have plain : capturedLent.store.Plain (.object 1) :=
    ⟨1, .entity capturedLent_forms held rfl (by simp) (by simp)⟩
  have reached : capturedLent.Reached := lending_reached _ _ _
  obtain ⟨view, after, made, -, back⟩ :=
    all capturedLent _ (.object 1) (.object 3) _ _ reached standard names held plain points
  obtain ⟨⟨given, later, ran, -⟩, -⟩ := back after (.refl after)
  obtain ⟨view', after', failed, made', ran'⟩ := capturedLent_fails
  obtain ⟨rfl, rfl⟩ : view = view' ∧ after = after' := by simpa using made.symm.trans made'
  exact nomatch ran.symm.trans ran'

end CowView.Live
