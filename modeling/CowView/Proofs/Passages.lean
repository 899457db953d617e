import CowView.Proofs.Pointers

/-!
The passages of the strategies, in both directions. A pointer owns its value or borrows it in a scope, and what a
view takes in of the value points to it in the same way. Each passage comes down to objects that are added to the
store, a clone, or an owned form.
-/

namespace CowView.Live

def Object.pointing (scope? : Option Value) (referent : Value) : Object :=
  match scope? with
  | none => .owned referent
  | some duration => .borrowed referent duration

def release (scope? : Option Value) (referent : Value) : Run Value := do
  match scope? with
  | none => return referent
  | some scope =>
    checkScope scope
    toOwned referent

def takeIn (call : Call) (scope? : Option Value) (strategy : Strategy) (content : Value) : Run Value :=
  match scope? with
  | none => viewOwned call strategy content
  | some scope => viewBorrowed call strategy content scope

namespace Store

def IsOpen (store : Store) (scope? : Option Value) : Prop :=
  ∀ scope ∈ scope?, ∃ name isStatic, store.object? scope = some (.scope name true isStatic)

theorem IsOpen.grows {store later : Store} {scope? : Option Value} (grows : store.Grows later)
    (open_ : store.IsOpen scope?) : later.IsOpen scope? :=
  fun scope member => (open_ scope member).imp fun _ => Exists.imp fun _ => grows.object?

inductive PointsTo (store : Store) (pointer value : Value) : Bool → Prop
  | owned (held : store.object? pointer = some (.owned value)) : PointsTo store pointer value true
  | borrowed {scope : Value} {name : String} {isStatic : Bool}
    (held : store.object? pointer = some (.borrowed value scope))
    (open_ : store.object? scope = some (.scope name true isStatic)) :
    PointsTo store pointer value false

theorem PointsTo.pointing {store : Store} {pointer value : Value} {owned : Bool}
    (points : store.PointsTo pointer value owned) : ∃ scope? : Option Value, owned = scope?.isNone ∧
      store.object? pointer = some (.pointing scope? value) ∧ store.IsOpen scope? := by
  cases points with
  | owned held => exact ⟨none, rfl, held, nofun⟩
  | @borrowed scope name isStatic held open_ =>
    exact ⟨some scope, rfl, held, fun _ member => Option.some.inj member ▸ ⟨name, isStatic, open_⟩⟩

end Store

section

variable {store : Store} {pointer value : Value} {scope? : Option Value}

/-! ### Pointers -/

theorem isOwned_pointing (held : store.object? pointer = some (.pointing scope? value)) :
    isOwned pointer store = .ok scope?.isNone store := by
  cases scope? with
  | none => exact isOwned_owned held
  | some scope => exact isOwned_borrowed held

theorem ask_pointing (held : store.object? pointer = some (.pointing scope? value)) (steps : Nat) :
    ask (callWithin (steps + 1)) pointer "into_owned" store = release scope? value store := by
  cases scope? with
  | none => exact ask_owned held steps
  | some scope => exact ask_lent held steps

theorem read_pointing (held : store.object? pointer = some (.pointing scope? value)) (open_ : store.IsOpen scope?)
    {α : Type} (steps : Nat) (next : Value → Run α) :
    (if scope?.isNone = true then ask (callWithin (steps + 1)) pointer "into_owned" >>= next
      else member pointer "referent" >>= next) store = next value store := by
  cases scope? with
  | none => exact bind_of_ok (ask_owned held steps)
  | some scope =>
    obtain ⟨name, isStatic, open_⟩ := open_ scope rfl
    exact bind_of_ok (member_referent held open_)

/-! ### Fields of views -/

theorem viewArgument_apply (call : Call) {field : FieldView} {content : Value}
    (held : store.object? pointer = some (.pointing scope? value))
    (read : member value field.slot store = .ok content store) :
    (do
      let content ← member value field.slot
      let strategy := field.field.strategy
      if scope?.isNone then return (field.slot, ← viewOwned call strategy content)
      else return (field.slot, ← viewBorrowed call strategy content (← member pointer "scope")) :
        Run (String × Value)) store =
      (takeIn call scope? field.field.strategy content >>= fun output => pure (field.slot, output)) store := by
  rw [bind_of_ok read]
  cases scope? with
  | none => rfl
  | some scope =>
    show (member pointer "scope" >>= fun scope =>
      viewBorrowed call field.field.strategy content scope >>= fun output => pure (field.slot, output)) store = _
    rw [bind_of_ok (member_scope held)]
    rfl

theorem takeIn_regular (call : Call) (content : Value) (open_ : store.IsOpen scope?) :
    takeIn call scope? .regular content store = .ok store.next (store.put (.pointing scope? content)) := by
  cases scope? with
  | none => rfl
  | some scope =>
    obtain ⟨name, isStatic, open_⟩ := open_ scope rfl
    exact createBorrowed_apply open_

theorem takeIn_unbox (call : Call) {content inner : Value} (held : store.object? content = some (.box inner))
    (open_ : store.IsOpen scope?) :
    takeIn call scope? .unbox content store = .ok store.next (store.put (.pointing scope? inner)) := by
  have read : unboxed content store = .ok inner store := by
    rw [unboxed, bind_of_ok (object?_apply content store), held]
    rfl
  cases scope? with
  | none =>
    show (unboxed content >>= fun found => create (.owned found)) store = _
    rw [bind_of_ok read]
    rfl
  | some scope =>
    obtain ⟨name, isStatic, open_⟩ := open_ scope rfl
    show (unboxed content >>= fun found => createBorrowed found scope) store = _
    rw [bind_of_ok read]
    exact createBorrowed_apply open_

/-- A nested field is taken in by way of a pointer of its own. -/
theorem takeIn_nested (call : Call) (scope? : Option Value) (content : Value) :
    ∃ pointing : Run Value, takeIn call scope? .nested content = nestedView call content pointing ∧
      ∀ store : Store, store.IsOpen scope? →
        pointing store = .ok store.next (store.put (.pointing scope? content)) := by
  cases scope? with
  | none => exact ⟨create (.owned content), rfl, fun _ _ => rfl⟩
  | some scope =>
    refine ⟨createBorrowed content scope, rfl, fun store open_ => ?_⟩
    obtain ⟨name, isStatic, open_⟩ := open_ scope rfl
    exact createBorrowed_apply open_

theorem takeIn_flatten_owned {content : Value} {steps : Nat}
    (flattenable : requireFlattenable content store = .ok () store)
    (whole : ∀ now, store.Grows now → intoTarget (callWithin (steps + 1)) content now = .ok content now) :
    takeIn (callWithin (steps + 1)) none .flatten content store = .ok (store.put (.owned content)).next
      ((store.put (.owned content)).put (.owned content)) := by
  have held : (store.put (.owned content)).object? store.next = some (.owned content) := store.object?_put _
  show (requireFlattenable content >>= fun _ => create (.owned content) >>= fun pointer =>
    asDeref (callWithin (steps + 1)) pointer) store = _
  rw [bind_of_ok flattenable, bind_of_ok (create_apply _ _), asDeref, bind_of_ok (isOwned_owned held)]
  show (ask (callWithin (steps + 1)) store.next "into_owned" >>= fun found =>
    intoTarget (callWithin (steps + 1)) found >>= fun target => create (.owned target)) _ = _
  rw [bind_of_ok (ask_owned held steps), bind_of_ok (whole _ (.put store _))]
  rfl

theorem takeIn_flatten_borrowed {content scope target : Value} {after : Store} {steps : Nat}
    (open_ : store.IsOpen (some scope)) (flattenable : requireFlattenable content store = .ok () store)
    (ran : deref (callWithin (steps + 1)) content (store.put (.borrowed content scope)) = .ok target after)
    (grows : (store.put (.borrowed content scope)).Grows after) :
    takeIn (callWithin (steps + 1)) (some scope) .flatten content store =
      .ok after.next (after.put (.borrowed target scope)) := by
  obtain ⟨name, isStatic, open_⟩ := open_ scope rfl
  have new := Store.Grows.put store (.borrowed content scope)
  have lent : (store.put (.borrowed content scope)).object? store.next = some (.borrowed content scope) :=
    store.object?_put _
  show (requireFlattenable content >>= fun _ => createBorrowed content scope >>= fun pointer =>
    asDeref (callWithin (steps + 1)) pointer) store = _
  rw [bind_of_ok flattenable, bind_of_ok (createBorrowed_apply open_), asDeref,
    bind_of_ok (isOwned_borrowed lent)]
  show (member store.next "referent" >>= fun referent => deref (callWithin (steps + 1)) referent >>=
    fun target => member store.next "scope" >>= fun scope => createBorrowed target scope) _ = _
  rw [bind_of_ok (member_referent lent (new.object? open_)), bind_of_ok ran,
    bind_of_ok (member_scope (grows.object? lent)), createBorrowed_apply ((new.trans grows).object? open_)]

end

end CowView.Live
