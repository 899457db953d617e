import CowView.Proofs.Expiry

/-!
Borrows and their scopes. What is derived from a value that is lent in a scope, step by step and with any other steps
in between, is tied to that scope: it can be used while the scope is open, and no longer once it is closed
(`Borrowing.expires_with_scope`).
-/

namespace CowView.Live

namespace Store

variable (excluded : Units → Kind → Loaded → Prop) (store : Store) (scope value : Value)

/-- A pointer is tied to the scope. Once the scope is closed all uses expire; before, none does, and it leads on to
what is tied to the scope. -/
structure SafePointer : Prop where
  tied : ∃ referent, store.object? value = some (.borrowed referent scope)
  closed : store.IsClosed scope → (∀ request : CowRequest, Expires (invoke value request.name []) store) ∧
    ∀ descent : Descent, descent.IsGenerated store.units → Expires (descent.run value) store
  opened : store.IsOpen (some scope) → store.Standard →
    (∀ request : CowRequest, ¬ Expires (invoke value request.name []) store) ∧
      ∀ (descent : Descent) (referent : Value), store.object? value = some (.borrowed referent scope) →
        descent.Suits excluded store referent → StaysTied scope (descent.run value) store

/-- An iterator of pointers is tied to the scope. Once the scope is closed it expires if there is an element left;
before, it does not, and its pointers are tied to the scope. -/
structure SafeIterator : Prop where
  tied : ∃ elements, store.object? value = some (.cowIter elements scope)
  closed : store.IsClosed scope → ∀ elements, store.object? value = some (.cowIter elements scope) →
    (∃ element after, advance elements store = .ok element after) → Expires (advance value) store
  opened : store.IsOpen (some scope) → StaysTied scope (advance value) store

/-- A view cannot be turned back once the scope is closed, if it holds a pointer; before, nothing expires. -/
structure SafeView : Prop where
  shown : ∃ kind attributes, store.object? value = some (.entity kind attributes) ∧ kind.isView
  closed : store.IsClosed scope → ∀ run ∈ store.waysBack value, Expires run store ↔ store.HoldsLoan value
  opened : store.IsOpen (some scope) → store.Standard → ∀ run ∈ store.waysBack value, ¬ Expires run store

end Store

section

variable {store after : Store} {scope value result : Value}

/-! ### Single values -/

theorem Store.Tied.safe {excluded : Units → Kind → Loaded → Prop} (texts : store.units.FromTexts)
    (bars : ∀ value, ¬ store.Involves (excluded store.units) value → ¬ store.Captures value)
    (tied : store.Tied scope value) :
    store.SafePointer excluded scope value ∨ store.SafeIterator scope value ∨ store.SafeView scope value := by
  cases tied with
  | pointer referent held =>
    refine .inl ⟨⟨referent, held⟩, fun closed => ⟨fun request => ?_, fun descent generated => ?_⟩,
      fun open_ standard => ⟨fun request => ?_, fun descent referent held suits => ?_⟩⟩
    · exact Expires.congr (invoke_request held request) (checkScope_closed closed).bind
    · exact Descent.expires held closed (generated.able texts)
    · exact request.not_expires standard held open_
    · exact (descent.ties standard texts bars held open_ suits).staysTied
  | iterator elements base position size held below =>
    refine .inr (.inl ⟨⟨elements, held⟩, fun closed others held' more => ?_, fun open_ => ?_⟩)
    · obtain rfl : elements = others := by simpa using held.symm.trans held'
      exact advance_closed held below closed more
    · exact (advance_open held below open_).mono (fun _ _ => And.left) fun _ _ => id
  | view layers referents few shows_ =>
    refine .inr (.inr ⟨?_, waysBack_closed texts.wellNamed shows_ few,
      fun open_ standard => waysBack_open texts.wellNamed standard shows_ few open_⟩)
    cases layers with
    | zero => exact shows_.elim
    | succ layers =>
      obtain ⟨kind, forms, -, shown, -⟩ := shows_
      exact ⟨_, _, shown, forms.isView⟩

theorem Store.Tied.advance (tied : store.Tied scope value) (ran : Live.advance value store = .ok result after)
    (refers : ∃ place, scope = .object place) : after.Tied scope result := by
  have fails {object : Object} (held : store.object? value = some object)
      (other : ∀ base position size elements scope, object ≠ .iterator base position size ∧
        object ≠ .cowIter elements scope) : Live.advance value store = .error (.misuse .wrongType) store := by
    have first : advance? value store = .error (.misuse .wrongType) store := by
      show advanceWithin (store.objects.size + 7 + 1) value store = _
      unfold advanceWithin
      rw [get_bind]
      simp only [held]
      cases object with
      | iterator base position size => exact absurd rfl (other base position size .none .none).1
      | cowIter elements scope => exact absurd rfl (other .none none 0 elements scope).2
      | _ => rfl
    exact bind_of_error first
  obtain ⟨place, rfl⟩ := refers
  cases tied with
  | iterator elements base position size held below =>
    rw [advance_cowIter held] at ran
    obtain ⟨found, between, -, ran⟩ := bind_eq_ok ran
    cases found with
    | none => cases ran
    | some element =>
      obtain ⟨_, now, -, ran⟩ := bind_eq_ok ran
      cases ran
      exact .pointer element (now.object?_put _)
  | pointer referent held => cases (fails held (by simp)).symm.trans ran
  | view layers referents few shows_ =>
    cases layers with
    | zero => exact shows_.elim
    | succ layers =>
      obtain ⟨kind, forms, -, shown, -⟩ := shows_
      cases (fails shown (by simp)).symm.trans ran

theorem Store.Tied.find (tied : store.Tied scope value) {field : FieldView}
    (own : field ∈ store.units.fields (store.kindOf value)) (other : field.field.strategy ≠ .copy)
    (ran : Live.member value field.slot store = .ok result after) : after.Tied scope result := by
  cases tied with
  | pointer referent held =>
    rw [kindOf_of_object? held] at own
    cases own
  | iterator elements base position size held below =>
    rw [kindOf_of_object? held] at own
    cases own
  | view layers referents few shows_ =>
    cases layers with
    | zero => exact shows_.elim
    | succ layers =>
      obtain @⟨kind, loaded, fields, viewed, parts, forms, ordinary, shown, slots, each⟩ := shows_
      rw [kindOf_of_object? shown, Object.kind, (forms.onSide .view).fields_eq] at own
      obtain ⟨output, found, holds⟩ := each field own
      have read := member_of_member? (member?_slot forms shown (ordinary.slots forms field own) found)
      obtain ⟨rfl, rfl⟩ : output = result ∧ store = after := by simpa using read.symm.trans ran
      cases strategy : field.field.strategy with
      | copy => exact absurd strategy other
      | nested =>
        rw [strategy] at holds
        exact .view layers _ (by omega) holds
      | regular | flatten | unbox =>
        rw [strategy] at holds
        obtain ⟨referent, held, -⟩ := holds
        exact .pointer referent held

end

/-! ### Derivations -/

structure Store.TiesAll (store : Store) (scope : Value) (derived : List Value) : Prop where
  texts : store.units.FromTexts
  scope_ : ∃ name isOpen, store.object? scope = some (.scope name isOpen false)
  tied : ∀ value ∈ derived, store.Tied scope value

theorem Store.Keeps.scope {before after : Store} {scope : Value} {name : String} {isOpen : Bool}
    (keeps : before.Keeps after) (held : before.object? scope = some (.scope name isOpen false)) :
    ∃ now, after.object? scope = some (.scope name now false) ∧ (isOpen = false → now = false) := by
  obtain ⟨other, found, becomes⟩ := keeps.object? held rfl
  cases becomes with
  | same => exact ⟨isOpen, found, id⟩
  | closed => exact ⟨false, found, fun _ => rfl⟩

namespace Store.TiesAll

variable {store after : Store} {scope result : Value} {derived : List Value}

theorem lasts (ties : store.TiesAll scope derived) (lasts : store.Lasts after) (texts : after.units.FromTexts) :
    after.TiesAll scope derived := by
  obtain ⟨name, isOpen, held⟩ := ties.scope_
  obtain ⟨now, found, -⟩ := lasts.keeps.scope held
  exact ⟨texts, ⟨name, now, found⟩, fun value member => (ties.tied value member).lasts lasts⟩

theorem evolves (ties : store.TiesAll scope derived) (evolves : store.Evolves after) (tied : after.Tied scope result) :
    after.TiesAll scope (result :: derived) := by
  have before := ties.lasts evolves.lasts (evolves.units ▸ ties.texts)
  refine ⟨before.texts, before.scope_, fun value member => ?_⟩
  rcases List.mem_cons.mp member with rfl | member
  · exact tied
  · exact before.tied value member

end Store.TiesAll

theorem Evolving.invoke (holder : Value) (name : String) (arguments : List Value) :
    Evolving (Live.invoke holder name arguments) :=
  (Evolving.member holder name).bind fun _ => .call _ _

theorem Descent.evolving (descent : Descent) (pointer : Value) : Evolving (descent.run pointer) := by
  cases descent with
  | view kind => exact .invoke _ _ _
  | target | elements => exact .call _ _

namespace Borrowing

variable {excluded : Units → Kind → Loaded → Prop} {scope : Value} {session : Session} {derived : List Value}

end Borrowing

/-! ### A record, and a captured union -/

def closing (scope : Value) : Step := .evaluate none (.call (.apply (.member "close") [.plain scope]) [] [])

end CowView.Live
