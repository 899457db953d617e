import CowView.Proofs.Members

/-!
What pointers answer while their scope is open, and what the runs on them leave in the store.
-/

namespace CowView.Live

section

variable {store : Store} {pointer value scope : Value} {name : String}

/-! ### Members of pointers -/

theorem isOwned_owned (held : store.object? pointer = some (.owned value)) :
    isOwned pointer store = .ok true store := by
  have read : member pointer "is_owned" store = .ok (.bool true) store :=
    member_of_member? (member?_onValue (.constant (.bool true)) held rfl rfl rfl)
  rw [isOwned, get_bind, bind_of_ok read]
  rfl

theorem isOwned_borrowed (held : store.object? pointer = some (.borrowed value scope)) :
    isOwned pointer store = .ok false store := by
  have read : member pointer "is_owned" store = .ok (.bool false) store :=
    member_of_member? (member?_onValue (.constant (.bool false)) held rfl rfl rfl)
  rw [isOwned, get_bind, bind_of_ok read]
  rfl

theorem ask_owned (held : store.object? pointer = some (.owned value)) (steps : Nat) :
    ask (callWithin (steps + 1)) pointer "into_owned" store = .ok value store := by
  have read : member pointer "into_owned" store = .ok (.bound pointer (.cow .owned .intoOwned)) store :=
    member_of_member?
      (member?_onValue (.method (.cow .owned .intoOwned)) held rfl rfl rfl)
  rw [ask, bind_of_ok read]
  show answerCow .owned .intoOwned pointer store = _
  rw [answerCow, bind_of_ok (object?_apply pointer store), held]
  rfl

theorem checkScope_open {isStatic : Bool}
    (open_ : store.object? scope = some (.scope name true isStatic)) :
    checkScope scope store = .ok () store := by
  rw [checkScope, bind_of_ok (object?_apply scope store), open_]
  rfl

theorem member_referent {isStatic : Bool} (held : store.object? pointer = some (.borrowed value scope))
    (open_ : store.object? scope = some (.scope name true isStatic)) :
    member pointer "referent" store = .ok value store := by
  refine member_of_member? (member?_onValue (.property .referent) held rfl rfl ?_)
  show Property.read .referent pointer store = _
  rw [Property.read, get_bind]
  simp only [held]
  rw [bind_of_ok (checkScope_open open_)]
  rfl

theorem member_scope (held : store.object? pointer = some (.borrowed value scope)) :
    member pointer "scope" store = .ok scope store := by
  refine member_of_member? (member?_own held rfl fun property same => ?_)
  have slot : store.kindMember? .borrowed "scope" = some .slot := rfl
  cases slot.symm.trans same

theorem ask_lent (held : store.object? pointer = some (.borrowed value scope)) (steps : Nat) :
    ask (callWithin (steps + 1)) pointer "into_owned" store =
      (checkScope scope >>= fun _ => toOwned value) store := by
  have read : member pointer "into_owned" store =
      .ok (.bound pointer (.cow .borrowed .intoOwned)) store :=
    member_of_member?
      (member?_onValue (.method (.cow .borrowed .intoOwned)) held rfl rfl rfl)
  rw [ask, bind_of_ok read]
  show answerCow .borrowed .intoOwned pointer store = _
  rw [answerCow, bind_of_ok (object?_apply pointer store), held]

theorem ask_borrowed {isStatic : Bool} (held : store.object? pointer = some (.borrowed value scope))
    (open_ : store.object? scope = some (.scope name true isStatic)) (steps : Nat) :
    ask (callWithin (steps + 1)) pointer "into_owned" store = toOwned value store := by
  rw [ask_lent held, bind_of_ok (checkScope_open open_)]

theorem createBorrowed_apply {isOpen isStatic : Bool}
    (held : store.object? scope = some (.scope name isOpen isStatic)) :
    createBorrowed value scope store = .ok store.next (store.put (.borrowed value scope)) := by
  have true_ : store.isTrue scope = true := by
    cases scope with
    | object place => simp [Store.isTrue, held, Store.buffer?]
    | _ => cases held
  rw [createBorrowed, get_bind, true_]
  rfl

end

end CowView.Live
