import CowView.Proofs.Costs
import CowView.Proofs.Instances

/-!
What is cloned of the contents of an instance. A content suits the strategy of its field if the clone or the owned
form that is made of it can be made; then it can be made again in all later stores, and counts as many clones
(`Store.Suits.steady`).
-/

namespace CowView.Live

def cloneFor? (strategy : Strategy) (content : Value) : Option (Run Value) :=
  match strategy with
  | .copy => some (clone content)
  | .regular | .flatten | .unbox | .nested => none

/-- The owned form that is made of a content when it comes back from a view of a borrowed value. -/
def ownedFor? (strategy : Strategy) (content : Value) : Option (Run Value) :=
  match strategy with
  | .regular => some (toOwned content)
  | .flatten => some (do toOwned (← deref call content))
  | .unbox => some (do toOwned (← unboxed content))
  | .copy | .nested => none

namespace Store

inductive Lends (store : Store) : Value → Prop
  | flattened {value : Value} (meets : store.Meets .flatten value) : Lends store value
  | handle {value target : Value} {kind : Kind} (handles : kind = .handle ∨ kind = .subHandle)
    (held : store.object? value = some (.entity kind [("value", target)])) : Lends store value

structure Suits (store : Store) (strategy : Strategy) (content : Value) : Prop where
  cloned : ∀ run ∈ cloneFor? strategy content, Succeeds run store
  owned : ∀ run ∈ ownedFor? strategy content, Succeeds run store
  lends : strategy = .flatten → store.Lends content

end Store

def Call.IsAble (call : Call) : Prop := ∀ callee arguments store, ∃ steps,
  call callee arguments store = callWithin (steps + 1) callee arguments store

theorem callWithin_able (steps : Nat) : Call.IsAble (callWithin (steps + 1)) := fun _ _ _ => ⟨steps, rfl⟩

theorem call_able : Call.IsAble call := fun _ _ store => ⟨2 * (store.objects.size + 7) + 1, rfl⟩

section

variable {store : Store} {value content : Value}

/-! ### What can be flattened -/

/-- No conversions are registered for handles. They borrow through by a method of their own, and are the owned
form of what they borrow through to. -/
theorem handle_members (standard : store.Standard) {aim : Value} {kind : Kind}
    (handles : kind = .handle ∨ kind = .subHandle)
    (held : store.object? value = some (.entity kind [("value", aim)])) :
    store.target? value = none ∧ callable? value "deref" store = .ok (some (.bound value .content)) store ∧
      callable? value "into_target" store = .ok none store ∧ member value "value" store = .ok aim store := by
  have unregistered : store.target? value = none := by
    rw [Store.target?, standard.targets, Store.kindOf_of_object? held]
    rcases handles with rfl | rfl <;> rfl
  have absent : member? value "into_target" store = .ok none store := by
    obtain ⟨address, rfl, -⟩ := Store.address_of_object? held
    rw [member?, get_bind]
    simp only [held, Store.kindOf_of_object? held]
    rcases handles with rfl | rfl <;> rfl
  refine ⟨unregistered, ?_, callable?_eq_none absent, ?_⟩
  · rcases handles with rfl | rfl <;>
      exact callable?_of_member? (member?_onValue (.method .content) held rfl rfl rfl)
  · refine member_of_member? (member?_own held rfl fun property => ?_)
    rcases handles with rfl | rfl <;> exact fun computed => by cases computed

theorem isFlattenable_handle (standard : store.Standard) {aim : Value} {kind : Kind}
    (handles : kind = .handle ∨ kind = .subHandle)
    (held : store.object? value = some (.entity kind [("value", aim)])) :
    isFlattenable value store = .ok true store := by
  obtain ⟨unregistered, found, absent, -⟩ := handle_members standard handles held
  rw [isFlattenable, get_bind, unregistered]
  show (callable? value "deref" >>= fun first => callable? value "into_target" >>= fun second =>
    pure (first.isSome && second.isNone) : Run Bool) store = _
  rw [bind_of_ok found, bind_of_ok absent]
  rfl

theorem deref_handle (standard : store.Standard) {aim : Value} {kind : Kind}
    (handles : kind = .handle ∨ kind = .subHandle)
    (held : store.object? value = some (.entity kind [("value", aim)])) {call : Call} (able : call.IsAble) :
    deref call value store = .ok aim store := by
  obtain ⟨unregistered, found, -, read⟩ := handle_members standard handles held
  obtain ⟨steps, within⟩ := able (.bound value .content) ⟨[], []⟩ store
  rw [deref, get_bind, unregistered]
  dsimp only
  rw [bind_of_ok found]
  exact within.trans read

namespace Store.Lends

theorem requireFlattenable_apply (standard : store.Standard) (lends : store.Lends value) :
    requireFlattenable value store = .ok () store := by
  cases lends with
  | flattened meets => exact Live.requireFlattenable_apply standard meets
  | handle handles held =>
    rw [requireFlattenable, bind_of_ok (isFlattenable_handle standard handles held)]
    rfl

theorem grows {later : Store} (grows : store.Grows later) (lends : store.Lends value) : later.Lends value := by
  cases lends with
  | flattened meets => exact .flattened (meets.grows grows)
  | handle handles held => exact .handle handles (grows.object? held)

/-- What can be flattened borrows through to the same value in all later stores, or to a new window of its bytes
each time. -/
theorem deref (standard : store.Standard) (lends : store.Lends value) :
    (∃ target, ∀ now (call : Call), call.IsAble → store.Grows now →
        Live.deref call value now = .ok target now) ∨
      ∃ content, (value = .bytes content ∨ store.object? value = some (.bytearray content)) ∧
        ∀ now (call : Call), call.IsAble → store.Grows now →
          Live.deref call value now = .ok now.next (now.put (.window value 0 content.length)) := by
  cases lends with
  | flattened meets =>
    rcases deref_flattened standard meets with same | ⟨content, bytes, window⟩
    · exact .inl ⟨value, fun now call _ grows => same now call grows⟩
    · exact .inr ⟨content, bytes, fun now call _ grows => window now call grows⟩
  | @handle aim kind handles held =>
    exact .inl ⟨aim, fun now call able grows =>
      deref_handle (standard.grows grows) handles (grows.object? held) able⟩

end Store.Lends

/-! ### What is made again -/

theorem steady_unboxed (standard : store.Standard) (succeeds : Succeeds (do toOwned (← unboxed content)) store) :
    ∃ inner, store.object? content = some (.box inner) ∧ Steady (toOwned inner) store ∧
      Steady (do toOwned (← unboxed content)) store ∧
        clonesOf (do toOwned (← unboxed content)) store = clonesOf (toOwned inner) store := by
  obtain ⟨inner, held⟩ : ∃ inner, store.object? content = some (.box inner) := by
    obtain ⟨result, after, ran⟩ := succeeds
    obtain ⟨inner, between, read, -⟩ := bind_eq_ok ran
    rw [unboxed, bind_of_ok (object?_apply content store)] at read
    cases held : store.object? content with
    | none => simp only [held] at read; cases read
    | some object =>
      cases object with
      | box inner => exact ⟨inner, rfl⟩
      | _ => simp only [held] at read; cases read
  have same {now : Store} (grows : store.Grows now) :
      (do toOwned (← unboxed content) : Run Value) now = toOwned inner now := by
    have read : unboxed content now = .ok inner now := by
      rw [unboxed, bind_of_ok (object?_apply content now), grows.object? held]
      rfl
    rw [bind_of_ok read]
  have succeeds' := succeeds
  rw [Succeeds, same (.refl store)] at succeeds'
  have steady := steady_toOwned standard succeeds'
  refine ⟨inner, held, steady, steady.congr fun later grows => same grows, ?_⟩
  unfold clonesOf
  rw [same (.refl store)]

/-- What a flattened field borrows through to has an owned form in all later stores. -/
theorem steady_flattened (standard : store.Standard) (lends : store.Lends content)
    (succeeds : Succeeds (do toOwned (← deref call content)) store) :
    Steady (do toOwned (← deref call content)) store := by
  rcases lends.deref standard with ⟨target, same⟩ | ⟨whole, bytes, window⟩
  · have run {now : Store} (grows : store.Grows now) :
        (do toOwned (← deref call content) : Run Value) now = toOwned target now :=
      bind_of_ok (same now call call_able grows)
    rw [Succeeds, run (.refl store)] at succeeds
    exact (steady_toOwned standard succeeds).congr fun later grows => run grows
  · have costs {now : Store} (grows : store.Grows now) : Costs (do toOwned (← deref call content)) now 0 := by
      have new := Store.Grows.put now (.window content 0 whole.length)
      have shown := now.object?_put (.window content 0 whole.length)
      have kind : (now.put (.window content 0 whole.length)).kindOf now.next = .window :=
        Store.kindOf_of_object? shown
      have buffer := buffer?_window shown (bytes.imp_right (grows.trans new).object?)
      rw [Costs, bind_of_ok (window now call call_able grows), (standard.grows (grows.trans new)).toOwned_eq,
        if_pos kind]
      obtain ⟨result, after, ran, grows', counts⟩ := costs_ownedFromWindow shown buffer
      exact ⟨result, after, ran, new.trans grows', counts⟩
    intro later grows
    rw [(costs (.refl store)).clonesOf_eq]
    exact costs grows

theorem Store.Suits.steady {strategy : Strategy} (standard : store.Standard)
    (suits : store.Suits strategy content) :
    (∀ run ∈ cloneFor? strategy content, Steady run store) ∧ ∀ run ∈ ownedFor? strategy content, Steady run store := by
  constructor
  · intro run made
    have succeeds := suits.cloned run made
    cases strategy <;> cases made
    exact steady_clone succeeds
  · intro run made
    have succeeds := suits.owned run made
    cases strategy with
    | regular =>
      cases made
      exact steady_toOwned standard succeeds
    | flatten =>
      cases made
      exact steady_flattened standard (suits.lends rfl) succeeds
    | unbox =>
      cases made
      obtain ⟨-, -, -, steady, -⟩ := steady_unboxed standard succeeds
      exact steady
    | copy | nested => cases made

end

end CowView.Live
