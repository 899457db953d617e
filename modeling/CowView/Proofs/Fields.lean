import CowView.Proofs.Cloning
import CowView.Proofs.Passages

/-!
Fields that pass into a view and back, all but those with views of their own. What the passage back gives
in any later store is like the content that went in: the content itself when it was owned, a clone of it
or of what it borrows through to when it was borrowed.
-/

namespace CowView.Live

namespace Store

/-- No conversions are registered but those of the library. -/
structure Standard (store : Store) : Prop where
  owners : store.owners = Store.initial.owners
  targets : store.targets = Store.initial.targets

theorem Standard.grows {store after : Store} (standard : store.Standard) (grows : store.Grows after) :
    after.Standard :=
  ⟨grows.owners.trans standard.owners, grows.targets.trans standard.targets⟩

def Restores (store : Store) (layers : Nat) (strategy : Strategy) (content output : Value) : Prop :=
  ∀ after steps, store.Grows after → 2 * layers + 1 ≤ steps →
    ∃ back later, giveBack (callWithin steps) strategy output after = .ok back later ∧
      after.Grows later ∧ later.AlikeWithin layers back content

theorem Restores.grows {store after : Store} {layers : Nat} {strategy : Strategy}
    {content output : Value} (grows : store.Grows after)
    (restores : store.Restores layers strategy content output) :
    after.Restores layers strategy content output :=
  fun later steps more => restores later steps (grows.trans more)

end Store

section

variable {store : Store} {value : Value} {layers : Nat}

/-! ### The conversions of the library -/

/-- Without conversions but those of the library, only the owned forms of windows are no clones. -/
theorem Store.Standard.toOwned_eq (standard : store.Standard) (value : Value) :
    toOwned value store = if store.kindOf value = .window then ownedFromWindow value store
      else clone value store := by
  have owners : store.owners = [(.window, .viewed)] := standard.owners
  have owner : store.owner? value = if store.kindOf value = .window then some .viewed else none := by
    have known (kind : Kind) : store.owners.lookup kind = if kind = .window then some .viewed else none := by
      by_cases same : kind = .window <;> simp [owners, List.lookup_cons, same, beq_eq_false_iff_ne.mpr]
    rw [Store.owner?]
    simp only [known]
    generalize store.kindOf value = kind
    by_cases same : kind = .window
    · subst same
      rfl
    · rw [if_neg same, List.findSome?_eq_none_iff]
      intro other member
      have different : other ≠ .window := by
        rintro rfl
        cases kind with
        | strategy strategy => cases strategy <;> simp [Kind.ancestors] at member
        | record _ _ side | union _ _ side | variant _ _ side _ =>
          cases side <;> simp [Kind.ancestors, Kind.ofSide] at member
        | window => exact same rfl
        | _ => simp [Kind.ancestors] at member
      rw [if_neg different]
  rw [toOwned, get_bind, owner]
  split
  · rfl
  · rfl

/-- Plain contents are neither windows nor handles. -/
theorem Store.Plain.kindOf_notMem (plain : store.Plain value) :
    store.kindOf value ∉ [.window, .handle, .subHandle] := by
  obtain ⟨layers, built⟩ := plain
  cases layers with
  | zero => exact built.elim
  | succ layers =>
    cases built with
    | simple simple =>
      revert simple
      cases value <;> simp [Value.isSimple, Store.kindOf]
    | bytearray held | list held | tuple held | dict held | box held =>
      simp [Store.kindOf_of_object? held, Object.kind]
    | entity forms held =>
      rw [Store.kindOf_of_object? held]
      cases forms <;> simp [Object.kind, Kind.onSide]

theorem toOwned_plain (standard : store.Standard) (built : store.BuiltWithin layers value) :
    ∃ copy after, toOwned value store = .ok copy after ∧ store.Grows after ∧
      after.AlikeWithin layers copy value := by
  obtain ⟨copy, after, ran, grows, alike⟩ := clone_plain built
  refine ⟨copy, after, ?_, grows, alike⟩
  have different : store.kindOf value ≠ .window :=
    fun same => Store.Plain.kindOf_notMem ⟨layers, built⟩ (same ▸ .head _)
  rw [standard.toOwned_eq, if_neg different]
  exact ran

/-- What can be flattened borrows through to something whose owned form it is: texts to themselves, and
bytes to a window. -/
theorem target?_flattened (standard : store.Standard) (meets : store.Meets .flatten value) :
    (∃ letters, value = .text letters ∧ store.target? value = some (.identity, none)) ∨
      ∃ content, store.buffer? value = some content ∧ store.target? value = some (.window, none) ∧
        (value = .bytes content ∨ store.object? value = some (.bytearray content)) := by
  rcases meets with ⟨letters, rfl⟩ | ⟨content, rfl⟩ | ⟨content, held⟩
  · refine .inl ⟨letters, rfl, ?_⟩
    rw [Store.target?, standard.targets]
    rfl
  · refine .inr ⟨content, rfl, ?_, .inl rfl⟩
    rw [Store.target?, standard.targets]
    rfl
  · refine .inr ⟨content, ?_, ?_, .inr held⟩
    · cases value with
      | object place => simp [Store.buffer?, held]
      | _ => cases held
    · rw [Store.target?, standard.targets, Store.kindOf_of_object? held]
      rfl

theorem requireFlattenable_apply (standard : store.Standard) (meets : store.Meets .flatten value) :
    requireFlattenable value store = .ok () store := by
  have yes : isFlattenable value store = .ok true store := by
    rcases target?_flattened standard meets with ⟨_, _, target⟩ | ⟨_, _, target, _⟩ <;>
    · rw [isFlattenable, get_bind, target]
      rfl
  rw [requireFlattenable, bind_of_ok yes]
  rfl

/-- It is the owned form of that already. -/
theorem intoTarget_flattened (standard : store.Standard) (meets : store.Meets .flatten value) (call : Call) :
    intoTarget call value store = .ok value store := by
  rcases target?_flattened standard meets with ⟨_, _, target⟩ | ⟨_, _, target, _⟩ <;>
  · rw [intoTarget, get_bind, target]
    rfl

/-- A text borrows through to itself, and bytes to a new window. -/
theorem deref_flattened (standard : store.Standard) (meets : store.Meets .flatten value) :
    (∀ now call, store.Grows now → deref call value now = .ok value now) ∨
      ∃ content, (value = .bytes content ∨ store.object? value = some (.bytearray content)) ∧
        ∀ now call, store.Grows now →
          deref call value now = .ok now.next (now.put (.window value 0 content.length)) := by
  rcases target?_flattened standard meets with ⟨letters, rfl, -⟩ | ⟨content, -, -, bytes⟩
  · refine .inl fun now call grows => ?_
    obtain ⟨-, -, target⟩ | ⟨_, _, _, other | other⟩ :=
      target?_flattened (standard.grows grows) (meets.grows grows)
    · rw [deref, get_bind, target]
      rfl
    · cases other
    · cases other
  · refine .inr ⟨content, bytes, fun now call grows => ?_⟩
    obtain ⟨_, rfl, -⟩ | ⟨content', buffer, target, -⟩ :=
      target?_flattened (standard.grows grows) (meets.grows grows)
    · rcases bytes with other | other <;> cases other
    · rw [deref, get_bind, target]
      show createWindow value _ = _
      rw [createWindow, get_bind]
      rcases bytes with rfl | held
      · rfl
      · have held' := grows.object? held
        have same : content' = content := by
          cases value with
          | object place => simpa [Store.buffer?, held'] using buffer.symm
          | _ => cases held'
        simp only [held', buffer, same]
        rfl

theorem buffer?_window {window : Value} {content : List UInt8}
    (shown : store.object? window = some (.window value 0 content.length))
    (bytes : value = .bytes content ∨ store.object? value = some (.bytearray content)) :
    store.buffer? window = some content := by
  rcases bytes with rfl | held
  · simp [Store.buffer?, shown]
  · cases value with
    | object place => simp [Store.buffer?, shown, held]
    | _ => cases held

/-! ### Fields that come back -/

section

variable {scope? : Option Value} {pointer : Value}

/-- What a pointer is made of comes back, or a clone of it. -/
theorem Store.restores_pointing (standard : store.Standard)
    (held : store.object? pointer = some (.pointing scope? value)) (open_ : store.IsOpen scope?)
    (built : store.BuiltWithin layers value) : store.Restores layers .regular value pointer := by
  intro after steps grows enough
  obtain ⟨steps, rfl⟩ : ∃ less, steps = less + 1 := ⟨steps - 1, by omega⟩
  show ∃ back later, ask (callWithin (steps + 1)) pointer "into_owned" after = _ ∧ _
  rw [ask_pointing (grows.object? held)]
  cases scope? with
  | none => exact ⟨value, after, rfl, .refl after, (built.grows grows).alike⟩
  | some scope =>
    obtain ⟨name, isStatic, open_⟩ := open_ scope rfl
    obtain ⟨copy, later, ran, grows', alike⟩ := toOwned_plain (standard.grows grows) (built.grows grows)
    exact ⟨copy, later, (bind_of_ok (checkScope_open (grows.object? open_))).trans ran, grows', alike⟩

theorem Store.Restores.boxed {content inner output : Value}
    (restores : store.Restores layers .regular inner output)
    (held : store.object? content = some (.box inner)) :
    store.Restores (layers + 1) .unbox content output := by
  intro after steps grows enough
  obtain ⟨back, later, ran, grows', alike⟩ := restores after steps grows (by omega)
  have new := Store.Grows.put later (.box back)
  refine ⟨later.next, later.put (.box back), ?_, grows'.trans new, ?_⟩
  · show (ask (callWithin steps) output "into_owned" >>= fun back => create (.box back)) after = _
    rw [bind_of_ok (show ask (callWithin steps) output "into_owned" after = .ok back later from ran)]
    rfl
  · exact .box (later.object?_put _) ((grows.trans (grows'.trans new)).object? held) (alike.grows new)

/-- What a pointer to a window of bytes is made of comes back as new bytes of the same kind. -/
theorem restores_window {window scope : Value} {content : List UInt8} (standard : store.Standard)
    (held : store.object? pointer = some (.pointing (some scope) window)) (open_ : store.IsOpen (some scope))
    (shown : store.object? window = some (.window value 0 content.length))
    (bytes : value = .bytes content ∨ store.object? value = some (.bytearray content))
    (built : store.BuiltWithin layers value) : store.Restores layers .flatten value pointer := by
  intro after steps grows enough
  obtain ⟨steps, rfl⟩ : ∃ less, steps = less + 1 := ⟨steps - 1, by omega⟩
  have shown' := grows.object? shown
  have own : toOwned window after = ownedFromWindow window after := by
    have kind : after.kindOf window = .window := Store.kindOf_of_object? shown'
    rw [(standard.grows grows).toOwned_eq, if_pos kind]
  have buffer : after.buffer? window = some content := buffer?_window shown' (bytes.imp_right grows.object?)
  obtain ⟨name, isStatic, open_⟩ := open_ scope rfl
  have given : ask (callWithin (steps + 1)) pointer "into_owned" after = ownedFromWindow window after :=
    (ask_borrowed (grows.object? held) (grows.object? open_) steps).trans own
  rw [ownedFromWindow, get_bind, shown', buffer] at given
  have least : ∃ less, layers = less + 1 := by
    cases layers with
    | zero => exact built.elim
    | succ layers => exact ⟨layers, rfl⟩
  obtain ⟨layers, rfl⟩ := least
  rcases bytes with rfl | held'
  · exact ⟨.bytes content, after, given, .refl after, .simple rfl⟩
  · have held'' := grows.object? held'
    have new := Store.Grows.put after (.bytearray content)
    refine ⟨after.next, after.put (.bytearray content), ?_, new,
      .bytearray (after.object?_put _) (new.object? held'')⟩
    refine given.trans ?_
    simp only [Store.kindOf_of_object? held'', Object.kind]
    rfl

/-- Every field that is not nested can be taken in, and comes back. -/
theorem takeIn_restores {strategy : Strategy} (standard : store.Standard) (open_ : store.IsOpen scope?)
    (built : store.BuiltWithin layers value) (meets : store.Meets strategy value)
    (flat : strategy ≠ .nested) (steps : Nat) :
    ∃ output after, takeIn (callWithin (steps + 1)) scope? strategy value store = .ok output after ∧
      store.Grows after ∧ after.Restores layers strategy value output := by
  have pointing {now : Store} (grows : store.Grows now) : (now.put (.pointing scope? value)).Restores layers
      .regular value now.next :=
    have all := grows.trans (.put now (.pointing scope? value))
    Store.restores_pointing (standard.grows all) (now.object?_put _) (open_.grows all) (built.grows all)
  cases strategy with
  | regular =>
    exact ⟨_, _, takeIn_regular _ value open_, .put store _, pointing (.refl store)⟩
  | copy =>
    cases scope? with
    | none =>
      exact ⟨value, store, rfl, .refl store, fun after _ grows _ =>
        ⟨value, after, rfl, .refl after, (built.grows grows).alike⟩⟩
    | some scope =>
      obtain ⟨copy, after, ran, grows, alike⟩ := clone_plain built
      exact ⟨copy, after, ran, grows, fun later _ grows' _ => ⟨copy, later, rfl, .refl later, alike.grows grows'⟩⟩
  | flatten =>
    have flattenable := requireFlattenable_apply standard meets
    have new := Store.Grows.put store (.pointing scope? value)
    cases scope? with
    | none =>
      have whole (now : Store) (grows : store.Grows now) :=
        intoTarget_flattened (standard.grows grows) (meets.grows grows) (callWithin (steps + 1))
      exact ⟨_, _, takeIn_flatten_owned flattenable whole, new.trans (.put _ _), pointing new⟩
    | some scope =>
      rcases deref_flattened standard meets with same | ⟨content, bytes, window⟩
      · exact ⟨_, _, takeIn_flatten_borrowed open_ flattenable (same _ _ new) (.refl _), new.trans (.put _ _),
          pointing new⟩
      · have new' := new.trans (.put _ (.window value 0 content.length))
        have all := new'.trans (.put _ (.borrowed (store.put (.borrowed value scope)).next scope))
        refine ⟨_, _, takeIn_flatten_borrowed open_ flattenable (window _ _ new) (.put _ _), all, ?_⟩
        exact restores_window (standard.grows all) (Store.object?_put _ _) (open_.grows all)
          ((Store.Grows.put _ _).object? (Store.object?_put _ _)) (bytes.imp_right all.object?) (built.grows all)
  | unbox =>
    obtain ⟨inner, held⟩ := meets
    cases layers with
    | zero => exact built.elim
    | succ layers =>
      have inside := Store.Built.parts built held inner List.mem_cons_self
      have new := Store.Grows.put store (.pointing scope? inner)
      refine ⟨_, _, takeIn_unbox _ held open_, new, ?_⟩
      exact (Store.restores_pointing (standard.grows new) (store.object?_put _) (open_.grows new)
        (inside.grows new)).boxed (new.object? held)
  | nested => exact absurd rfl flat

end

end

end CowView.Live
