import Mathlib.Algebra.GroupWithZero.Nat
import CowView.Proofs.Fields
import CowView.Proofs.Recloning

/-!
How many clones a run counts. Clones and owned forms count as many in every later store as in the one where they
can be made, and a list of runs counts what its items count together.
-/

namespace CowView.Live

def clonesOf {α : Type} (run : Run α) (store : Store) : Nat :=
  match run store with
  | .ok _ after | .error _ after => after.clones - store.clones

def Succeeds {α : Type} (run : Run α) (store : Store) : Prop := ∃ result after, run store = .ok result after

instance {α : Type} (run : Run α) (store : Store) : Decidable (Succeeds run store) :=
  match shown : run store with
  | .ok result after => .isTrue ⟨result, after, shown⟩
  | .error _ _ => .isFalse fun ⟨_, _, ran⟩ => nomatch shown.symm.trans ran

def Costs {α : Type} (run : Run α) (store : Store) (count : Nat) : Prop :=
  ∃ result after, run store = .ok result after ∧ store.Grows after ∧ after.clones = store.clones + count

/-- In all later stores, the run gives a result and counts as many clones as now. -/
def Steady {α : Type} (run : Run α) (store : Store) : Prop :=
  ∀ later, store.Grows later → Costs run later (clonesOf run store)

section

variable {α β : Type} {run : Run α} {store later : Store}

theorem Costs.clonesOf_eq {count : Nat} (costs : Costs run store count) : clonesOf run store = count := by
  obtain ⟨result, after, ran, -, counts⟩ := costs
  simp only [clonesOf, ran, counts]
  omega

theorem Steady.clonesOf_eq (steady : Steady run store) (grows : store.Grows later) :
    clonesOf run later = clonesOf run store := (steady later grows).clonesOf_eq

theorem Steady.grows (steady : Steady run store) (grows : store.Grows later) : Steady run later := by
  intro last more
  rw [steady.clonesOf_eq grows]
  exact steady last (grows.trans more)

theorem Steady.congr {run' : Run α} (steady : Steady run store)
    (same : ∀ later, store.Grows later → run' later = run later) : Steady run' store := by
  have now : clonesOf run' store = clonesOf run store := by
    unfold clonesOf
    rw [same store (.refl store)]
  intro later grows
  rw [now, Costs, same later grows]
  exact steady later grows

end

/-! ### Owned forms -/

section

variable {store later : Store} {value : Value}

theorem steady_clone (succeeds : Succeeds (clone value) store) : Steady (clone value) store := by
  obtain ⟨copy, after, ran⟩ := succeeds
  intro later grows
  obtain ⟨copy', after', ran', more, counts⟩ := clone_again ran grows
  refine ⟨copy', after', ran', (clone_grows value later).result ran', ?_⟩
  simp only [clonesOf, ran]
  omega

/-- A value that can be cloned refers to an object, if to anything. -/
theorem object?_of_clone {address : Address} (succeeds : Succeeds (clone (.object address)) store) :
    ∃ object, store.object? (.object address) = some object := by
  obtain ⟨copy, after, ran⟩ := succeeds
  cases held : store.object? (.object address) with
  | some object => exact ⟨object, rfl⟩
  | none =>
    have fails : clone (.object address) store = .error (.misuse .noMember) store := by
      rw [clone_apply]
      have start : 2 * (store.objects.size + 8) = 2 * (store.objects.size + 7) + 1 + 1 := by omega
      rw [start]
      have failing : Copying.value store (2 * (store.objects.size + 7) + 1 + 1) (.object address) [] store =
          .error (.misuse .noMember) store := by
        rw [Copying.value]
        simp only [held]
        rfl
      show EStateM.bind _ _ store = _
      rw [EStateM.bind, failing]
    rw [fails] at ran
    cases ran

/-- The bytes that a value shows on its own stay the same while objects are added. -/
theorem Store.buffer?_grows {content : List UInt8} (shown : store.buffer? value = some content)
    (grows : store.Grows later) : later.buffer? value = some content := by
  have held {object : Object} : store.object? value = some object → later.object? value = some object :=
    grows.object?
  unfold Store.buffer? at shown ⊢
  cases found : store.object? value with
  | none =>
    rw [found] at shown
    cases value with
    | bytes content => exact shown
    | object address => simp [found] at shown
    | _ => simp [Store.object?] at shown
  | some object =>
    rw [held found]
    rw [found] at shown
    cases value with
    | object address =>
      cases object with
      | window base start length =>
        dsimp only at shown ⊢
        obtain ⟨whole, direct, rfl⟩ := Option.map_eq_some_iff.mp shown
        refine Option.map_eq_some_iff.mpr ⟨whole, ?_, rfl⟩
        cases base with
        | bytes content => exact direct
        | object base =>
          dsimp only at direct ⊢
          cases found' : store.object? (.object base) with
          | none => simp [found'] at direct
          | some other =>
            rw [grows.object? found']
            rwa [found'] at direct
        | _ => exact direct
      | _ =>
        dsimp only at shown ⊢
        rw [held found]
        rwa [found] at shown
    | _ => cases found

/-- The owned form of a window is made of the bytes that it shows, without a clone. -/
theorem costs_ownedFromWindow {base : Value} {start length : Nat} {content : List UInt8}
    (held : store.object? value = some (.window base start length)) (shown : store.buffer? value = some content) :
    Costs (ownedFromWindow value) store 0 := by
  unfold Costs
  rw [ownedFromWindow, get_bind, held, shown]
  dsimp only
  split
  · exact ⟨store.next, store.put (.bytearray content), rfl, .put store _, rfl⟩
  · exact ⟨.bytes content, store, rfl, .refl store, rfl⟩

theorem steady_ownedFromWindow (succeeds : Succeeds (ownedFromWindow value) store) :
    Steady (ownedFromWindow value) store := by
  obtain ⟨result, after, ran⟩ := succeeds
  rw [ownedFromWindow, get_bind] at ran
  obtain ⟨base, start, length, content, held, shown⟩ : ∃ base start length content,
      store.object? value = some (.window base start length) ∧ store.buffer? value = some content := by
    cases held : store.object? value with
    | none => simp only [held] at ran; cases ran
    | some object =>
      cases shown : store.buffer? value with
      | none => cases object <;> (simp only [held, shown] at ran; cases ran)
      | some content =>
        cases object with
        | window base start length => exact ⟨base, start, length, content, rfl, rfl⟩
        | _ => simp only [held, shown] at ran; cases ran
  intro later grows
  rw [(costs_ownedFromWindow held shown).clonesOf_eq]
  exact costs_ownedFromWindow (grows.object? held) (Store.buffer?_grows shown grows)

theorem steady_toOwned (standard : store.Standard) (succeeds : Succeeds (toOwned value) store) :
    Steady (toOwned value) store := by
  by_cases window : store.kindOf value = .window
  · have present : ∃ object, store.object? value = some object := by
      cases value with
      | object address =>
        cases held : store.objects[address]? with
        | some object => exact ⟨object, held⟩
        | none => simp [Store.kindOf, held] at window
      | bound receiver method => cases method <;> cases window
      | _ => cases window
    obtain ⟨object, held⟩ := present
    rw [Succeeds, standard.toOwned_eq, if_pos window] at succeeds
    refine (steady_ownedFromWindow succeeds).congr fun later grows => ?_
    rw [(standard.grows grows).toOwned_eq, grows.kindOf held, if_pos window]
  · rw [Succeeds, standard.toOwned_eq, if_neg window] at succeeds
    refine (steady_clone succeeds).congr fun later grows => ?_
    have same : later.kindOf value = store.kindOf value := by
      cases value with
      | object address =>
        obtain ⟨object, held⟩ := object?_of_clone succeeds
        exact grows.kindOf held
      | _ => rfl
    rw [(standard.grows grows).toOwned_eq, same, if_neg window]

end

end CowView.Live
