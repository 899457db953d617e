import CowView.Proofs.Suits
import CowView.Proofs.ViewRoundTrip

/-!
Flattening a value and taking ownership back. A value that can be flattened is its own owned form, so what is owned
comes back as it was. What is lent comes back just if the value that it borrows through to has an owned form like it
(`flatten_comes_back`): texts and bytes do, but nobody asks this of an object with a method to borrow through by.
-/

namespace CowView.Live

variable {store later : Store} {value scope : Value} {name : String} {kind : Kind}

/-! ### What values borrow through by -/

def IsBorrowing (name : String) : Prop := name = "deref" ∨ name = "into_target"

/-- Reading the member takes nothing but the kind or the value it is read from. -/
inductive Member.IsSteady : Member → Prop
  | constant (value : Value) : IsSteady (.constant value)
  | method (method : Method) : IsSteady (.method method)

theorem fixedMember?_steady (borrowing : IsBorrowing name) {found : Member}
    (known : fixedMember? kind name = some found) : found.IsSteady := by
  unfold fixedMember? at known
  split at known
  all_goals first
    | (rcases borrowing with same | same <;> exact absurd same (by decide))
    | (cases known <;> constructor)
    | (unfold cowMember? at known
       split at known
       all_goals first | (rcases borrowing with same | same <;> exact absurd same (by decide)) | cases known)

theorem declaredMember?_borrowing (borrowing : IsBorrowing name) (loaded : Loaded) (source : Kind) (side : Side) :
    declaredMember? loaded source side name = none := by
  rcases borrowing with rfl | rfl <;> cases side <;> rfl

theorem Store.kindMember?_steady (borrowing : IsBorrowing name) {found : Member}
    (known : store.kindMember? kind name = some found) : found.IsSteady := by
  obtain ⟨ancestor, -, known⟩ := List.exists_of_findSome?_eq_some known
  unfold ownMember? at known
  split at known
  · obtain ⟨loaded, -, known⟩ := Option.bind_eq_some_iff.mp known
    rw [declaredMember?_borrowing borrowing] at known
    cases known
  · obtain ⟨loaded, -, known⟩ := Option.bind_eq_some_iff.mp known
    split at known
    · cases known
      exact .constant _
    · rw [declaredMember?_borrowing borrowing, if_neg (by rcases borrowing with rfl | rfl <;> decide)] at known
      cases known
  · rw [if_neg (by rcases borrowing with rfl | rfl <;> decide)] at known
    cases known
  · exact fixedMember?_steady borrowing known

theorem Store.kindMember?_units (same : later.units = store.units) (kind : Kind) (name : String) :
    later.kindMember? kind name = store.kindMember? kind name := by
  have own : later.ownMember? = store.ownMember? := by
    funext kind name
    unfold ownMember?
    rw [same]
  rw [kindMember?, kindMember?, own]

def Store.Has (store : Store) (value : Value) : Prop :=
  ∀ address, value = .object address → ∃ object, store.object? value = some object

def readMember (value : Value) (kind : Kind) (name : String) : Option Member → Option Value → Run (Option Value)
  | some (.property property), _ => return some (← property.read value)
  | _, some own => return some own
  | some member, none => return some (← member.onValue value kind)
  | none, none => return if name = "__class__" then some (.kind kind) else none

theorem member?_apply (store : Store) (name : String) (other : ∀ kind, value ≠ .kind kind) :
    member? value name store = readMember value (store.kindOf value) name
      (store.kindMember? (store.kindOf value) name) ((store.object? value).bind (·.attribute? name)) store := by
  cases value with
  | kind kind => exact absurd rfl (other kind)
  | _ => rfl

theorem readMember_steady {found : Option Member} (steady : ∀ member ∈ found, member.IsSteady) (value : Value)
    (kind : Kind) (name : String) (own : Option Value) :
    ∃ result, ∀ now, readMember value kind name found own now = .ok result now := by
  cases found with
  | none => cases own <;> exact ⟨_, fun now => rfl⟩
  | some member => cases steady member rfl <;> cases own <;> exact ⟨_, fun now => rfl⟩

namespace Store.Has

theorem kindOf (has : store.Has value) (evolves : store.Evolves later) : later.kindOf value = store.kindOf value := by
  cases value with
  | object address =>
    obtain ⟨object, held⟩ := has address rfl
    exact evolves.kindOf held
  | _ => rfl

theorem object? (has : store.Has value) (grows : store.Grows later) : later.object? value = store.object? value := by
  cases value with
  | object address =>
    obtain ⟨object, held⟩ := has address rfl
    rw [held, grows.object? held]
  | _ => rfl

theorem target? (has : store.Has value) (grows : store.Grows later) : later.target? value = store.target? value := by
  rw [Store.target?, Store.target?, has.kindOf (.of_grows grows), grows.targets]

/-- A method to borrow through by is found, or found missing, in all later stores alike. -/
theorem member? (has : store.Has value) (borrowing : IsBorrowing name) : ∃ found, ∀ now, store.Grows now →
    Live.member? value name now = .ok found now := by
  have same {now : Store} (grows : store.Grows now) (kind : Kind) :
      now.kindMember? kind name = store.kindMember? kind name := Store.kindMember?_units grows.units kind name
  by_cases isKind : ∃ kind, value = .kind kind
  · obtain ⟨kind, rfl⟩ := isKind
    cases known : store.kindMember? kind name with
    | none =>
      refine ⟨none, fun now grows => ?_⟩
      rw [Live.member?, get_bind]
      simp only [same grows, known]
      rcases borrowing with rfl | rfl <;> rfl
    | some found =>
      cases Store.kindMember?_steady borrowing known with
      | constant own => exact ⟨_, fun now grows => member?_onKind ((same grows kind).trans known) rfl⟩
      | method method => exact ⟨_, fun now grows => member?_onKind ((same grows kind).trans known) rfl⟩
  · obtain ⟨found, read⟩ := readMember_steady (fun _ known => Store.kindMember?_steady borrowing known) value
      (store.kindOf value) name ((store.object? value).bind (·.attribute? name))
    refine ⟨found, fun now grows => ?_⟩
    rw [member?_apply now name (not_exists.mp isKind), has.kindOf (.of_grows grows), same grows, has.object? grows]
    exact read now

theorem callable? (has : store.Has value) (borrowing : IsBorrowing name) : ∃ found, ∀ now, store.Grows now →
    Live.callable? value name now = .ok found now := by
  obtain ⟨found, read⟩ := has.member? borrowing
  refine ⟨found.filter (·.isCallable), fun now grows => ?_⟩
  rw [Live.callable?, bind_of_ok (read now grows)]
  rfl

/-- Whether a value can be flattened is answered without a trace in the store. -/
theorem isFlattenable (has : store.Has value) : ∃ answer, Live.isFlattenable value store = .ok answer store := by
  cases target : store.target? value with
  | some registered =>
    refine ⟨registered.2.isNone, ?_⟩
    rw [Live.isFlattenable, get_bind, target]
    rfl
  | none =>
    obtain ⟨deref, read⟩ := has.callable? (.inl rfl)
    obtain ⟨into, read'⟩ := has.callable? (.inr rfl)
    refine ⟨deref.isSome && into.isNone, ?_⟩
    rw [Live.isFlattenable, get_bind, target]
    dsimp only
    rw [bind_of_ok (read store (.refl store)), bind_of_ok (read' store (.refl store))]
    rfl

/-- The owned form of what a value that can be flattened borrows through to is the value, then and later. -/
theorem intoTarget (has : store.Has value) (flattenable : Live.isFlattenable value store = .ok true store)
    (call : Call) (grows : store.Grows later) : Live.intoTarget call value later = .ok value later := by
  rw [Live.isFlattenable, get_bind] at flattenable
  rw [Live.intoTarget, get_bind, has.target? grows]
  cases target : store.target? value with
  | some registered =>
    obtain ⟨conversion, into?⟩ := registered
    rw [target] at flattenable
    cases into? with
    | none => rfl
    | some conversion => cases flattenable
  | none =>
    obtain ⟨deref, read⟩ := has.callable? (.inl rfl)
    obtain ⟨into, read'⟩ := has.callable? (.inr rfl)
    rw [target] at flattenable
    dsimp only at flattenable ⊢
    rw [bind_of_ok (read store (.refl store)), bind_of_ok (read' store (.refl store))] at flattenable
    rw [bind_of_ok (read' later grows)]
    cases into with
    | some method => cases deref <;> cases flattenable
    | none =>
      dsimp only
      rw [bind_of_ok (read later grows)]
      cases deref with
      | none => cases flattenable
      | some method => rfl

end Store.Has

/-! ### The functions of the strategy -/

def Store.inner (store : Store) : Call := callWithin (2 * (store.objects.size + 7) + 1)

def flatten (passage : Passage) (arguments : List Value) : Run Value :=
  call (.function (.strategy (some .flatten) passage)) ⟨arguments, []⟩

/-- Flattens an owned value and takes ownership of what is made. -/
def flattenOwned (value : Value) : Run Value := do
  flatten .toOwned [← flatten .fromOwned [value]]

/-- Flattens a value that is lent in a scope and takes ownership of what is made. -/
def flattenLent (value scope : Value) : Run Value := do
  flatten .toOwned [← flatten .fromBorrowed [value, scope]]

theorem flatten_fromOwned (value : Value) (store : Store) :
    flatten .fromOwned [value] store = viewOwned store.inner .flatten value store := rfl

theorem flatten_fromBorrowed (value scope : Value) (store : Store) :
    flatten .fromBorrowed [value, scope] store = viewBorrowed store.inner .flatten value scope store := rfl

theorem flatten_toOwned (pointer : Value) (store : Store) :
    flatten .toOwned [pointer] store = ask store.inner pointer "into_owned" store := rfl

theorem requireFlattenable_of_flattenable (flattenable : isFlattenable value store = .ok true store) :
    requireFlattenable value store = .ok () store := by
  rw [requireFlattenable, bind_of_ok flattenable]
  rfl

theorem flattenOwned_apply (has : store.Has value) (flattenable : isFlattenable value store = .ok true store) :
    ∃ later, flattenOwned value store = .ok value later ∧ store.Grows later := by
  have whole (now : Store) (grows : store.Grows now) := has.intoTarget flattenable store.inner grows
  have made := takeIn_flatten_owned (requireFlattenable_of_flattenable flattenable) whole
  refine ⟨_, ?_, .trans (.put store (.owned value)) (.put _ (.owned value))⟩
  rw [flattenOwned, bind_of_ok ((flatten_fromOwned value store).trans made), flatten_toOwned]
  exact ask_owned (Store.object?_put _ _) _

/-! ### What is lent -/

section

variable {title : String} {isStatic : Bool} {target : Value} {after : Store}

/-- A pointer to the lent value is made first, and in its place one to what the value borrows through to. -/
theorem flatten_fromBorrowed_apply (opened : store.object? scope = some (.scope title true isStatic))
    (flattenable : isFlattenable value store = .ok true store) :
    flatten .fromBorrowed [value, scope] store =
      (deref store.inner value >>= fun target => member store.next "scope" >>= fun scope => createBorrowed target scope)
        (store.put (.borrowed value scope)) := by
  have lent : (store.put (.borrowed value scope)).object? store.next = some (.borrowed value scope) :=
    store.object?_put _
  rw [flatten_fromBorrowed]
  show (requireFlattenable value >>= fun _ => createBorrowed value scope >>= fun pointer =>
    asDeref store.inner pointer) store = _
  rw [bind_of_ok (requireFlattenable_of_flattenable flattenable), bind_of_ok (createBorrowed_apply opened), asDeref,
    bind_of_ok (isOwned_borrowed lent)]
  show (member store.next "referent" >>= fun referent => deref store.inner referent >>= fun target =>
    member store.next "scope" >>= fun scope => createBorrowed target scope) _ = _
  rw [bind_of_ok (member_referent lent ((Store.Grows.put store _).object? opened))]

/-- Borrowing through leaves the scope one, if perhaps a closed one. -/
theorem scope_of_deref (opened : store.object? scope = some (.scope title true isStatic))
    (ran : deref store.inner value (store.put (.borrowed value scope)) = .ok target after) :
    ∃ isOpen, after.object? scope = some (.scope title isOpen isStatic) := by
  have evolves := (Evolving.deref (Evolving.callWithin _) value).result ran
  obtain ⟨other, held, becomes⟩ := evolves.object? ((Store.Grows.put store _).object? opened)
  cases becomes with
  | same => exact ⟨true, held⟩
  | closed => exact ⟨false, held⟩

theorem flatten_fromBorrowed_of_deref (opened : store.object? scope = some (.scope title true isStatic))
    (flattenable : isFlattenable value store = .ok true store)
    (ran : deref store.inner value (store.put (.borrowed value scope)) = .ok target after) :
    flatten .fromBorrowed [value, scope] store = .ok after.next (after.put (.borrowed target scope)) := by
  have evolves := (Evolving.deref (Evolving.callWithin _) value).result ran
  obtain ⟨pointer, held, becomes⟩ := evolves.object? (store.object?_put (.borrowed value scope))
  obtain ⟨isOpen, held'⟩ := scope_of_deref opened ran
  cases becomes
  rw [flatten_fromBorrowed_apply opened flattenable, bind_of_ok ran, bind_of_ok (member_scope held)]
  exact createBorrowed_apply held'

theorem isOpen_of_checkScope (checked : checkScope scope store = .ok () later) :
    later = store ∧ store.IsOpen (some scope) := by
  rw [checkScope, bind_of_ok (object?_apply scope store)] at checked
  cases held : store.object? scope with
  | none =>
    rw [held] at checked
    cases checked
  | some object =>
    rw [held] at checked
    cases object with
    | scope name isOpen isStatic =>
      cases isOpen
      · cases checked
      · cases checked
        exact ⟨rfl, fun _ same => Option.some.inj same ▸ ⟨name, isStatic, held⟩⟩
    | _ => cases checked

theorem flattenLent_eq_ok_iff (open_ : store.IsOpen (some scope))
    (flattenable : isFlattenable value store = .ok true store) {back : Value} :
    flattenLent value scope store = .ok back later ↔ ∃ target after,
      deref store.inner value (store.put (.borrowed value scope)) = .ok target after ∧ after.IsOpen (some scope) ∧
        toOwned target (after.put (.borrowed target scope)) = .ok back later := by
  obtain ⟨title, isStatic, opened⟩ := open_ scope rfl
  constructor
  · intro ran
    obtain ⟨pointer, between, lent, ran⟩ := bind_eq_ok ran
    obtain ⟨target, after, through, -⟩ := bind_eq_ok ((flatten_fromBorrowed_apply opened flattenable).symm.trans lent)
    cases lent.symm.trans (flatten_fromBorrowed_of_deref opened flattenable through)
    rw [flatten_toOwned, Store.inner, ask_lent (after.object?_put _)] at ran
    obtain ⟨⟨⟩, now, checked, ran⟩ := bind_eq_ok ran
    obtain ⟨rfl, stays⟩ := isOpen_of_checkScope checked
    refine ⟨target, after, through, fun _ same => ?_, ran⟩
    cases same
    obtain ⟨isOpen, held⟩ := scope_of_deref opened through
    obtain ⟨name, isStatic', held'⟩ := stays scope rfl
    rw [(Store.Grows.put after _).object? held] at held'
    cases held'
    exact ⟨_, _, held⟩
  · rintro ⟨target, after, through, stays, ran⟩
    obtain ⟨name, isStatic', held⟩ := stays scope rfl
    rw [flattenLent, bind_of_ok (flatten_fromBorrowed_of_deref opened flattenable through), flatten_toOwned,
      Store.inner, ask_lent (after.object?_put _),
      bind_of_ok (checkScope_open ((Store.Grows.put after _).object? held))]
    exact ran

end

/-! ### What comes back -/

/-- What the value borrows through to while it is lent has an owned form like the value. -/
def Store.LendsItself (store : Store) (value scope : Value) : Prop := ∃ target after,
  deref store.inner value (store.put (.borrowed value scope)) = .ok target after ∧ after.IsOpen (some scope) ∧
    ComesBack (toOwned target) value (after.put (.borrowed target scope))

section

variable {copy target : Value}

theorem comesBack_lent_iff (has : store.Has value) (open_ : store.IsOpen (some scope))
    (flattenable : isFlattenable value store = .ok true store) :
    ComesBack (flattenLent value scope) value store ↔ store.LendsItself value scope := by
  have same {target : Value} {after : Store}
      (through : deref store.inner value (store.put (.borrowed value scope)) = .ok target after) :
      (after.put (.borrowed target scope)).kindOf value = store.kindOf value := by
    have evolves := (Evolving.deref (Evolving.callWithin _) value).result through
    exact has.kindOf ((Store.Evolves.of_grows (.put store _)).trans (evolves.trans (.of_grows (.put after _))))
  constructor
  · rintro ⟨back, later, ran, kind, equal⟩
    obtain ⟨target, after, through, stays, owned⟩ := (flattenLent_eq_ok_iff open_ flattenable).mp ran
    exact ⟨target, after, through, stays, back, later, owned, kind.trans (same through).symm, equal⟩
  · rintro ⟨target, after, through, stays, back, later, owned, kind, equal⟩
    have ran := (flattenLent_eq_ok_iff open_ flattenable).mpr ⟨target, after, through, stays, owned⟩
    exact ⟨back, later, ran, kind.trans (same through), equal⟩

/-- Copies of what can be flattened need no units to be equal. -/
theorem equal_flattened (meets : store.Meets .flatten value) (alike : store.AlikeWithin 1 copy value) :
    equal copy value store = .ok true store := by
  have plain : equalWithin (store.objects.size + 7 + 1) copy value store = .ok (store.plainEqual copy value) store ∧
      store.plainEqual copy value = true := by
    cases alike with
    | simple simple =>
      refine ⟨?_, Store.plainEqual_self simple⟩
      rw [equalWithin, get_bind, Store.object?_simple simple]
      rfl
    | bytearray held held' =>
      refine ⟨?_, plainEqual_bytearray held held'⟩
      rw [equalWithin, get_bind, held, held']
      rfl
    | list _ held | tuple _ held | dict _ held | box _ held | entity _ _ held =>
      rcases meets with ⟨letters, rfl⟩ | ⟨content, rfl⟩ | ⟨content, held'⟩
      · cases held
      · cases held
      · cases held.symm.trans held'
  exact plain.2 ▸ plain.1

theorem Store.Meets.built (meets : store.Meets .flatten value) : store.BuiltWithin 1 value := by
  rcases meets with ⟨letters, rfl⟩ | ⟨content, rfl⟩ | ⟨content, held⟩
  · exact .simple rfl
  · exact .simple rfl
  · exact .bytearray held

/-- Texts and bytes come back. -/
theorem comesBack_flattened (standard : store.Standard) (open_ : store.IsOpen (some scope))
    (meets : store.Meets .flatten value) : ComesBack (flattenLent value scope) value store := by
  obtain ⟨pointer, after, made, grows, restores⟩ :=
    takeIn_restores standard open_ meets.built meets nofun (2 * (store.objects.size + 7))
  obtain ⟨back, later, ran, grows', alike⟩ :=
    restores after (2 * (after.objects.size + 7) + 1) (.refl after) (by omega)
  have whole := grows.trans grows'
  refine ⟨back, later, ?_, ?_, equal_flattened (meets.grows whole) alike⟩
  · rw [flattenLent, bind_of_ok ((flatten_fromBorrowed value scope store).trans made)]
    exact ran
  · have has : store.Has value := by
      rcases meets with ⟨letters, rfl⟩ | ⟨content, rfl⟩ | ⟨content, held⟩
      · nofun
      · nofun
      · exact fun _ _ => ⟨_, held⟩
    exact alike.kindOf.trans (has.kindOf (.of_grows whole))

/-- Of an owned value and of one that is lent, the first always comes back, and as it was. The second comes back just
if what it borrows through to has an owned form like it, as for texts and bytes. -/
theorem flatten_comes_back (has : store.Has value) (open_ : store.IsOpen (some scope))
    (flattenable : isFlattenable value store = .ok true store) :
    (∃ later, flattenOwned value store = .ok value later ∧ store.Grows later) ∧
      (ComesBack (flattenLent value scope) value store ↔ store.LendsItself value scope) ∧
      (store.Standard → store.Meets .flatten value → ComesBack (flattenLent value scope) value store) :=
  ⟨flattenOwned_apply has flattenable, comesBack_lent_iff has open_ flattenable,
    fun standard meets => comesBack_flattened standard open_ meets⟩

def Store.holding (object : Object) : Store := Store.initial.put object

theorem Store.holding_standard (object : Object) : (Store.holding object).Standard := ⟨rfl, rfl⟩

theorem Store.holding_isOpen (object : Object) : (Store.holding object).IsOpen (some (.object staticScope)) :=
  fun _ same => Option.some.inj same ▸ ⟨_, _, rfl⟩

theorem Store.holding_has (object : Object) : (Store.holding object).Has (.object 1) := fun _ _ => ⟨object, rfl⟩

theorem flatten_comes_back_bytearray :
    let store := Store.holding (.bytearray [104, 105])
    (∃ later, flattenOwned (.object 1) store = .ok (.object 1) later ∧ store.Grows later) ∧
      ComesBack (flattenLent (.object 1) (.object staticScope)) (.object 1) store := by
  have meets : (Store.holding (.bytearray [104, 105])).Meets .flatten (.object 1) := .inr (.inr ⟨_, rfl⟩)
  obtain ⟨owned, -, lent⟩ := flatten_comes_back (Store.holding_has (.bytearray [104, 105]))
    (Store.holding_isOpen _) rfl
  exact ⟨owned, lent (Store.holding_standard _) meets⟩

/-! ### What is lost -/

/-- A handle of plain contents does not come back when it is lent: its contents do, in its place. -/
theorem handle_lost (standard : store.Standard) (open_ : store.IsOpen (some scope))
    (handles : kind = .handle ∨ kind = .subHandle)
    (held : store.object? value = some (.entity kind [("value", target)])) (plain : store.Plain target) :
    ¬ ComesBack (flattenLent value scope) value store := by
  intro comes
  have flattenable := isFlattenable_handle standard handles held
  obtain ⟨other, after, through, -, back, later, owned, same, -⟩ :=
    (comesBack_lent_iff (fun _ _ => ⟨_, held⟩) open_ flattenable).mp comes
  have new := Store.Grows.put store (.borrowed value scope)
  cases through.symm.trans (deref_handle (standard.grows new) handles (new.object? held) (callWithin_able _))
  have new' := new.trans (.put _ (.borrowed target scope))
  obtain ⟨layers, built⟩ := plain.grows new'
  obtain ⟨copy, later', ran, grows, alike⟩ := toOwned_plain (standard.grows new') built
  cases owned.symm.trans ran
  apply Store.Plain.kindOf_notMem ⟨layers, built.grows grows⟩
  rw [← alike.kindOf, same, Store.kindOf_of_object? (new'.object? held)]
  rcases handles with rfl | rfl
  · exact .tail _ (.head _)
  · exact .tail _ (.tail _ (.head _))

/-- So not all that can be flattened comes back. -/
theorem handle_of_number_lost : ¬ ∀ (store : Store) (value scope : Value), store.Standard → store.Has value →
    store.IsOpen (some scope) → isFlattenable value store = .ok true store →
      ComesBack (flattenLent value scope) value store := by
  intro all
  have held : (Store.holding (.entity .handle [("value", .int 5)])).object? (.object 1) =
      some (.entity .handle [("value", .int 5)]) := rfl
  have standard := Store.holding_standard (.entity .handle [("value", .int 5)])
  have open_ := Store.holding_isOpen (.entity .handle [("value", .int 5)])
  exact handle_lost standard open_ (.inl rfl) held ⟨1, .simple rfl⟩
    (all _ _ _ standard (Store.holding_has _) open_ (isFlattenable_handle standard (.inl rfl) held))

end

end CowView.Live
