import CowView.Proofs.Evolution
import CowView.Proofs.Fields
import CowView.Proofs.Instances

/-!
Runs in a scope. What is taken in of a value that is lent in an open scope adds objects only, and the pointers among
them are tied to the scope; if it fails, then for another reason than a closed scope (`Ties`).
-/

namespace CowView.Live

def Object.IsTied (scope : Value) (object : Object) : Prop :=
  object.isPointer = true → (∃ referent, object = .borrowed referent scope) ∨
    ∃ elements, object = .cowIter elements scope

def Failure.isExpiry : Failure → Bool
  | expired _ => true
  | _ => false

/-- The run only adds objects, the pointers among them tied to the scope, and fails for other reasons than a closed
scope. -/
def Ties (scope : Value) {α : Type} (run : Run α) (store : Store) (gives : α → Store → Prop) : Prop :=
  Ends run store (fun result after => store.Adds (·.IsTied scope) after ∧ gives result after)
    fun failure after => store.Adds (·.IsTied scope) after ∧ failure.isExpiry = false

section

variable {scope : Value} {α β : Type} {run : Run α} {store : Store}

namespace Ties

variable {gives : α → Store → Prop}

theorem mono {gives' : α → Store → Prop} (ties : Ties scope run store gives)
    (results : ∀ result after, store.Grows after → gives result after → gives' result after) :
    Ties scope run store gives' :=
  Ends.mono ties (fun result after both => ⟨both.1, results result after both.1.grows both.2⟩) fun _ _ => id

theorem of_ok {result : α} {after : Store} (ran : run store = .ok result after)
    (adds : store.Adds (·.IsTied scope) after) (given : gives result after) : Ties scope run store gives := by
  unfold Ties Ends
  rw [ran]
  exact ⟨adds, given⟩

theorem pure {value : α} (given : gives value store) : Ties scope (pure value) store gives := ⟨.refl store, given⟩

theorem misuse (problem : Misuse) : Ties scope (misuse problem : Run α) store gives := ⟨.refl store, rfl⟩

theorem unsatisfied (value : Value) (capability : String) :
    Ties scope (unsatisfied value capability : Run α) store gives := ⟨.refl store, rfl⟩

theorem create {gives : Value → Store → Prop} {object : Object} (own : object.IsTied scope)
    (given : gives store.next (store.put object)) : Ties scope (create object) store gives := ⟨.put store own, given⟩

theorem bind {next : α → Run β} {gives' : β → Store → Prop} (first : Ties scope run store gives)
    (rest : ∀ found between, store.Grows between → gives found between → Ties scope (next found) between gives') :
    Ties scope (run >>= next) store gives' := by
  refine Ends.bind (Ends.mono first (fun found between both => ?_) fun _ _ => id)
  exact Ends.mono (rest found between both.1.grows both.2) (fun _ _ => And.imp_left both.1.trans)
    fun _ _ => And.imp_left both.1.trans

/-- A run whose start only looks at the store. -/
theorem next {next : α → Run β} {gives : β → Store → Prop} {found : α} (first : run store = .ok found store)
    (rest : Ties scope (next found) store gives) : Ties scope (run >>= next) store gives := by
  unfold Ties Ends
  rw [bind_of_ok first]
  exact rest

theorem after {run' : Run α} {between : Store} (same : run store = run' between)
    (adds : store.Adds (·.IsTied scope) between) (ties : Ties scope run' between gives) :
    Ties scope run store gives := by
  have ends := Ends.mono ties (fun _ _ => And.imp_left adds.trans) fun _ _ => And.imp_left adds.trans
  unfold Ends at ends
  unfold Ties Ends
  rw [same]
  exact ends

/-- A list of runs, each of which gives what later ones keep. -/
theorem mapM {step : α → Run β} (related : Store → α → β → Prop) (start : Store)
    (keeps : ∀ {before after : Store} {item : α} {result : β}, before.Grows after → related before item result →
      related after item result) :
    ∀ (items : List α), (∀ item ∈ items, ∀ now, start.Grows now →
      Ties scope (step item) now fun result after => related after item result) → ∀ now, start.Grows now →
        Ties scope (items.mapM step) now fun results after => List.Forall₂ (related after) items results := by
  intro items
  induction items with
  | nil => exact fun _ _ _ => .pure .nil
  | cons first rest ih =>
    intro each now grown
    rw [mapM_cons_apply]
    refine (each first List.mem_cons_self now grown).bind fun head between grows held => ?_
    refine (ih (fun item member => each item (List.mem_cons_of_mem first member)) between
      (grown.trans grows)).bind fun tail after grows' all => ?_
    exact .pure (.cons (keeps grows' held) all)

end Ties

end

/-! ### Members -/

/-- Only what a pointer refers to is looked up by way of a scope. -/
theorem fixedMember?_referent {kind : Kind} {name : String}
    (known : fixedMember? kind name = some (.property .referent)) : name = "referent" := by
  unfold fixedMember? at known
  split at known
  all_goals first | rfl | cases known | (unfold cowMember? at known; split at known <;> cases known)

theorem Store.kindMember?_referent {store : Store} {kind : Kind} {name : String}
    (known : store.kindMember? kind name = some (.property .referent)) : name = "referent" := by
  obtain ⟨ancestor, -, known⟩ := List.exists_of_findSome?_eq_some known
  exact fixedMember?_referent (ownMember?_property known)

section

variable {scope : Value} {store : Store} {value : Value} {name : String}

namespace Ties

theorem onKind (found : Member) (kind : Kind) : Ties scope (found.onKind kind) store fun _ _ => True := by
  cases found with
  | texts shown => exact create nofun trivial
  | _ => exact pure trivial

theorem readProperty {property : Property} (other : property ≠ .referent) :
    Ties scope (property.read value) store fun _ _ => True := by
  refine Ends.ofGet ?_
  split
  · split
    · exact pure trivial
    · exact pure trivial
    · exact misuse _
  · exact pure trivial
  · exact absurd rfl other
  · exact pure trivial
  · exact pure trivial
  · exact pure trivial
  · exact misuse _

theorem onValue {found : Member} {kind : Kind} (other : found ≠ .property .referent) :
    Ties scope (found.onValue value kind) store fun _ _ => True := by
  cases found with
  | method found => exact pure trivial
  | property property => exact readProperty fun same => other (same ▸ rfl)
  | slot => exact misuse _
  | constant shown => exact onKind (.constant shown) kind
  | texts shown => exact onKind (.texts shown) kind
  | kindMethod found => exact onKind (.kindMethod found) kind

theorem member? (other : name ≠ "referent") : Ties scope (Live.member? value name) store fun _ _ => True := by
  have free (kind : Kind) {found : Member} (known : store.kindMember? kind name = some found) :
      found ≠ .property .referent := by
    rintro rfl
    exact other (Store.kindMember?_referent known)
  refine Ends.ofGet ?_
  split
  · split
    · exact (onKind _ _).bind fun _ _ _ _ => pure trivial
    · exact pure trivial
  · dsimp only
    split
    next property known =>
      exact (readProperty fun same => free _ known (congrArg Member.property same)).bind fun _ _ _ _ => pure trivial
    · exact pure trivial
    next known _ => exact (onValue (free _ known)).bind fun _ _ _ _ => pure trivial
    · exact pure trivial

theorem member (other : name ≠ "referent") : Ties scope (Live.member value name) store fun _ _ => True := by
  refine (member? other).bind fun found between _ _ => ?_
  split
  · exact pure trivial
  · exact misuse _

theorem callable? (other : name ≠ "referent") : Ties scope (Live.callable? value name) store fun _ _ => True :=
  (member? other).bind fun _ _ _ _ => pure trivial

end Ties

end

/-! ### Borrowing through -/

/-- If the value has an attribute of its own in the place of the method by which values borrow through, then it
cannot be called. -/
def Store.DerefsByKind (store : Store) (value : Value) : Prop :=
  ∀ address, value = .object address → ∃ object, store.objects[address]? = some object ∧
    ∀ held, object.attribute? "deref" = some held → held.isCallable = false

theorem Store.DerefsByKind.grows {store later : Store} {value : Value} (grows : store.Grows later)
    (byKind : store.DerefsByKind value) : later.DerefsByKind value := by
  intro address same
  obtain ⟨object, found, own⟩ := byKind address same
  exact ⟨object, grows.objects _ _ found, own⟩

theorem fixedMember?_deref {kind : Kind} {name : String} (same : name = "deref") {found : Member}
    (known : fixedMember? kind name = some found) : found = .method .content ∨ found = .constant (.int 5) := by
  unfold fixedMember? at known
  split at known
  all_goals first
    | exact absurd same (by decide)
    | exact .inl (Option.some.inj known).symm
    | exact .inr (Option.some.inj known).symm
    | cases known
    | (unfold cowMember? at known
       split at known
       all_goals first | exact absurd same (by decide) | cases known)

/-- What a kind has for borrowing through: a method that gives the content, a number that cannot be called, or a
variant that goes by the name. -/
theorem Store.kindMember?_deref {store : Store} {kind : Kind} {found : Member}
    (known : store.kindMember? kind "deref" = some found) : found = .method .content ∨ found = .constant (.int 5) ∨
      ∃ unit position side index, found = .constant (.kind (.variant unit position side index)) := by
  obtain ⟨ancestor, -, known⟩ := List.exists_of_findSome?_eq_some known
  unfold ownMember? at known
  split at known
  next side =>
    obtain ⟨loaded, -, known⟩ := Option.bind_eq_some_iff.mp known
    cases side <;> cases known
  next unit position side =>
    obtain ⟨loaded, -, known⟩ := Option.bind_eq_some_iff.mp known
    split at known
    next variant chosen =>
      obtain ⟨index, -, rfl⟩ := Option.map_eq_some_iff.mp chosen
      exact .inr (.inr ⟨unit, position, side, index, (Option.some.inj known).symm⟩)
    · rw [if_neg (by decide)] at known
      cases side <;> cases known
  · rw [if_neg (by decide)] at known
    cases known
  · exact (fixedMember?_deref rfl known).imp_right .inl

/-- The conversions of the library by which values borrow through. -/
theorem Store.Standard.target? {store : Store} (standard : store.Standard) {value : Value} {conversion : Conversion}
    {into? : Option Conversion} (target : store.target? value = some (conversion, into?)) :
    conversion = .window ∨ conversion = .identity ∨ conversion = .content := by
  obtain ⟨kind, -, known⟩ := List.exists_of_findSome?_eq_some target
  rw [standard.targets] at known
  obtain ⟨before, after, same, -⟩ := List.lookup_eq_some_iff.mp known
  have member : (kind, conversion, into?) ∈ Store.initial.targets := by simp [same]
  simp only [Store.initial, List.mem_cons, List.not_mem_nil, or_false, Prod.mk.injEq] at member
  rcases member with ⟨-, rfl, -⟩ | ⟨-, rfl, -⟩ | ⟨-, rfl, -⟩ | ⟨-, rfl, -⟩
  · exact .inl rfl
  · exact .inl rfl
  · exact .inr (.inl rfl)
  · exact .inr (.inr rfl)

section

variable {scope : Value} {store : Store} {value : Value}

inductive DerefsBy (value : Value) : Value → Prop
  | bound : DerefsBy value (.bound value .content)
  | method : DerefsBy value (.function (.method .content))
  | variant (unit position : Nat) (side : Side) (index : Nat) :
    DerefsBy value (.kind (.variant unit position side index))

theorem member?_deref (byKind : store.DerefsByKind value) : ∃ held, Live.member? value "deref" store = .ok held store ∧
    ∀ callee ∈ held, callee.isCallable → DerefsBy value callee := by
  unfold Live.member?
  rw [get_bind]
  split
  next kind =>
    cases known : store.kindMember? kind "deref" with
    | none => exact ⟨none, rfl, nofun⟩
    | some found =>
      rcases Store.kindMember?_deref known with rfl | rfl | ⟨unit, position, side, index, rfl⟩
      · exact ⟨_, rfl, fun callee member _ => Option.some.inj member ▸ .method⟩
      · exact ⟨_, rfl, fun callee member callable => by cases member; cases callable⟩
      · exact ⟨_, rfl, fun callee member _ => Option.some.inj member ▸ .variant unit position side index⟩
  next other =>
    dsimp only
    cases own : (store.object? value).bind (·.attribute? "deref") with
    | some held =>
      refine ⟨some held, ?_, fun callee member callable => ?_⟩
      · cases known : store.kindMember? (store.kindOf value) "deref" with
        | none => rfl
        | some found => rcases Store.kindMember?_deref known with rfl | rfl | ⟨_, _, _, _, rfl⟩ <;> rfl
      · obtain ⟨object, found, held_⟩ := Option.bind_eq_some_iff.mp own
        obtain ⟨address, rfl, -⟩ := Store.address_of_object? found
        obtain ⟨object', found', quiet⟩ := byKind address rfl
        obtain rfl : object = object' := Option.some.inj (found.symm.trans found')
        obtain rfl := Option.some.inj member
        rw [quiet held held_] at callable
        cases callable
    | none =>
      cases known : store.kindMember? (store.kindOf value) "deref" with
      | none => exact ⟨none, rfl, nofun⟩
      | some found =>
        rcases Store.kindMember?_deref known with rfl | rfl | ⟨unit, position, side, index, rfl⟩
        · exact ⟨_, rfl, fun callee member _ => Option.some.inj member ▸ .bound⟩
        · exact ⟨_, rfl, fun callee member callable => by cases member; cases callable⟩
        · exact ⟨_, rfl, fun callee member _ => Option.some.inj member ▸ .variant unit position side index⟩

theorem callable?_deref (byKind : store.DerefsByKind value) : ∃ found,
    Live.callable? value "deref" store = .ok found store ∧ ∀ callee ∈ found, DerefsBy value callee := by
  obtain ⟨held, read, by_⟩ := member?_deref byKind
  refine ⟨held.filter (·.isCallable), ?_, fun callee member => ?_⟩
  · rw [callable?, bind_of_ok read]
    rfl
  · rw [Option.mem_def, Option.filter_eq_some_iff] at member
    exact by_ callee member.1 member.2

namespace Ties

theorem createWindow (base : Value) : Ties scope (Live.createWindow base) store fun _ _ => True := by
  refine Ends.ofGet ?_
  split
  · exact create nofun trivial
  · split
    · exact create nofun trivial
    · exact misuse _

theorem bindArguments (arguments : Arguments) (kind : Kind) (parameters : List (String × Option Member)) :
    Ties scope (arguments.bind kind parameters) store fun _ _ => True := by
  unfold Arguments.bind
  split
  · split
    · refine (mapM (fun _ _ _ => True) store (fun _ _ => trivial) _ (fun found _ _ _ => onKind found kind) store
        (.refl store)).mono fun _ _ _ _ => trivial
    · exact misuse _
  · exact misuse _

theorem callDeref {callee : Value} (by_ : DerefsBy value callee) (steps : Nat) :
    Ties scope (callWithin steps callee ⟨[], []⟩) store fun _ _ => True := by
  cases steps with
  | zero => exact misuse _
  | succ steps =>
    cases by_ with
    | bound => exact member (by decide)
    | method => exact misuse _
    | variant unit position side index =>
      refine Ends.ofGet ((bindArguments _ _ _).bind fun _ _ _ _ => ?_)
      split
      · exact misuse _
      · exact create nofun trivial

/-- What a value borrows through to is found without pointers. -/
theorem deref (standard : store.Standard) (byKind : store.DerefsByKind value) (steps : Nat) :
    Ties scope (Live.deref (callWithin steps) value) store fun _ _ => True := by
  refine Ends.ofGet ?_
  split
  next conversion into? target =>
    rcases standard.target? target with rfl | rfl | rfl
    · exact createWindow value
    · exact pure trivial
    · exact member (by decide)
  · obtain ⟨found, read, by_⟩ := callable?_deref byKind
    refine Ties.next read ?_
    split
    next callee => exact callDeref (by_ _ rfl) steps
    · exact unsatisfied _ _

/-! ### Taking in -/

theorem clone (clear : store.Clear value) : Ties scope (Live.clone value) store fun _ _ => True := by
  refine (clone_adds value store).mono (fun copy after adds => ⟨adds.mono ?_, trivial⟩) fun failure after both => ?_
  · exact fun object own pointer => nomatch pointer.symm.trans (own clear)
  · obtain ⟨⟨problem, rfl⟩, adds⟩ := both
    exact ⟨adds.mono fun object own pointer => (nomatch pointer.symm.trans (own clear)), rfl⟩

theorem createBorrowed (open_ : store.IsOpen (some scope)) : Ties scope (Live.createBorrowed value scope) store
    fun output after => after.object? output = some (.borrowed value scope) := by
  obtain ⟨name, isStatic, held⟩ := open_ scope rfl
  exact of_ok (createBorrowed_apply held) (.put store fun _ => .inl ⟨value, rfl⟩) (store.object?_put _)

theorem isFlattenable : Ties scope (Live.isFlattenable value) store fun _ _ => True := by
  refine Ends.ofGet ?_
  split
  · exact pure trivial
  · exact (callable? (by decide)).bind fun _ _ _ _ => (callable? (by decide)).bind fun _ _ _ _ => pure trivial

theorem requireFlattenable : Ties scope (Live.requireFlattenable value) store fun _ _ => True := by
  refine isFlattenable.bind fun _ _ _ _ => ?_
  split
  · exact pure trivial
  · exact unsatisfied _ _

theorem asDeref {pointer : Value} (standard : store.Standard)
    (held : store.object? pointer = some (.borrowed value scope)) (open_ : store.IsOpen (some scope))
    (byKind : store.DerefsByKind value) (steps : Nat) : Ties scope (Live.asDeref (callWithin steps) pointer) store
      fun output after => ∃ target, after.object? output = some (.borrowed target scope) := by
  obtain ⟨name, isStatic, opened⟩ := open_ scope rfl
  rw [Live.asDeref]
  refine .next (isOwned_borrowed held) ?_
  refine .next (member_referent held opened) ?_
  refine (deref standard byKind steps).bind fun target between grows _ => ?_
  refine .next (member_scope (grows.object? held)) ?_
  exact (createBorrowed (open_.grows grows)).mono fun _ _ _ given => ⟨target, given⟩

theorem unboxed : Ties scope (Live.unboxed value) store fun _ _ => True := by
  refine .next (object?_apply value store) ?_
  split
  · exact pure trivial
  · exact unsatisfied _ _

end Ties

end

end CowView.Live
