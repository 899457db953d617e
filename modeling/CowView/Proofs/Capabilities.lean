import CowView.Proofs.Flattening
import CowView.Proofs.Sessions

/-!
What a strategy answers when it is given a value that is no instance of a declared type: a pointer or a view, or that
the value lacks what the strategy asks of it. The guard and what follows it look at different things, so a few values
slip through: a kind that makes views of its instances has no maker of its own, and a value that is lent may fail to
borrow through (`Session.Reached.takenBy_answers`).
-/

namespace CowView

/-- The capability that a strategy asks of what it takes into a view. -/
def Strategy.capability? : Strategy → Option String
  | flatten => some "Flatten"
  | unbox => some "Box"
  | nested => some "Butcher"
  | regular | copy => none

namespace Live

variable {store later : Store} {value : Value} {kind : Kind} {name capability : String} {scope? : Option Value}
  {strategy : Strategy} {failure : Failure}

def takenBy (strategy : Strategy) (scope? : Option Value) (value : Value) : Run Value :=
  match scope? with
  | none => call (.function (.strategy (some strategy) .fromOwned)) ⟨[value], []⟩
  | some scope => call (.function (.strategy (some strategy) .fromBorrowed)) ⟨[value, scope], []⟩

theorem takenBy_apply (strategy : Strategy) (scope? : Option Value) (value : Value) (store : Store) :
    takenBy strategy scope? value store = takeIn store.inner scope? strategy value store := by
  cases scope? <;> rfl

def Failure.isMissing : Failure → Bool
  | unsatisfied .. => true
  | _ => false

namespace Store

def Lacks (store : Store) (value : Value) : Strategy → Prop
  | .flatten => isFlattenable value store = .ok false store
  | .unbox => ∀ content, store.object? value ≠ some (.box content)
  | .nested => isViewable value store = .ok false store
  | .regular | .copy => False

/-- The value passes the guard of a strategy, and what the strategy does then fails: the guard takes a kind for its
instances, and that a value has a way to borrow through for one that works. -/
inductive Slips (store : Store) (scope? : Option Value) (value : Value) : Strategy → Failure → Prop
  | kind {kind : Kind} (same : value = .kind kind) (viewable : isViewable value store = .ok true store) :
    Slips store scope? value .nested (.misuse .noMember)
  | conversion {scope : Value} {conversion : Conversion} {failure : Failure} {later : Store}
    (lent : scope? = some scope) (registered : store.target? value = some (conversion, none))
    (fails : conversion.apply value (store.put (.borrowed value scope)) = .error failure later) :
    Slips store scope? value .flatten failure
  | method {scope callee : Value} {failure : Failure} {later : Store} (lent : scope? = some scope)
    (unregistered : store.target? value = none) (found : callable? value "deref" store = .ok (some callee) store)
    (whole : callable? value "into_target" store = .ok none store)
    (fails : store.inner.on callee [] (store.put (.borrowed value scope)) = .error failure later) :
    Slips store scope? value .flatten failure

/-- A strategy that asks for a capability answers: with a pointer or a view, or with a failure, which is that the value
lacks a capability unless the value slips through. -/
def Answers (store : Store) (scope? : Option Value) (value : Value) (strategy : Strategy) : Prop :=
  (∀ output later, takenBy strategy scope? value store = .ok output later →
    (later.kindOf output).isA .cow ∨ (later.kindOf output).isA .view) ∧
  ∀ failure, failure.isMissing = false →
    ((∃ later, takenBy strategy scope? value store = .error failure later) ↔ store.Slips scope? value strategy failure)

end Store

/-! ### The makers of kinds -/

theorem cowMember?_ne_texts {form : CowForm} {texts : List String} : cowMember? form name ≠ some (.texts texts) := by
  unfold cowMember?
  split <;> nofun

theorem fixedMember?_ne_texts {texts : List String} (other : name ≠ "VARIANTS") :
    fixedMember? kind name ≠ some (.texts texts) := by
  unfold fixedMember?
  split <;> first | contradiction | exact cowMember?_ne_texts | nofun

theorem Store.kindMember?_ne_texts {texts : List String} (other : name ∉ ["BOUNDS", "VARIANTS"]) :
    store.kindMember? kind name ≠ some (.texts texts) := by
  intro known
  simp only [List.mem_cons, List.not_mem_nil, or_false, not_or] at other
  have declared (loaded : Loaded) (source : Kind) (side : Side) :
      declaredMember? loaded source side name ≠ some (.texts texts) := by
    unfold declaredMember?
    split
    case h_2 => exact absurd rfl other.1
    case h_3 | h_4 => split <;> simp
    all_goals simp
  obtain ⟨ancestor, -, known⟩ := List.exists_of_findSome?_eq_some known
  unfold ownMember? at known
  split at known
  · obtain ⟨loaded, -, known⟩ := Option.bind_eq_some_iff.mp known
    exact declared _ _ _ known
  · obtain ⟨loaded, -, known⟩ := Option.bind_eq_some_iff.mp known
    split at known
    · cases known
    · rw [if_neg other.2] at known
      exact declared _ _ _ known
  · split at known
    · obtain ⟨found, -, known⟩ := Option.map_eq_some_iff.mp known
      cases known
    · cases known
  · exact fixedMember?_ne_texts other.2 known

/-- Whether a kind has a maker is answered without a trace in the store. -/
theorem callable?_kind (store : Store) (kind : Kind) (known : name ∈ ["butcher", "unbutcher"]) :
    ∃ found, callable? (.kind kind) name store = .ok found store := by
  have other : name ∉ ["BOUNDS", "VARIANTS"] := by
    rcases List.mem_pair.mp known with rfl | rfl <;> decide
  cases held : store.kindMember? kind name with
  | none =>
    refine ⟨none, callable?_eq_none ?_⟩
    rw [member?, get_bind]
    simp only [held]
    rcases List.mem_pair.mp known with rfl | rfl <;> rfl
  | some member =>
    cases member with
    | texts texts => exact absurd held (Store.kindMember?_ne_texts other)
    | _ => exact ⟨_, callable?_of_member? (member?_onKind held rfl)⟩

theorem Store.kindMember?_butcher (named : store.units.WellNamed) (other : kind.isA .viewable = false) :
    store.kindMember? kind "butcher" = none := by
  have union (unit position : Nat) :
      store.ownMember? (.union unit position .view) "butcher" = none := by
    cases found : store.units.loaded? unit position with
    | none => simp [ownMember?, found]
    | some loaded =>
      have none := variantKind?_of_reserved (named _ _ _ found) (by decide : "butcher" ∈ reservedMembers)
        unit position .view
      simp [ownMember?, found, none, declaredMember?]
  have record (unit position : Nat) : store.ownMember? (.record unit position .view) "butcher" = none := by
    cases found : store.units.loaded? unit position <;> simp [ownMember?, found, declaredMember?]
  cases kind with
  | viewable => exact absurd other (by decide)
  | strategy chosen => cases chosen <;> rfl
  | record unit position side =>
    cases side with
    | source => exact absurd other (by simp [Kind.isA, Kind.ancestors, Kind.ofSide])
    | view =>
      simp only [kindMember?, Kind.ancestors, Kind.ofSide, List.findSome?_cons, record]
      rfl
  | union unit position side =>
    cases side with
    | source => exact absurd other (by simp [Kind.isA, Kind.ancestors, Kind.ofSide])
    | view =>
      simp only [kindMember?, Kind.ancestors, Kind.ofSide, List.findSome?_cons, union]
      rfl
  | variant unit position side index =>
    cases side with
    | source => exact absurd other (by simp [Kind.isA, Kind.ancestors, Kind.ofSide])
    | view =>
      simp only [kindMember?, Kind.ancestors, Kind.ofSide, List.findSome?_cons, union]
      rfl
  | _ => rfl

def Store.askedOf (store : Store) : Value → Kind
  | .kind kind => kind
  | value => store.kindOf value

theorem isViewable_eq (value : Value) (store : Store) :
    isViewable value store = (do
      return (← callable? (.kind (store.askedOf value)) "butcher").isSome &&
        (← callable? (.kind (store.askedOf value)) "unbutcher").isSome : Run Bool) store := by
  cases value <;> rfl

theorem isViewable_answers (value : Value) (store : Store) : ∃ answer, isViewable value store = .ok answer store := by
  obtain ⟨maker, read⟩ := callable?_kind store (store.askedOf value) (List.mem_pair.mpr (.inl rfl))
  obtain ⟨maker', read'⟩ := callable?_kind store (store.askedOf value) (List.mem_pair.mpr (.inr rfl))
  refine ⟨maker.isSome && maker'.isSome, ?_⟩
  rw [isViewable_eq, bind_of_ok read, bind_of_ok read']
  rfl

theorem member_butcher_of_none (none : store.kindMember? kind "butcher" = none) :
    member? (.kind kind) "butcher" store = .ok .none store := by
  rw [member?, get_bind]
  simp only [none]
  rfl

theorem isViewable_other (named : store.units.WellNamed) (other : (store.askedOf value).isA .viewable = false) :
    isViewable value store = .ok false store := by
  obtain ⟨maker, read⟩ := callable?_kind store (store.askedOf value) (List.mem_pair.mpr (.inr rfl))
  rw [isViewable_eq, bind_of_ok (callable?_eq_none (member_butcher_of_none (Store.kindMember?_butcher named other))),
    bind_of_ok read]
  rfl

/-! ### The answers of the strategies -/

theorem unsatisfied_apply {α : Type} (value : Value) (capability : String) (store : Store) :
    (unsatisfied value capability : Run α) store =
      .error (.unsatisfied (store.units.kindName (store.kindOf value)) capability) store := rfl

namespace Store

theorem Answers.made {output : Value} (slips : ∀ failure, ¬ store.Slips scope? value strategy failure)
    (made : takenBy strategy scope? value store = .ok output later) (pointer : (later.kindOf output).isA .cow) :
    store.Answers scope? value strategy := by
  refine ⟨fun other between ran => ?_, fun failure _ => ⟨?_, fun slip => absurd slip (slips failure)⟩⟩
  · cases made.symm.trans ran
    exact .inl pointer
  · rintro ⟨between, failed⟩
    cases made.symm.trans failed

theorem Answers.failed (slip : failure.isMissing = false → store.Slips scope? value strategy failure)
    (only : ∀ other, other.isMissing = false → store.Slips scope? value strategy other → other = failure)
    (failed : takenBy strategy scope? value store = .error failure later) : store.Answers scope? value strategy := by
  refine ⟨fun output between ran => (nomatch failed.symm.trans ran), fun other serious => ⟨?_, fun other_slip => ?_⟩⟩
  · rintro ⟨between, failed'⟩
    cases failed.symm.trans failed'
    exact slip serious
  · exact ⟨later, only other serious other_slip ▸ failed⟩

end Store

theorem kindOf_pointing (scope? : Option Value) (target : Value) (store : Store) :
    ((store.put (.pointing scope? target)).kindOf store.next).isA .cow := by
  rw [Store.kindOf_of_object? (store.object?_put _)]
  cases scope? <;> rfl

/-- A strategy that finds something lacking says so, and leaves the store as it was. -/
theorem takenBy_lacking (asks : strategy.capability? = some capability) (lacks : store.Lacks value strategy)
    (scope? : Option Value) : takenBy strategy scope? value store =
      .error (.unsatisfied (store.units.kindName (store.kindOf value)) capability) store := by
  rw [takenBy_apply]
  cases strategy with
  | regular | copy => cases asks
  | flatten =>
    cases asks
    have fails : requireFlattenable value store =
        .error (.unsatisfied (store.units.kindName (store.kindOf value)) "Flatten") store := by
      rw [requireFlattenable, bind_of_ok lacks]
      exact unsatisfied_apply value "Flatten" store
    cases scope? <;> exact bind_of_error fails
  | unbox =>
    cases asks
    have fails : unboxed value store =
        .error (.unsatisfied (store.units.kindName (store.kindOf value)) "Box") store := by
      rw [unboxed, bind_of_ok (object?_apply value store)]
      cases held : store.object? value with
      | none => rfl
      | some object =>
        cases object with
        | box content => exact absurd held (lacks content)
        | _ => rfl
    cases scope? <;> exact bind_of_error fails
  | nested =>
    cases asks
    obtain ⟨pointing, taken, -⟩ := takeIn_nested store.inner scope? value
    rw [taken, nestedView, bind_of_ok lacks]
    exact unsatisfied_apply value "Butcher" store

theorem Store.Lacks.not_slips (lacks : store.Lacks value strategy) : ¬ store.Slips scope? value strategy failure := by
  rintro (⟨-, viewable⟩ | ⟨-, registered, -⟩ | ⟨-, unregistered, found, whole, -⟩)
  · cases viewable.symm.trans lacks
  · rw [Lacks, isFlattenable, get_bind, registered] at lacks
    cases lacks
  · rw [Lacks, isFlattenable, get_bind, unregistered] at lacks
    dsimp only at lacks
    rw [bind_of_ok found, bind_of_ok whole] at lacks
    cases lacks

theorem Store.Lacks.answers (asks : strategy.capability? = some capability) (lacks : store.Lacks value strategy)
    (scope? : Option Value) : store.Answers scope? value strategy :=
  .failed (by nofun) (fun _ _ slip => absurd slip lacks.not_slips) (takenBy_lacking asks lacks scope?)

theorem answers_unbox (value : Value) (open_ : store.IsOpen scope?) : store.Answers scope? value .unbox := by
  by_cases boxed : ∃ content, store.object? value = some (.box content)
  · obtain ⟨content, held⟩ := boxed
    have made := (takenBy_apply .unbox scope? value store).trans (takeIn_unbox store.inner held open_)
    exact .made (fun _ slip => nomatch slip) made (kindOf_pointing scope? content store)
  · exact (show store.Lacks value .unbox from not_exists.mp boxed).answers rfl scope?

/-- A kind is asked for its makers in the place of its instances, and then for its own, of which it has none. -/
theorem answers_nested (named : store.units.WellNamed) (other : (store.kindOf value).isA .viewable = false)
    (scope? : Option Value) : store.Answers scope? value .nested := by
  obtain ⟨answer, asked⟩ := isViewable_answers value store
  cases answer with
  | false => exact (show store.Lacks value .nested from asked).answers rfl scope?
  | true =>
    obtain ⟨kind, rfl⟩ : ∃ kind, value = .kind kind := by
      by_contra plain
      have same : store.askedOf value = store.kindOf value := by
        cases value with
        | kind kind => exact absurd ⟨kind, rfl⟩ plain
        | _ => rfl
      cases asked.symm.trans (isViewable_other named (same ▸ other))
    have fails : takenBy .nested scope? (.kind kind) store = .error (.misuse .noMember) store := by
      obtain ⟨pointing, taken, -⟩ := takeIn_nested store.inner scope? (.kind kind)
      have none : member (.kind .type) "butcher" store = .error (.misuse .noMember) store := by
        rw [member, bind_of_ok (member_butcher_of_none rfl)]
        rfl
      rw [takenBy_apply, taken, nestedView, bind_of_ok asked]
      show (kindOf (.kind kind) >>= fun kind => member (.kind kind) "butcher" >>= _) store = _
      rw [bind_of_ok (kindOf_apply _ store)]
      exact bind_of_error none
    refine .failed (fun _ => .kind rfl asked) (fun failure _ slip => ?_) fails
    cases slip
    rfl

/-- The ways to borrow through that a value has are the ones that are used while it is lent. -/
theorem slips_flatten_iff {scope : Value} (has : store.Has value)
    (flattenable : isFlattenable value store = .ok true store) :
    store.Slips (some scope) value .flatten failure ↔
      ∃ later, deref store.inner value (store.put (.borrowed value scope)) = .error failure later := by
  have new := Store.Grows.put store (.borrowed value scope)
  rw [deref, get_bind, has.target? new]
  cases target : store.target? value with
  | some registered =>
    obtain ⟨conversion, into?⟩ := registered
    rw [isFlattenable, get_bind, target] at flattenable
    cases into? with
    | some conversion => cases flattenable
    | none =>
      constructor
      · rintro (_ | ⟨⟨⟩, registered, fails⟩ | ⟨-, unregistered, -⟩)
        · cases target.symm.trans registered
          exact ⟨_, fails⟩
        · cases target.symm.trans unregistered
      · rintro ⟨later, fails⟩
        exact .conversion rfl target fails
  | none =>
    obtain ⟨maker, read⟩ := has.callable? (.inl rfl)
    obtain ⟨into, read'⟩ := has.callable? (.inr rfl)
    rw [isFlattenable, get_bind, target] at flattenable
    dsimp only at flattenable ⊢
    rw [bind_of_ok (read store (.refl store)), bind_of_ok (read' store (.refl store))] at flattenable
    rw [bind_of_ok (read _ new)]
    cases maker with
    | none => cases flattenable
    | some callee =>
      cases into with
      | some method => cases flattenable
      | none =>
        constructor
        · rintro (_ | ⟨-, registered, -⟩ | ⟨⟨⟩, -, found, -, fails⟩)
          · cases target.symm.trans registered
          · cases (read store (.refl store)).symm.trans found
            exact ⟨_, fails⟩
        · rintro ⟨later, fails⟩
          exact .method rfl target (read store (.refl store)) (read' store (.refl store)) fails

theorem answers_flatten (has : store.Has value) (open_ : store.IsOpen scope?) :
    store.Answers scope? value .flatten := by
  obtain ⟨answer, asked⟩ := has.isFlattenable
  cases answer with
  | false => exact (show store.Lacks value .flatten from asked).answers rfl scope?
  | true =>
    cases scope? with
    | none =>
      have made := (takenBy_apply .flatten none value store).trans
        (takeIn_flatten_owned (requireFlattenable_of_flattenable asked) fun _ => has.intoTarget asked store.inner)
      refine .made ?_ made (kindOf_pointing none value _)
      rintro failure (_ | ⟨⟨⟩, -⟩ | ⟨⟨⟩, -⟩)
    | some scope =>
      obtain ⟨title, isStatic, opened⟩ := open_ scope rfl
      cases ran : deref store.inner value (store.put (.borrowed value scope)) with
      | ok target after =>
        refine .made (fun failure slip => ?_) (flatten_fromBorrowed_of_deref opened asked ran)
          (kindOf_pointing (some scope) target after)
        obtain ⟨later, fails⟩ := (slips_flatten_iff has asked).mp slip
        cases ran.symm.trans fails
      | error failure after =>
        refine .failed (fun _ => (slips_flatten_iff has asked).mpr ⟨after, ran⟩) (fun other _ slip => ?_)
          ((flatten_fromBorrowed_apply opened asked).trans (bind_of_error ran))
        obtain ⟨later, fails⟩ := (slips_flatten_iff has asked).mp slip
        cases ran.symm.trans fails
        rfl

/-! ### What slips -/

theorem Store.Lends.has (lends : store.Lends value) : store.Has value := by
  rcases lends with (⟨letters, rfl⟩ | ⟨content, rfl⟩ | ⟨content, held⟩) | ⟨-, held⟩
  · nofun
  · nofun
  · exact fun _ _ => ⟨_, held⟩
  · exact fun _ _ => ⟨_, held⟩

/-- Texts, bytes and handles do not slip, if only the library has registered conversions. -/
theorem Store.Lends.not_slips (standard : store.Standard) (lends : store.Lends value) :
    ¬ store.Slips scope? value .flatten failure := by
  have flattenable : isFlattenable value store = .ok true store := by
    obtain ⟨answer, asked⟩ := lends.has.isFlattenable
    have required := lends.requireFlattenable_apply standard
    rw [requireFlattenable, bind_of_ok asked] at required
    cases answer with
    | true => exact asked
    | false => cases required
  intro slip
  obtain ⟨scope, rfl⟩ : ∃ scope, scope? = some scope := by
    rcases slip with _ | ⟨lent, -⟩ | ⟨lent, -⟩ <;> exact ⟨_, lent⟩
  obtain ⟨later, fails⟩ := (slips_flatten_iff lends.has flattenable).mp slip
  have new := Store.Grows.put store (.borrowed value scope)
  rcases lends.deref standard with ⟨target, through⟩ | ⟨content, -, through⟩
  · cases (through _ _ (callWithin_able _) new).symm.trans fails
  · cases (through _ _ (callWithin_able _) new).symm.trans fails

def pointerKinds : List Kind := [.cow, .owned, .borrowed, .cowIter, .scope, .staticScope]

theorem Object.kind_mem_pointerKinds {object : Object} (pointer : object.isPointer = true) :
    object.kind ∈ pointerKinds := by
  cases object with
  | scope title isOpen isStatic => cases isStatic <;> simp [Object.kind, pointerKinds]
  | cow | owned | borrowed | cowIter => simp [Object.kind, pointerKinds]
  | _ => cases pointer

def soughtMembers : List String := ["deref", "into_target", "butcher", "unbutcher"]

theorem kindMember?_pointer (known : kind ∈ pointerKinds) (sought : name ∈ soughtMembers) :
    store.kindMember? kind name = none := by
  simp only [pointerKinds, soughtMembers, List.mem_cons, List.not_mem_nil, or_false] at known sought
  rcases known with rfl | rfl | rfl | rfl | rfl | rfl <;> rcases sought with rfl | rfl | rfl | rfl <;> rfl

theorem Object.attribute?_pointer {object : Object} (pointer : object.isPointer = true)
    (sought : name ∈ soughtMembers) : object.attribute? name = none := by
  simp only [soughtMembers, List.mem_cons, List.not_mem_nil, or_false] at sought
  cases object <;> cases pointer <;> rcases sought with rfl | rfl | rfl | rfl <;> rfl

/-- Pointers, iterators of pointers and scopes lack all that is asked for, if only the library has registered
conversions. -/
theorem Store.Standard.lacks {object : Object} (standard : store.Standard)
    (held : store.object? value = some object) (pointer : object.isPointer = true)
    (asks : strategy.capability? = some capability) : store.Lacks value strategy := by
  have same := store.kindOf_of_object? held
  have known := Object.kind_mem_pointerKinds pointer
  have plain (kind : Kind) : value ≠ .kind kind := by
    rintro rfl
    cases held
  cases strategy with
  | regular | copy => cases asks
  | flatten =>
    have unregistered : store.target? value = none := by
      rw [Store.target?, same, standard.targets]
      simp only [pointerKinds, List.mem_cons, List.not_mem_nil, or_false] at known
      rcases known with known | known | known | known | known | known <;> rw [known] <;> rfl
    have missing {name : String} (sought : name ∈ soughtMembers) (own : name ≠ "__class__") :
        callable? value name store = .ok none store := by
      refine callable?_eq_none ?_
      rw [member?_apply store name plain, same, kindMember?_pointer known sought, held, Option.bind_some,
        Object.attribute?_pointer pointer sought, readMember, if_neg own]
      rfl
    rw [Lacks, isFlattenable, get_bind, unregistered]
    dsimp only
    rw [bind_of_ok (missing (by decide) (by decide)), bind_of_ok (missing (by decide) (by decide))]
    rfl
  | unbox =>
    intro content boxed
    cases held.symm.trans boxed
    cases pointer
  | nested =>
    obtain ⟨maker, read⟩ := callable?_kind store (store.kindOf value) (List.mem_pair.mpr (.inr rfl))
    have asked : store.askedOf value = store.kindOf value := by
      cases value with
      | kind kind => exact absurd rfl (plain kind)
      | _ => rfl
    have missing : callable? (.kind object.kind) "butcher" store = .ok none store :=
      callable?_eq_none (member_butcher_of_none (kindMember?_pointer known (by decide)))
    rw [Lacks, isViewable_eq, asked, same, bind_of_ok missing, bind_of_ok (same ▸ read)]
    rfl

/-- A kind whose instances borrow through by a method slips when it is lent itself: the method has no receiver. -/
theorem slips_kind {scope : Value} (unregistered : store.target? (.kind kind) = none)
    (found : store.kindMember? kind "deref" = some (.method .content))
    (whole : store.kindMember? kind "into_target" = none) :
    store.Slips (some scope) (.kind kind) .flatten (.misuse .wrongType) := by
  have single : member? (.kind kind) "into_target" store = .ok none store := by
    rw [member?, get_bind]
    simp only [whole]
    rfl
  exact .method rfl unregistered (callable?_of_member? (member?_onKind found rfl)) (callable?_eq_none single) rfl

/-! ### Reached states -/

/-- In every state that steps lead to, a strategy that is given anything but an instance of a declared type reports what
it finds lacking, and otherwise makes a pointer or a view, or fails because the value lacks a capability, unless the
value slips through: then it fails by just that. -/
theorem Session.Reached.takenBy_answers {session : Session} (reached : session.Reached)
    (has : session.store.Has value) (other : (session.store.kindOf value).isA .viewable = false)
    (open_ : session.store.IsOpen scope?) (asks : strategy.capability? = some capability) :
    (session.store.Lacks value strategy → takenBy strategy scope? value session.store =
      .error (.unsatisfied (session.store.units.kindName (session.store.kindOf value)) capability) session.store) ∧
    session.store.Answers scope? value strategy := by
  refine ⟨fun lacks => takenBy_lacking asks lacks scope?, ?_⟩
  cases strategy with
  | regular | copy => cases asks
  | flatten => exact answers_flatten has open_
  | unbox => exact answers_unbox value open_
  | nested => exact answers_nested reached.fromTexts.wellNamed other scope?

/-- A pointer that was lent in a scope cannot be flattened in that scope. -/
theorem takenBy_answers_scope :
    let session := [Step.evaluate none (.apply (.list) []),
      .evaluate (some "v") (.apply (.enter "s" (some "s")) [.plain (.int 5)])].foldl Session.after {}
    session.registers = [("v", .object 3)] ∧ session.entered = [("s", .object 2)] ∧
      takenBy .flatten (some (.object 2)) (.object 3) session.store =
        .error (.unsatisfied "Borrowed" "Flatten") session.store ∧
      session.store.Answers (some (.object 2)) (.object 3) .flatten := by
  intro session
  have standard : session.store.Standard := ⟨rfl, rfl⟩
  have reached : session.Reached := .foldl _
  have pointer : session.store.object? (.object 3) = some (.borrowed (.int 5) (.object 2)) := rfl
  have has : session.store.Has (.object 3) := fun _ same => by
    cases same
    exact ⟨_, pointer⟩
  have open_ : session.store.IsOpen (some (.object 2)) := fun _ same => Option.some.inj same ▸ ⟨_, _, rfl⟩
  have asks : Strategy.flatten.capability? = some "Flatten" := rfl
  obtain ⟨reported, answers⟩ := reached.takenBy_answers has rfl open_ asks
  exact ⟨rfl, rfl, reported (standard.lacks pointer rfl asks), answers⟩

/-- The kind of all declared types is taken for its instances, and fails for want of a member of kinds. -/
theorem takenBy_kind_fails : ¬ ∀ (session : Session) (value : Value) (scope? : Option Value) (strategy : Strategy),
    session.Reached → session.store.Has value → (session.store.kindOf value).isA .viewable = false →
      session.store.IsOpen scope? → strategy.capability?.isSome → ∀ failure later,
        takenBy strategy scope? value session.store = .error failure later → failure.isMissing = true := by
  intro all
  have fails : takenBy .nested none (.kind .viewable) Store.initial = .error (.misuse .noMember) Store.initial := rfl
  cases all {} (.kind .viewable) none .nested (.foldl []) nofun rfl nofun rfl _ _ fails

end Live

end CowView
