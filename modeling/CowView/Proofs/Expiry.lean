import CowView.Proofs.Calls
import CowView.Proofs.Lasts
import CowView.Proofs.Lending
import CowView.Proofs.Releasing

/-!
Pointers, iterators and views in a scope. Once the scope is closed, every use of a pointer expires, and so does an
iterator that has elements left, and a view that holds pointers. While it is open, nothing expires, and what the
pointers and iterators lead on to is tied to the scope.
-/

namespace CowView.Live

/-- The run fails because a scope is closed. -/
def Expires {α : Type} (run : Run α) (store : Store) : Prop :=
  ∃ name after, run store = .error (.expired name) after

def Store.IsClosed (store : Store) (scope : Value) : Prop :=
  ∃ name, store.object? scope = some (.scope name false false)

/-- The pointers that the run makes are tied to the scope, and it does not fail because a scope is closed. -/
def StaysTied {α : Type} (scope : Value) (run : Run α) (store : Store) : Prop :=
  Ends run store (fun _ after => store.Creates (·.IsTied scope) after)
    fun failure after => store.Creates (·.IsTied scope) after ∧ failure.isExpiry = false

def CowRequest.name : CowRequest → String
  | get => "get"
  | intoOwned => "into_owned"
  | owned => "owned"

/-- What leads on from a pointer: to a view that a kind makes of what it refers to, to a pointer to what that borrows
through to, and to an iterator of pointers over it. -/
inductive Descent where
  | view (kind : Kind)
  | target
  | elements

def Descent.run (pointer : Value) : Descent → Run Value
  | view kind => invoke (.kind kind) "butcher" [pointer]
  | target => call (.function .asDeref) ⟨[pointer], []⟩
  | elements => call (.function .cowIter) ⟨[pointer], []⟩

/-- A kind that makes views is one of a declaration whose unit hides no name that is taken for granted. -/
def Descent.IsGenerated (units : Units) : Descent → Prop
  | view kind => kind.onSide .source = kind ∧ ¬ units.Hides kind ∧ ∃ unit position loaded,
      kind.place? = some (unit, position) ∧ units.loaded? unit position = some loaded
  | target | elements => True

/-- What a pointer refers to suits the way that leads on from it. A view is made by its own kind of an instance that
holds no pointers, and whose contents fit the strategies of their fields; `excluded` declarations are not involved. -/
def Descent.Suits (excluded : Units → Kind → Loaded → Prop) (store : Store) (referent : Value) : Descent → Prop
  | view kind => kind = store.kindOf referent ∧ store.IsFit referent ∧ store.Clear referent ∧
      ¬ store.Involves (excluded store.units) referent
  | target => store.DerefsByKind referent
  | elements => ∀ object, store.object? referent = some object → object.isPointer = false

section

variable {α β : Type} {run : Run α} {store : Store} {scope pointer referent : Value}

theorem Expires.bind {next : α → Run β} (expires : Expires run store) : Expires (run >>= next) store := by
  obtain ⟨name, after, ran⟩ := expires
  exact ⟨name, after, bind_of_error ran⟩

theorem Expires.next {found : α} {next : α → Run β} {between : Store} (first : run store = .ok found between)
    (expires : Expires (next found) between) : Expires (run >>= next) store := by
  rw [Expires, bind_of_ok first]
  exact expires

theorem Expires.congr {run' : Run α} (same : run' store = run store) (expires : Expires run store) :
    Expires run' store := by
  rw [Expires, same]
  exact expires

theorem Ends.not_expires {onResult : α → Store → Prop} {onFailure : Failure → Store → Prop}
    (ends : Ends run store onResult onFailure)
    (quiet : ∀ failure after, onFailure failure after → failure.isExpiry = false) : ¬ Expires run store := by
  rintro ⟨name, after, ran⟩
  exact nomatch quiet _ _ (ends.failure ran)

theorem Ties.staysTied {gives : α → Store → Prop} (ties : Ties scope run store gives) : StaysTied scope run store :=
  Ends.mono ties (fun _ _ both => both.1.new) fun _ _ both => ⟨both.1.new, both.2⟩

/-! ### Closed scopes -/

theorem checkScope_closed (closed : store.IsClosed scope) : Expires (checkScope scope) store := by
  obtain ⟨name, held⟩ := closed
  refine ⟨name, store, ?_⟩
  rw [checkScope, bind_of_ok (object?_apply scope store), held]
  rfl

theorem invoke_request (held : store.object? pointer = some (.borrowed referent scope)) (request : CowRequest) :
    invoke pointer request.name [] store = (checkScope scope >>= fun _ => match request with
      | .get => pure referent
      | .intoOwned => toOwned referent
      | .owned => toOwned referent >>= fun value => create (.owned value) : Run Value) store := by
  have read : member pointer request.name store = .ok (.bound pointer (.cow .borrowed request)) store := by
    cases request <;>
      exact member_of_member? (member?_onValue (.method (.cow .borrowed _)) held rfl rfl rfl)
  rw [invoke, bind_of_ok read]
  show answerCow .borrowed request pointer store = _
  rw [answerCow, bind_of_ok (object?_apply pointer store), held]
  cases request <;> rfl

theorem member_referent_closed (held : store.object? pointer = some (.borrowed referent scope))
    (closed : store.IsClosed scope) : Expires (member pointer "referent") store := by
  obtain ⟨address, rfl, -⟩ := Store.address_of_object? held
  have expires : Expires (Property.read .referent (.object address)) store := by
    obtain ⟨name, after, failed⟩ := checkScope_closed closed
    refine ⟨name, after, ?_⟩
    rw [Property.read, get_bind]
    simp only [held]
    exact bind_of_error failed
  obtain ⟨name, after, failed⟩ := expires
  refine Expires.bind ⟨name, after, ?_⟩
  rw [member?, get_bind]
  simp only [Store.kindOf_of_object? held]
  exact bind_of_error failed

/-- The functions of all kinds of a declaration are the generated ones, if no others stand in their place. -/
theorem kindMember?_generated {kind : Kind} {unit position : Nat} {loaded : Loaded} (source : kind.onSide .source = kind)
    (place : kind.place? = some (unit, position)) (found : store.units.loaded? unit position = some loaded)
    (named : loaded.view.body.WellNamed) (own : loaded.inPlace = none) :
    store.kindMember? kind "butcher" = some (.kindMethod .takeApart) := by
  have free : variantKind? loaded.view unit position .source "butcher" = none :=
    variantKind?_of_reserved named (by decide) unit position .source
  cases kind <;> cases place <;> cases source
  all_goals simp [Store.kindMember?, Kind.ancestors, Store.ownMember?, found, declaredMember?, own, free]

/-- A view is made by the function of its declaration. -/
theorem invoke_takeApart {kind : Kind} {unit position : Nat}
    (known : store.kindMember? kind "butcher" = some (.kindMethod .takeApart))
    (place : kind.place? = some (unit, position)) : invoke (.kind kind) "butcher" [pointer] store =
      takeApart (callWithin (2 * (store.objects.size + 7) + 1)) unit position (.kind kind) pointer store := by
  rw [invoke, bind_of_ok (member_of_member? (member?_onKind known rfl))]
  show callMethod (callWithin (2 * (store.objects.size + 7) + 1)) .takeApart (.kind kind) [pointer] store = _
  unfold callMethod
  simp only [place]

def Descent.IsAble (store : Store) : Descent → Prop
  | view kind => store.kindMember? kind "butcher" = some (.kindMethod .takeApart) ∧
      ∃ unit position loaded, kind.place? = some (unit, position) ∧ store.units.loaded? unit position = some loaded
  | target | elements => True

theorem Descent.IsGenerated.able (texts : store.units.FromTexts) {descent : Descent}
    (generated : descent.IsGenerated store.units) : descent.IsAble store := by
  cases descent with
  | view kind =>
    obtain ⟨source, free, unit, position, loaded, place, found⟩ := generated
    have own := texts.inPlace_eq_none place found free
    exact ⟨kindMember?_generated source place found (texts.wellNamed _ _ _ found) own, unit, position, loaded, place,
      found⟩
  | target | elements => trivial

theorem Descent.Suits.able {excluded : Units → Kind → Loaded → Prop} (named : store.units.WellNamed)
    (bars : ∀ value, ¬ store.Involves (excluded store.units) value → ¬ store.Captures value) {descent : Descent}
    (suits : descent.Suits excluded store referent) : descent.IsAble store := by
  cases descent with
  | view kind =>
    obtain ⟨rfl, fit, -, free⟩ := suits
    obtain @⟨kind, loaded, fields, attributes, forms, held, -⟩ := Store.InstanceLayer.within fit
    obtain ⟨unit, position, place, found⟩ := (forms.onSide .source).place
    have ordinary := Store.ordinary_of_not_captures (bars referent free) forms held
    have known := kindMember?_butcher forms (forms.named named)
    rw [ordinary.generated] at known
    rw [IsAble, Store.kindOf_of_object? held]
    exact ⟨known, unit, position, loaded, place, found⟩
  | target | elements => trivial

/-- A pointer whose scope is closed leads nowhere. -/
theorem Descent.expires (held : store.object? pointer = some (.borrowed referent scope))
    (closed : store.IsClosed scope) {descent : Descent} (able : descent.IsAble store) :
    Expires (descent.run pointer) store := by
  have lent := isOwned_borrowed held
  have failed := member_referent_closed held closed
  cases descent with
  | view kind =>
    obtain ⟨known, unit, position, loaded, place, found⟩ := able
    refine Expires.congr (invoke_takeApart known place) ?_
    rw [Expires, Live.takeApart, get_bind]
    simp only [found]
    exact Expires.next lent failed.bind
  | target =>
    have same : Descent.target.run pointer store =
        asDeref (callWithin (2 * (store.objects.size + 7) + 1)) pointer store := rfl
    exact Expires.congr same (Expires.next lent failed.bind)
  | elements =>
    have same : Descent.elements.run pointer store =
        cowIter (callWithin (2 * (store.objects.size + 7) + 1)) pointer store := rfl
    exact Expires.congr same (Expires.next lent failed.bind)

/-! ### Open scopes -/

/-- With the conversions of the library, owned forms are made without a look at scopes. -/
theorem toOwned_ends (standard : store.Standard) (value : Value) : Ends (toOwned value) store
    (fun _ after => store.Grows after) fun failure _ => failure.isExpiry = false := by
  have cloned : Ends (clone value) store (fun _ after => store.Grows after) fun failure _ => failure.isExpiry = false := by
    refine (clone_adds value store).mono (fun _ _ adds => adds.grows) fun failure _ both => ?_
    obtain ⟨⟨problem, rfl⟩, -⟩ := both
    rfl
  have viewed : Ends (ownedFromWindow value) store (fun _ after => store.Grows after)
      fun failure _ => failure.isExpiry = false := by
    refine .ofGet ?_
    split
    · split
      · exact .put store _
      · exact .refl store
    · exact rfl
  unfold Ends
  rw [standard.toOwned_eq]
  by_cases window : store.kindOf value = .window
  · rw [if_pos window]
    exact viewed
  · rw [if_neg window]
    exact cloned

theorem CowRequest.not_expires (standard : store.Standard)
    (held : store.object? pointer = some (.borrowed referent scope)) (open_ : store.IsOpen (some scope))
    (request : CowRequest) : ¬ Expires (invoke pointer request.name []) store := by
  obtain ⟨name, isStatic, opened⟩ := open_ scope rfl
  have given := toOwned_ends standard referent
  rw [Expires, invoke_request held, bind_of_ok (checkScope_open opened)]
  cases request with
  | get => nofun
  | intoOwned => exact given.not_expires fun _ _ => id
  | owned =>
    have boxed : Ends (toOwned referent >>= fun value => create (.owned value)) store (fun _ _ => True)
        fun failure _ => failure.isExpiry = false :=
      Ends.bind (given.mono (fun _ _ _ => trivial) fun _ _ => id)
    exact boxed.not_expires fun _ _ => id

end

/-! ### What is tied to a scope -/

inductive Store.Tied (store : Store) (scope value : Value) : Prop
  | pointer (referent : Value) (held : store.object? value = some (.borrowed referent scope)) : Tied store scope value
  | iterator (elements base : Value) (position : Option Nat) (size : Nat)
    (held : store.object? value = some (.cowIter elements scope))
    (below : store.object? elements = some (.iterator base position size)) : Tied store scope value
  | view (layers : Nat) (referents : List Value) (few : layers ≤ store.objects.size + 1)
    (shows_ : store.Shows (some scope) layers value referents) : Tied store scope value

section

variable {store after : Store} {scope pointer referent value : Value}

theorem Store.Tied.lasts (lasts : store.Lasts after) (tied : store.Tied scope value) : after.Tied scope value := by
  cases tied with
  | pointer referent held => exact .pointer referent (lasts.keeps.borrowed held)
  | iterator elements base position size held below =>
    obtain ⟨other, found, becomes⟩ := lasts.keeps.object? held rfl
    obtain ⟨inner, found', becomes'⟩ := lasts.keeps.object? below rfl
    cases becomes
    cases becomes' with
    | same => exact .iterator _ _ _ _ found found'
    | iterator => exact .iterator _ _ _ _ found found'
  | view layers referents few shows_ =>
    exact .view layers referents (few.trans (Nat.succ_le_succ lasts.objects)) (shows_.lasts lasts)

/-- Going through a value that is no pointer makes an iterator over it, or the value is one itself. -/
theorem Ties.iterate (plain : ∀ object, store.object? value = some object → object.isPointer = false) :
    Ties scope (Live.iterate value) store fun elements after =>
      ∃ base position size, after.object? elements = some (.iterator base position size) := by
  refine Ends.ofGet ?_
  split
  · exact create nofun ⟨_, _, _, store.object?_put _⟩
  · split
    next held => exact pure ⟨_, _, _, held⟩
    next held => exact nomatch plain _ held
    · exact misuse _

theorem Descent.ties {excluded : Units → Kind → Loaded → Prop} (standard : store.Standard)
    (texts : store.units.FromTexts)
    (bars : ∀ value, ¬ store.Involves (excluded store.units) value → ¬ store.Captures value)
    (held : store.object? pointer = some (.borrowed referent scope)) (open_ : store.IsOpen (some scope))
    {descent : Descent} (suits : descent.Suits excluded store referent) :
    Ties scope (descent.run pointer) store fun result after => after.Tied scope result := by
  obtain ⟨name, isStatic, opened⟩ := open_ scope rfl
  have named := texts.wellNamed
  cases descent with
  | view kind =>
    obtain ⟨rfl, fit, clear, free⟩ := suits
    have within := Store.InstanceLayer.within fit
    have whole := within
    obtain @⟨kind, loaded, fields, attributes, forms, instance_, -⟩ := within
    have free := bars referent free
    have ordinary := Store.ordinary_of_not_captures free forms instance_
    obtain ⟨less, same, ties⟩ := lentWithin standard named (store.objects.size + 1) (2 * (store.objects.size + 7) + 1)
      whole free clear forms instance_ (.refl store) held open_ (by omega)
    obtain rfl : store.objects.size = less := by omega
    have made : Descent.run pointer (.view (store.kindOf referent)) store = callWithin (2 * (store.objects.size + 8))
        (.bound (.kind (kind.onSide .source)) .takeApart) ⟨[pointer], []⟩ store := by
      rw [Store.kindOf_of_object? instance_]
      exact invoke_butcher forms named ordinary.generated
    refine Ties.after made (.refl store) (ties.mono fun view after grows given => ?_)
    obtain ⟨referents, shows_⟩ := given
    exact .view _ referents (Nat.succ_le_succ grows.size_le) ⟨kind, shows_⟩
  | target =>
    have same : Descent.target.run pointer store =
        asDeref (callWithin (2 * (store.objects.size + 7) + 1)) pointer store := rfl
    refine Ties.after same (.refl store) ((Ties.asDeref standard held open_ suits _).mono fun _ _ _ given => ?_)
    exact .pointer given.choose given.choose_spec
  | elements =>
    have same : Descent.elements.run pointer store =
        cowIter (callWithin (2 * (store.objects.size + 7) + 1)) pointer store := rfl
    refine Ties.after same (.refl store) (Ties.next (isOwned_borrowed held) ?_)
    refine Ties.next (member_referent held opened) ((Ties.iterate suits).bind fun elements between grows given => ?_)
    obtain ⟨base, position, size, below⟩ := given
    refine Ties.next (member_scope (grows.object? held)) (Ties.create (fun _ => .inr ⟨elements, rfl⟩) ?_)
    exact .iterator elements base position size (between.object?_put _) ((Store.Grows.put between _).object? below)

/-! ### Iterators -/

structure Store.Moves (before after : Store) : Prop where
  evolves : before.Evolves after
  size : after.objects.size = before.objects.size
  opens : ∀ scope?, before.IsOpen scope? → after.IsOpen scope?

theorem Store.Moves.refl (store : Store) : store.Moves store := ⟨.refl store, rfl, fun _ => id⟩

theorem write_moves {elements base : Value} {position : Option Nat} {size : Nat}
    (held : store.object? elements = some (.iterator base position size)) (other : Option Nat) :
    Ends (write elements (.iterator base other size)) store (fun _ after => store.Moves after)
      fun failure after => store.Moves after ∧ failure.isExpiry = false := by
  obtain ⟨place, rfl, -⟩ := Store.address_of_object? held
  refine ⟨EvolvesFrom.write held (.iterator _ _ _ _), Array.size_setIfInBounds, fun scope? open_ scope member => ?_⟩
  obtain ⟨name, isStatic, opened⟩ := open_ scope member
  refine ⟨name, isStatic, ?_⟩
  obtain ⟨address, rfl, -⟩ := Store.address_of_object? opened
  have different : place ≠ address := by
    rintro rfl
    exact nomatch held.symm.trans opened
  have kept : (store.objects.setIfInBounds place (.iterator base other size))[address]? = store.objects[address]? := by
    simp [different]
  exact kept.trans opened

theorem advanceWithin_iterator {elements base : Value} {position : Option Nat} {size : Nat}
    (held : store.object? elements = some (.iterator base position size)) (steps more : Nat) :
    advanceWithin (steps + 1) elements store = advanceWithin (more + 1) elements store ∧
      Ends (advanceWithin (steps + 1) elements) store (fun _ after => store.Moves after)
        fun failure after => store.Moves after ∧ failure.isExpiry = false := by
  constructor
  · unfold advanceWithin
    rw [get_bind, get_bind]
    simp only [held]
    cases position <;> rfl
  · unfold advanceWithin
    refine .ofGet ?_
    simp only [held]
    cases position with
    | none => exact Store.Moves.refl store
    | some position =>
      dsimp only
      split
      · exact ⟨.refl store, rfl⟩
      · split
        · exact Ends.bind ((write_moves held _).mono (fun _ _ => id) fun _ _ => id)
        · exact Ends.bind ((write_moves held _).mono (fun _ _ => id) fun _ _ => id)

/-- An iterator of pointers wraps the next element of the one below, after a look at its scope. -/
theorem advance_cowIter {elements : Value} {place : Address}
    (held : store.object? value = some (.cowIter elements (.object place))) :
    advance value store = (advanceWithin (store.objects.size + 7) elements >>= fun found => match found with
      | none => misuse .exhausted
      | some element => checkScope (.object place) >>= fun _ => create (.borrowed element (.object place)) :
        Run Value) store := by
  have start : advance? value store = advanceWithin (store.objects.size + 7 + 1) value store := rfl
  rw [advance]
  show EStateM.bind (advance? value) _ store = _
  rw [EStateM.bind, start, advanceWithin, get_bind]
  simp only [held]
  cases below : advanceWithin (store.objects.size + 7) elements store with
  | error failure between => rw [bind_of_error below, bind_of_error below]
  | ok found between =>
    rw [bind_of_ok below, bind_of_ok below]
    cases found with
    | none => rfl
    | some element =>
      dsimp only
      cases checked : checkScope (.object place) between with
      | error failure after => rw [bind_of_error checked, bind_of_error checked]
      | ok done after =>
        rw [bind_of_ok checked, bind_of_ok checked]
        rfl

theorem Store.IsClosed.evolves (closed : store.IsClosed scope) (evolves : store.Evolves after) :
    after.IsClosed scope := by
  obtain ⟨name, held⟩ := closed
  obtain ⟨other, found, becomes⟩ := evolves.object? held
  cases becomes with
  | same => exact ⟨name, found⟩
  | closed => exact ⟨name, found⟩

section

variable {elements base : Value} {position : Option Nat} {size : Nat}
  (held : store.object? value = some (.cowIter elements scope))
  (below : store.object? elements = some (.iterator base position size))

include held below

theorem advance_closed (closed : store.IsClosed scope)
    (more : ∃ element later, advance elements store = .ok element later) : Expires (advance value) store := by
  obtain ⟨name, held'⟩ := closed
  obtain ⟨place, rfl, -⟩ := Store.address_of_object? held'
  obtain ⟨element, later, ran⟩ := more
  obtain ⟨found, between, ran, given⟩ := bind_eq_ok ran
  obtain ⟨same, ends⟩ := advanceWithin_iterator below (store.objects.size + 6) (store.objects.size + 7)
  have ran : advanceWithin (store.objects.size + 7) elements store = .ok found between := same.trans ran
  cases found with
  | none => cases given
  | some element =>
    refine Expires.congr (advance_cowIter held) (Expires.next ran ?_)
    exact (checkScope_closed (Store.IsClosed.evolves ⟨name, held'⟩ (ends.result ran).evolves)).bind

theorem advance_open (open_ : store.IsOpen (some scope)) : Ends (advance value) store
    (fun result after => store.Creates (·.IsTied scope) after ∧ after.Tied scope result)
    fun failure after => store.Creates (·.IsTied scope) after ∧ failure.isExpiry = false := by
  obtain ⟨name, isStatic, opened⟩ := open_ scope rfl
  obtain ⟨place, rfl, -⟩ := Store.address_of_object? opened
  have tied {between after : Store} (moves : store.Moves between) (adds : between.Adds (·.IsTied (.object place)) after) :
      store.Creates (·.IsTied (.object place)) after :=
    fun address object outside => adds.new address object (moves.size.le.trans outside)
  unfold Ends
  rw [advance_cowIter held]
  refine Ends.bind ((advanceWithin_iterator below (store.objects.size + 6) 0).2.mono (fun found between moves => ?_)
    fun failure after both => ⟨tied both.1 (.refl after), both.2⟩)
  cases found with
  | none => exact ⟨tied moves (.refl between), rfl⟩
  | some element =>
    obtain ⟨name, isStatic, opened⟩ := moves.opens _ open_ _ rfl
    have made : Ties (.object place) (create (.borrowed element (.object place))) between fun result after =>
        after.Tied (.object place) result :=
      Ties.create (fun _ => .inl ⟨element, rfl⟩) (.pointer element (between.object?_put _))
    exact Ends.mono (Ties.next (checkScope_open opened) made) (fun _ _ => And.imp_left (tied moves)) fun _ _ =>
      And.imp_left (tied moves)

end

/-! ### Views -/

def Strategy.isLoan : Strategy → Bool
  | .regular | .flatten | .unbox => true
  | .copy | .nested => false

inductive Store.HoldsLoan (store : Store) : Value → Prop
  | own {view : Value} {kind : Kind} {attributes : List (String × Value)} {field : FieldView}
    (shown : store.object? view = some (.entity kind attributes)) (member : field ∈ store.units.fields kind)
    (loan : Strategy.isLoan field.field.strategy) : HoldsLoan store view
  | nested {view inner : Value} {kind : Kind} {attributes : List (String × Value)} {field : FieldView}
    (shown : store.object? view = some (.entity kind attributes)) (member : field ∈ store.units.fields kind)
    (nested : field.field.strategy = .nested) (own : attributes.lookup field.slot = some inner)
    (holds : HoldsLoan store inner) : HoldsLoan store view

variable {view : Value} {layers : Nat} {referents : List Value}

/-- A view holds a pointer where it shows something that one refers to. -/
theorem holdsLoan_iff {scope? : Option Value} (shows_ : store.Shows scope? layers view referents) :
    store.HoldsLoan view ↔ referents ≠ [] := by
  induction layers generalizing view referents with
  | zero => exact shows_.elim
  | succ layers ih =>
    obtain @⟨kind, loaded, fields, viewed, parts, forms, free, shown, slots, each⟩ := shows_
    have fields_eq : store.units.fields (kind.onSide .view) = fields := (forms.onSide .view).fields_eq
    constructor
    · intro holds none
      have empty : ∀ field ∈ fields, parts field = [] := List.flatMap_eq_nil_iff.mp none
      cases holds with
      | @own _ _ _ field shown' member loan =>
        obtain ⟨rfl, rfl⟩ : kind.onSide .view = _ ∧ viewed = _ := by simpa using shown.symm.trans shown'
        rw [fields_eq] at member
        obtain ⟨output, found, holds⟩ := each field member
        rw [empty field member] at holds
        cases strategy : field.field.strategy <;> rw [strategy] at holds loan
        case copy | nested => cases loan
        all_goals
          obtain ⟨referent, -, same⟩ := holds
          cases same
      | @nested _ inner _ _ field shown' member nested own holds =>
        obtain ⟨rfl, rfl⟩ : kind.onSide .view = _ ∧ viewed = _ := by simpa using shown.symm.trans shown'
        rw [fields_eq] at member
        obtain ⟨output, found, shows_⟩ := each field member
        rw [nested, empty field member] at shows_
        obtain rfl : output = inner := Option.some.inj (found.symm.trans own)
        exact (ih shows_).mp holds rfl
    · intro some_
      obtain ⟨referent, member⟩ := List.exists_mem_of_ne_nil _ some_
      obtain ⟨field, present, inside⟩ := List.mem_flatMap.mp member
      have member : field ∈ store.units.fields (kind.onSide .view) := fields_eq ▸ present
      obtain ⟨output, found, holds⟩ := each field present
      cases strategy : field.field.strategy with
      | copy =>
        rw [strategy] at holds
        rw [show parts field = [] from holds] at inside
        cases inside
      | nested =>
        rw [strategy] at holds
        exact .nested shown member strategy found ((ih holds).mpr (List.ne_nil_of_mem inside))
      | regular | flatten | unbox => exact .own shown member (by rw [strategy]; rfl)

/-- In a closed scope nothing is released. -/
theorem tracking_closed : Tracking fun _ referents _ => referents = [] where
  refl _ := rfl
  put _ _ := rfl
  append := by
    rintro _ _ _ _ _ rfl rfl
    rfl

theorem releasable_closed (closed : store.IsClosed scope) :
    Releasable (fun _ referents _ => referents = []) (fun failure => failure.isExpiry = true) (some scope) store
      referent := by
  intro now grows
  obtain ⟨name, after, failed⟩ : Expires (checkScope scope >>= fun _ => toOwned referent) now :=
    (checkScope_closed (closed.evolves (.of_grows grows))).bind
  unfold Releases Ends
  rw [show release (some scope) referent now = _ from failed]
  exact ⟨by simp, rfl⟩

theorem tracking_open : Tracking fun _ _ _ => True :=
  ⟨fun _ => trivial, fun _ _ => trivial, fun _ _ => trivial⟩

theorem releasable_open (standard : store.Standard) (open_ : store.IsOpen (some scope)) :
    Releasable (fun _ _ _ => True) (fun failure => failure.isExpiry = false) (some scope) store referent := by
  intro now grows
  obtain ⟨name, isStatic, opened⟩ := (open_.grows grows) scope rfl
  have given := toOwned_ends (standard.grows grows) referent
  unfold Releases Ends
  rw [show release (some scope) referent now = toOwned referent now from bind_of_ok (checkScope_open opened)]
  exact given.mono (fun _ _ grows' => ⟨grows', trivial, trivial⟩) fun _ _ quiet => ⟨by simp, quiet⟩

/-- What releases nothing in a closed scope expires if there is something to release. -/
theorem Releases.expires_iff {run : Run Value} (releases : Releases (fun _ referents _ => referents = [])
    (fun failure => failure.isExpiry = true) run store referents fun _ => True) : Expires run store ↔ referents ≠ [] := by
  constructor
  · rintro ⟨name, after, ran⟩
    exact (Ends.failure releases ran).1
  · intro some_
    cases ran : run store with
    | ok result after => exact absurd (Ends.result releases ran).2.1 some_
    | error failure after =>
      have expiry := (Ends.failure releases ran).2
      cases failure with
      | expired name => exact ⟨name, after, ran⟩
      | _ => cases expiry

theorem Kind.onSide_onSide (kind : Kind) (side other : Side) : (kind.onSide other).onSide side = kind.onSide side := by
  cases kind <;> rfl

def Store.waysBack (store : Store) (view : Value) : List (Run Value) :=
  let source := (store.kindOf view).onSide .source
  [invoke view "unbutcher" [], invoke (.kind source) "unbutcher" [view], invoke (.kind source.base) "unbutcher" [view]]

/-- All ways back release what the pointers of the view refer to. -/
theorem waysBack_releases {tracks : Store → List Value → Store → Prop} {reason : Failure → Prop}
    (tracking : Tracking tracks) {scope? : Option Value} (named : store.units.WellNamed)
    (shows_ : store.Shows scope? layers view referents) (few : layers ≤ store.objects.size + 1)
    (able : ∀ referent ∈ referents, Releasable tracks reason scope? store referent) :
    ∀ run ∈ store.waysBack view, Releases tracks reason run store referents fun _ => True := by
  cases layers with
  | zero => exact shows_.elim
  | succ layers =>
    have rebuilt := rebuild_releases tracking named shows_ able
      (show 2 * (layers + 1) + 1 ≤ 2 * (store.objects.size + 8) by omega)
    obtain ⟨kind, layer⟩ := shows_
    have made (maker : Kind) (chosen : maker = kind.onSide .source ∨ maker = (kind.onSide .source).base) :
        Releases tracks reason (invoke (.kind maker) "unbutcher" [view]) store referents fun _ => True := by
      have own := putTogether_releases tracking named layer able chosen
        (show 2 * layers + 2 ≤ 2 * (store.objects.size + 8) by omega)
      obtain ⟨forms, ordinary, -, -, -⟩ := layer
      exact own.congr (invoke_unbutcher_kind forms named ordinary.generated chosen)
    obtain ⟨forms, ordinary, shown, slots, -⟩ := layer
    have kindOf : (store.kindOf view).onSide .source = kind.onSide .source := by
      rw [Store.kindOf_of_object? shown]
      exact kind.onSide_onSide _ _
    intro run member
    rw [Store.waysBack, kindOf] at member
    simp only [List.mem_cons, List.not_mem_nil, or_false] at member
    rcases member with rfl | rfl | rfl
    · exact rebuilt.congr (invoke_unbutcher_view forms named (ordinary.slots forms) shown slots)
    · exact made _ (.inl rfl)
    · exact made _ (.inr rfl)

theorem waysBack_closed (named : store.units.WellNamed) (shows_ : store.Shows (some scope) layers view referents)
    (few : layers ≤ store.objects.size + 1) (closed : store.IsClosed scope) :
    ∀ run ∈ store.waysBack view, Expires run store ↔ store.HoldsLoan view := by
  intro run member
  rw [holdsLoan_iff shows_]
  exact (waysBack_releases tracking_closed named shows_ few (fun _ _ => releasable_closed closed) run member).expires_iff

theorem waysBack_open (named : store.units.WellNamed) (standard : store.Standard)
    (shows_ : store.Shows (some scope) layers view referents) (few : layers ≤ store.objects.size + 1)
    (open_ : store.IsOpen (some scope)) : ∀ run ∈ store.waysBack view, ¬ Expires run store := by
  intro run member
  have releases := waysBack_releases tracking_open named shows_ few (fun _ _ => releasable_open standard open_) run
    member
  exact Ends.not_expires releases fun _ _ => And.right

end

end CowView.Live
