import CowView.Proofs.Instances

/-!
Crossing between the two sides of a declaration. The functions between the sides do what they are for if the
declaration is ordinary: they are the generated ones, no name of it is that of a variable of these functions, and as
they are compiled, its names are still the names of its own classes, variants and fields. `takeApart_eq`,
`putTogether_eq` and `rebuild_eq` say which arguments are passed to which constructor then.
-/

namespace CowView

/-- A name of the declaration is taken for that of a variable of its functions, or may be taken for one that
the module keeps to itself. A record is made by the name of its view only; a union is made by its own name
when it comes back. -/
def View.isCaptured (view : View) : Bool :=
  (view.nameOn .view).toList.head? = some '_' || match view.body with
    | .record _ => view.nameOn .view ∈ ["cls", "this", "value"]
    | .union _ => view.nameOn .view ∈ ["cls", "this", "value", "discriminant"] ||
        view.nameOn .source ∈ ["view", "discriminant"]

theorem View.free_names {view : View} (free : view.isCaptured = false) :
    match view.body with
    | .record _ => view.nameOn .view ∉ ["cls", "this", "value"]
    | .union _ => view.nameOn .view ∉ ["cls", "this", "value", "discriminant"] ∧
        view.nameOn .source ∉ ["view", "discriminant"] := by
  unfold isCaptured at free
  rw [Bool.or_eq_false_iff] at free
  obtain ⟨-, free⟩ := free
  split
  next shown => simpa [shown] using free
  next shown =>
    rw [shown] at free
    simpa [not_or, and_assoc] using free

namespace Live

def Kind.variantOf? (view : View) : Kind → Option VariantView
  | variant _ _ _ index => view.body.variants[index]?
  | _ => none

/-- The sides on which the functions of a declaration name its class: a record is made by the class that is asked. -/
def Kind.namedSides : Kind → List Side
  | variant .. => [.view, .source]
  | _ => [.view]

/-- The names of a declaration are kept when its text is compiled: no field has that of another member that instances
are asked for, a variant has its own, and no other class has taken one that its functions are written with. -/
structure Units.KeepsNames (units : Units) (kind : Kind) (loaded : Loaded) : Prop where
  slots : ∀ field ∈ units.fields kind, field.slot ∉ kind.asked
  variant : ∀ variant ∈ kind.variantOf? loaded.view, Text.identifier variant.variant.name = variant.variant.name
  classes : ∀ place ∈ kind.place?, ∀ side ∈ kind.namedSides,
    units.classNamed? place.1 (loaded.view.nameOn side) = some (kind.onSide side).base

/-- The functions between the two sides of a declaration are the generated ones, and its names are free and kept. -/
structure Units.Ordinary (units : Units) (kind : Kind) (loaded : Loaded) : Prop where
  generated : loaded.inPlace = none
  free : loaded.view.isCaptured = false
  keeps : units.KeepsNames kind loaded

theorem Units.Ordinary.slots {units : Units} {kind : Kind} {loaded : Loaded} {fields : List FieldView}
    (ordinary : units.Ordinary kind loaded) (forms : units.Forms kind loaded fields) :
    ∀ field ∈ fields, field.slot ∉ kind.asked := forms.fields_eq ▸ ordinary.keeps.slots

theorem nameIn_eq {locals : List (String × Value)} {units : Units} {unit : Nat} {name : String} {own : Kind}
    (free : name ∉ locals.map (·.1)) (found : units.classNamed? unit name = some own) :
    nameIn locals units unit name own = .kind own := by
  have none : locals.lookup name = none := by
    rw [List.lookup_eq_none_iff]
    intro entry member
    have different : name ≠ entry.1 := by
      rintro rfl
      exact free (List.mem_map_of_mem member)
    simpa using different
  rw [nameIn, none, found]
  rfl

def invoke (holder : Value) (name : String) (arguments : List Value) : Run Value := do
  call (← member holder name) ⟨arguments, []⟩

section

variable {store : Store} {kind : Kind} {loaded : Loaded} {fields : List FieldView} {value view pointer : Value}
  {attributes viewed : List (String × Value)} {scope? : Option Value}

/-! ### From instances to views -/

/-- The arguments made of an instance go to the constructor of its view. -/
theorem takeApart_eq (forms : store.units.Forms kind loaded fields) (named : store.units.WellNamed)
    (ordinary : store.units.Ordinary kind loaded)
    (held : store.object? value = some (.entity (kind.onSide .source) attributes))
    (slots : attributes.map (·.1) = fields.map (·.slot))
    (lent : store.object? pointer = some (.pointing scope? value)) (open_ : store.IsOpen scope?) (steps : Nat) :
    callWithin (steps + 2) (.bound (.kind (kind.onSide .source)) .takeApart) ⟨[pointer], []⟩ store =
      (viewArguments (callWithin (steps + 1)) scope?.isNone pointer value fields >>= fun entries =>
        callWithin (steps + 1) (.kind (kind.onSide .view)) ⟨[], entries⟩) store := by
  have names := forms.named named
  have free := View.free_names ordinary.free
  have apart := ordinary.slots forms
  cases forms with
  | @record unit position own loaded fields found body =>
    have view_ : store.units.classNamed? unit (loaded.view.nameOn .view) = some (.record unit position .view) :=
      ordinary.keeps.classes _ rfl .view (by simp [Kind.namedSides])
    rw [body] at free
    show Live.takeApart (callWithin (steps + 1)) unit position (.kind (.record unit position .source))
      pointer store = _
    rw [Live.takeApart, get_bind]
    simp only [found, body]
    rw [bind_of_ok (isOwned_pointing lent)]
    refine (read_pointing lent open_ steps _).trans ?_
    rw [nameIn_eq (by simpa using free) view_]
    rfl
  | @variant unit position index own loaded variants variant found body chosen =>
    have kept := ordinary.keeps.variant variant (by simp [Kind.variantOf?, body, ViewBody.variants, chosen])
    have view_ : store.units.classNamed? unit (loaded.view.nameOn .view) = some (.union unit position .view) :=
      ordinary.keeps.classes _ rfl .view (by simp [Kind.namedSides])
    have discriminant := member_discriminant found body chosen names apart held slots
    rw [body] at free names
    show Live.takeApart (callWithin (steps + 1)) unit position
      (.kind (.variant unit position .source index)) pointer store = _
    rw [Live.takeApart, get_bind]
    simp only [found, body]
    rw [bind_of_ok (isOwned_pointing lent)]
    refine (read_pointing lent open_ steps _).trans ?_
    rw [bind_of_ok discriminant, bind_of_ok (variantOf_apply names.1.distinct
      (List.mem_of_getElem? chosen) store)]
    dsimp only
    rw [nameIn_eq (by simpa using free.1) view_, kept,
      bind_of_ok (member_variant found body chosen (named _ _ _ found) rfl)]
    rfl

theorem nestedView_apply (forms : store.units.Forms kind loaded fields)
    (named : store.units.WellNamed) (free : loaded.inPlace = none)
    (held : store.object? value = some (.entity (kind.onSide .source) attributes)) {call : Call}
    {pointing : Run Value} {after : Store} (made : pointing store = .ok pointer after) :
    nestedView call value pointing store =
      call (.bound (.kind (kind.onSide .source)) .takeApart) ⟨[pointer], []⟩ after := by
  have names := forms.named named
  have kindOf_value : store.kindOf value = kind.onSide .source := Store.kindOf_of_object? held
  have known := kindMember?_butcher forms names
  have known' := kindMember?_unbutcher forms names (.inl rfl)
  rw [free] at known known'
  have butcher := member?_onKind known rfl
  have unbutcher := member?_onKind known' rfl
  have viewable : isViewable value store = .ok true store := by
    have both : (do
        let first ← callable? (.kind (kind.onSide .source)) "butcher"
        let second ← callable? (.kind (kind.onSide .source)) "unbutcher"
        return first.isSome && second.isSome : Run Bool) store = .ok true store := by
      rw [bind_of_ok (callable?_of_member? butcher), bind_of_ok (callable?_of_member? unbutcher)]
      rfl
    cases value with
    | object address =>
      rw [← kindOf_value] at both
      exact both
    | _ => cases held
  rw [nestedView, bind_of_ok viewable]
  show (Live.kindOf value >>= fun kind => member (.kind kind) "butcher" >>= fun maker =>
    pointing >>= fun pointer => call.on maker [pointer]) store = _
  rw [bind_of_ok (kindOf_apply value store), kindOf_value, bind_of_ok (member_of_member? butcher),
    bind_of_ok made]
  rfl

/-! ### From views to instances -/

/-- The arguments made of a view go to the constructor of its instance, whether the kind of the instance or
that of its declaration is asked. -/
theorem putTogether_eq (forms : store.units.Forms kind loaded fields) (named : store.units.WellNamed)
    (ordinary : store.units.Ordinary kind loaded)
    (shown : store.object? view = some (.entity (kind.onSide .view) viewed))
    (slots : viewed.map (·.1) = fields.map (·.slot)) {maker : Kind}
    (chosen : maker = kind.onSide .source ∨ maker = (kind.onSide .source).base) (steps : Nat) :
    callWithin (steps + 1) (.bound (.kind maker) .putTogether) ⟨[view], []⟩ store =
      (sourceArguments (callWithin steps) view fields >>= fun entries =>
        callWithin steps (.kind (kind.onSide .source)) ⟨[], entries⟩) store := by
  have names := forms.named named
  have free := View.free_names ordinary.free
  have apart := ordinary.slots forms
  cases forms with
  | @record unit position own loaded fields found body =>
    obtain rfl : maker = .record unit position .source := by simpa [Kind.onSide, Kind.base] using chosen
    show Live.putTogether (callWithin steps) unit position (.kind (.record unit position .source)) view
      store = _
    rw [Live.putTogether, get_bind]
    simp only [found, body]
    rfl
  | @variant unit position index own loaded variants variant found body chosen' =>
    have near : maker.base = .union unit position .source := by
      rcases chosen with rfl | rfl <;> rfl
    have place : maker.place? = some (unit, position) := by
      rcases chosen with rfl | rfl <;> rfl
    have taken : callWithin (steps + 1) (.bound (.kind maker) .putTogether) ⟨[view], []⟩ store =
        Live.putTogether (callWithin steps) unit position (.kind maker) view store := by
      show callMethod (callWithin steps) .putTogether (.kind maker) [view] store = _
      unfold callMethod
      simp only [place]
    have kept := ordinary.keeps.variant variant (by simp [Kind.variantOf?, body, ViewBody.variants, chosen'])
    have source : store.units.classNamed? unit (loaded.view.nameOn .source) = some (.union unit position .source) :=
      ordinary.keeps.classes _ rfl .source (by simp [Kind.namedSides])
    have discriminant := member_discriminant found body chosen' names apart shown slots
    rw [body] at free names
    have base : ∃ holder : Kind, holder.base = .union unit position .source ∧
        nameIn [("cls", .kind maker), ("view", view), ("discriminant", .text variant.variant.name)]
          store.units unit (loaded.view.nameOn .source) (.union unit position .source) = .kind holder := by
      by_cases cls : loaded.view.nameOn .source = "cls"
      · exact ⟨maker, near, by rw [cls]; rfl⟩
      · refine ⟨.union unit position .source, rfl, nameIn_eq ?_ source⟩
        have others := free.2
        simp only [List.mem_cons, List.not_mem_nil, or_false, not_or] at others
        simp [cls, others.1, others.2]
    obtain ⟨holder, near', base⟩ := base
    rw [taken, Live.putTogether, get_bind]
    simp only [found, body]
    rw [bind_of_ok discriminant, bind_of_ok (variantOf_apply names.1.distinct
      (List.mem_of_getElem? chosen') store)]
    simp only [base]
    rw [kept, bind_of_ok (member_variant found body chosen' (named _ _ _ found) near')]
    rfl

theorem rebuild_eq (forms : store.units.Forms kind loaded fields) (named : store.units.WellNamed)
    (ordinary : store.units.Ordinary kind loaded)
    (shown : store.object? view = some (.entity (kind.onSide .view) viewed))
    (slots : viewed.map (·.1) = fields.map (·.slot)) (steps : Nat) :
    callWithin (steps + 2) (.bound view .rebuild) ⟨[], []⟩ store =
      (sourceArguments (callWithin steps) view fields >>= fun entries =>
        callWithin steps (.kind (kind.onSide .source)) ⟨[], entries⟩) store := by
  have names := forms.named named
  have known := kindMember?_unbutcher forms names (.inr rfl)
  rw [ordinary.generated] at known
  have source := member_source forms names (ordinary.slots forms) shown slots
  have maker : Live.member (.kind (kind.onSide .source).base) "unbutcher" store =
      .ok (.bound (.kind (kind.onSide .source).base) .putTogether) store :=
    member_of_member? (member?_onKind known rfl)
  show Live.rebuild (callWithin (steps + 1)) view store = _
  rw [Live.rebuild, bind_of_ok source]
  simp only [reduceCtorEq, if_false]
  rw [bind_of_ok maker]
  exact putTogether_eq forms named ordinary shown slots (.inr rfl) steps

theorem giveBack_nested_eq (forms : store.units.Forms kind loaded fields) (named : store.units.WellNamed)
    (free : ∀ field ∈ fields, field.slot ∉ kind.asked)
    (shown : store.object? view = some (.entity (kind.onSide .view) viewed))
    (slots : viewed.map (·.1) = fields.map (·.slot)) (call : Call) :
    giveBack call .nested view store = call (.bound view .rebuild) ⟨[], []⟩ store := by
  have callable := callable?_of_member? (member?_unbutcher_view forms (forms.named named) free shown slots)
  rw [giveBack, bind_of_ok callable]
  rfl

/-! ### Calls from outside -/

theorem invoke_butcher (forms : store.units.Forms kind loaded fields) (named : store.units.WellNamed)
    (free : loaded.inPlace = none) :
    invoke (.kind (kind.onSide .source)) "butcher" [pointer] store =
      callWithin (2 * (store.objects.size + 8)) (.bound (.kind (kind.onSide .source)) .takeApart) ⟨[pointer], []⟩
        store := by
  have known := kindMember?_butcher forms (forms.named named)
  rw [free] at known
  rw [invoke, bind_of_ok (member_of_member? (member?_onKind known rfl))]
  rfl

theorem invoke_unbutcher_kind (forms : store.units.Forms kind loaded fields) (named : store.units.WellNamed)
    (free : loaded.inPlace = none) {maker : Kind}
    (chosen : maker = kind.onSide .source ∨ maker = (kind.onSide .source).base) :
    invoke (.kind maker) "unbutcher" [view] store =
      callWithin (2 * (store.objects.size + 8)) (.bound (.kind maker) .putTogether) ⟨[view], []⟩ store := by
  have known := kindMember?_unbutcher forms (forms.named named) chosen
  rw [free] at known
  rw [invoke, bind_of_ok (member_of_member? (member?_onKind known rfl))]
  rfl

theorem invoke_unbutcher_view (forms : store.units.Forms kind loaded fields) (named : store.units.WellNamed)
    (free : ∀ field ∈ fields, field.slot ∉ kind.asked)
    (shown : store.object? view = some (.entity (kind.onSide .view) viewed))
    (slots : viewed.map (·.1) = fields.map (·.slot)) :
    invoke view "unbutcher" [] store =
      callWithin (2 * (store.objects.size + 8)) (.bound view .rebuild) ⟨[], []⟩ store := by
  rw [invoke, bind_of_ok (member_of_member? (member?_unbutcher_view forms (forms.named named) free shown slots))]
  rfl

end

end Live

end CowView
