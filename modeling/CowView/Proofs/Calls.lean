import CowView.Proofs.Evolution

/-!
Calls evolve the store, however deep they are nested: none of them changes a pointer, a view or another
instance, or opens a scope again.
-/

namespace CowView.Live

namespace Evolving

/-! ### Listings and equality -/

theorem isOpen (scope : Value) : Evolving (Live.isOpen scope) := by
  refine (Evolving.object? scope).bind fun found => ?_
  split
  · exact .pure _
  · exact .misuse _

theorem describeObject {describe : Value → Run String} (each : ∀ value, Evolving (describe value))
    (object : Object) : Evolving (Live.describeObject describe object) := by
  unfold Live.describeObject
  split
  all_goals try exact .pure _
  · exact (mapM each _).bind fun _ => .pure _
  · exact (each _).bind fun _ => .pure _
  · exact (mapM each _).bind fun _ => .pure _
  · exact (mapM (fun _ => (each _).bind fun _ => (each _).bind fun _ => .pure _) _).bind fun _ =>
      .pure _
  · exact (each _).bind fun _ => .pure _
  · exact (each _).bind fun _ => .pure _
  · exact (isOpen _).bind fun _ => .ite ((each _).bind fun _ => .pure _) (.pure _)
  · refine Evolving.get.bind fun store => ?_
    split
    all_goals try exact (each _).bind fun _ => .pure _
    all_goals try exact (mapM (fun _ => (each _).bind fun _ => .pure _) _).bind fun _ => .pure _
    exact .pure _

theorem describeWithin (steps : Nat) (outer : List Value) (value : Value) :
    Evolving (Live.describeWithin steps outer value) := by
  induction steps generalizing outer value with
  | zero => exact .misuse _
  | succ steps ih =>
    unfold Live.describeWithin
    split
    all_goals try exact .pure _
    · exact Evolving.get.bind fun _ => .pure _
    · refine (Evolving.object? _).bind fun found => ?_
      split
      · exact .pure _
      · split
        · exact .pure _
        · exact describeObject (ih _) _

theorem describe (value : Value) : Evolving (Live.describe value) :=
  Evolving.depth.bind fun steps => describeWithin steps [] value

theorem standsFor (object : Object) : Evolving (Live.standsFor object) := by
  unfold Live.standsFor
  split
  · exact .pure _
  · exact (checkScope _).bind fun _ => .pure _
  · exact .misuse _
  · exact .misuse _

theorem itemsEqual {equal : Value → Value → Run Bool}
    (each : ∀ left right, Evolving (equal left right)) (lefts rights : List Value) :
    Evolving (Live.itemsEqual equal lefts rights) := by
  induction lefts generalizing rights with
  | nil => cases rights <;> exact .pure _
  | cons left lefts ih =>
    cases rights with
    | nil => exact .pure _
    | cons right rights =>
      exact .ite (ih rights) ((each left right).bind fun _ => .ite (ih rights) (.pure _))

theorem entriesEqual {equal : Value → Value → Run Bool}
    (each : ∀ left right, Evolving (equal left right)) (others entries : List (Value × Value)) :
    Evolving (Live.entriesEqual equal others entries) := by
  induction entries with
  | nil => exact .pure _
  | cons entry rest ih =>
    refine Evolving.get.bind fun store => ?_
    split
    · exact .pure _
    · exact .ite ih ((each _ _).bind fun _ => .ite ih (.pure _))

theorem equalWithin (steps : Nat) (left right : Value) :
    Evolving (Live.equalWithin steps left right) := by
  induction steps generalizing left right with
  | zero => exact .misuse _
  | succ steps ih =>
    refine Evolving.get.bind fun store => ?_
    split
    · exact .ite (itemsEqual ih _ _) (.pure _)
    · exact itemsEqual ih _ _
    · exact .ite (entriesEqual ih _ _) (.pure _)
    · exact ih _ _
    · refine .ite (.pure _) ?_
      split
      all_goals try exact itemsEqual ih _ _
      all_goals try exact ih _ _
      exact .pure _
    · exact .ite ((standsFor _).bind fun _ => .misuse _) (.pure _)
    · exact .ite ((standsFor _).bind fun _ => (standsFor _).bind fun _ => ih _ _) (.pure _)
    · exact .pure _

theorem equal (left right : Value) : Evolving (Live.equal left right) :=
  Evolving.depth.bind fun steps => equalWithin steps left right

/-! ### Members -/

theorem readProperty (property : Property) (value : Value) : Evolving (property.read value) := by
  refine Evolving.get.bind fun store => ?_
  split
  · split <;> first | exact .pure _ | exact .misuse _
  · exact .pure _
  · exact (checkScope _).bind fun _ => .pure _
  · exact .pure _
  · exact .pure _
  · exact .pure _
  · exact .misuse _

theorem onKind (found : Member) (kind : Kind) : Evolving (found.onKind kind) := by
  cases found <;> first | exact .pure _ | exact .create _

theorem onValue (found : Member) (value : Value) (kind : Kind) : Evolving (found.onValue value kind) := by
  cases found with
  | method found => exact .pure _
  | property property => exact readProperty property value
  | slot => exact .misuse _
  | constant shown => exact onKind (.constant shown) kind
  | texts shown => exact onKind (.texts shown) kind
  | kindMethod found => exact onKind (.kindMethod found) kind

theorem member? (value : Value) (name : String) : Evolving (Live.member? value name) := by
  refine Evolving.get.bind fun store => ?_
  split
  · split
    · exact (onKind _ _).bind fun _ => .pure _
    · exact .pure _
  · dsimp only
    split
    · exact (readProperty _ _).bind fun _ => .pure _
    · exact .pure _
    · exact (onValue _ _ _).bind fun _ => .pure _
    · exact .pure _

theorem member (value : Value) (name : String) : Evolving (Live.member value name) := by
  refine (member? value name).bind fun found => ?_
  split
  · exact .pure _
  · exact .misuse _

theorem callable? (value : Value) (name : String) : Evolving (Live.callable? value name) :=
  (member? value name).bind fun _ => .pure _

/-! ### Ownership and pointers -/

theorem ownedFromWindow (window : Value) : Evolving (Live.ownedFromWindow window) := by
  refine Evolving.get.bind fun store => ?_
  split
  · exact .ite (.create _) (.pure _)
  · exact .misuse _

theorem conversion (conversion : Conversion) (value : Value) :
    Evolving (conversion.apply value) := by
  cases conversion with
  | identity => exact .pure _
  | wrapInList => exact .create _
  | upper =>
    refine (Evolving.object? value).bind fun found => ?_
    split
    · exact .pure _
    · exact .pure _
    · exact .create _
    · exact .misuse _
  | content => exact member value "value"
  | first => exact item value _
  | negate =>
    rw [Conversion.apply]
    split
    · exact .pure _
    · exact .misuse _
  | length =>
    refine Evolving.get.bind fun store => ?_
    split
    · exact .pure _
    · exact .misuse _
  | toList => exact (collect value).bind fun _ => .create _
  | window => exact createWindow value
  | viewed => exact ownedFromWindow value

theorem toOwned (value : Value) : Evolving (Live.toOwned value) := by
  refine Evolving.get.bind fun store => ?_
  split
  · exact conversion _ value
  · exact clone value

theorem answerCow (form : CowForm) (request : CowRequest) (pointer : Value) :
    Evolving (Live.answerCow form request pointer) := by
  refine (Evolving.object? pointer).bind fun found => ?_
  split
  · exact .misuse _
  · exact .pure _
  · exact .pure _
  · exact (checkScope _).bind fun _ => .pure _
  · exact (checkScope _).bind fun _ => toOwned _
  · exact (checkScope _).bind fun _ => (toOwned _).bind fun _ => .create _
  · exact .misuse _

theorem isOwned (pointer : Value) : Evolving (Live.isOwned pointer) :=
  Evolving.get.bind fun _ => (member pointer "is_owned").bind fun _ => .pure _

theorem createBorrowed (referent scope : Value) : Evolving (Live.createBorrowed referent scope) :=
  Evolving.get.bind fun _ => .create _

theorem isFlattenable (value : Value) : Evolving (Live.isFlattenable value) := by
  refine Evolving.get.bind fun store => ?_
  split
  · exact .pure _
  · exact (callable? value _).bind fun _ => (callable? value _).bind fun _ => .pure _

theorem openScope (name : Option String) : Evolving (Live.openScope name) := by
  unfold Live.openScope
  split
  · exact .create _
  · have counted : ∀ store : Store, store.Grows { store with numbered := store.numbered + 1 } :=
      fun _ => ⟨fun _ _ => id, rfl, rfl, rfl⟩
    exact fun store => .of_grows ((counted store).trans (.put _ _))

theorem closeScope (scope : Value) : Evolving (Live.closeScope scope) := by
  intro store
  refine .then (object?_apply scope store) ?_
  split
  next held => exact .write held (.closed _ _)
  · exact .refl store
  · exact .refl store

theorem isViewable (value : Value) : Evolving (Live.isViewable value) := by
  have both (holder : Value) : Evolving (do
      let first ← Live.callable? holder "butcher"
      let second ← Live.callable? holder "unbutcher"
      return first.isSome && second.isSome) :=
    (callable? holder _).bind fun _ => (callable? holder _).bind fun _ => .pure _
  unfold Live.isViewable
  split
  · exact both _
  · exact (Evolving.kindOf value).bind fun _ => both _

theorem requireFlattenable (value : Value) : Evolving (Live.requireFlattenable value) :=
  (isFlattenable value).bind fun _ => .ite (.pure _) (.unsatisfied _ _)

theorem unboxed (value : Value) : Evolving (Live.unboxed value) := by
  refine (Evolving.object? value).bind fun found => ?_
  split
  · exact .pure _
  · exact .unsatisfied _ _

/-! ### Instances -/

theorem bindArguments (arguments : Arguments) (kind : Kind) (parameters : List (String × Option Member)) :
    Evolving (arguments.bind kind parameters) := by
  unfold Arguments.bind
  refine .ite ?_ (.misuse _)
  split
  · exact .mapM (fun found => onKind found kind) _
  · exact .misuse _

theorem bytesOf (value : Value) : Evolving (Live.bytesOf value) := by
  unfold Live.bytesOf
  split
  · exact .misuse _
  · exact .ite (.pure _) (.misuse _)
  · exact (collect _).bind fun _ => mapM (byteOf _) _

theorem createCollection (kind : Kind) (source : Option Value) :
    Evolving (Live.createCollection kind source) := by
  have items : Evolving ((source.map Live.collect).getD (Pure.pure [])) := by
    cases source with
    | none => exact .pure _
    | some value => exact collect value
  have content : Evolving ((source.map Live.bytesOf).getD (Pure.pure [])) := by
    cases source with
    | none => exact .pure _
    | some value => exact bytesOf value
  unfold Live.createCollection
  split
  · exact items.bind fun _ => .create _
  · exact items.bind fun _ => .create _
  · exact content.bind fun _ => .pure _
  · exact content.bind fun _ => .create _
  · exact .misuse _

theorem construct (kind : Kind) (arguments : Arguments) :
    Evolving (Live.construct kind arguments) := by
  unfold Live.construct
  split
  iterate 2
    · exact Evolving.get.bind fun _ => (bindArguments _ _ _).bind fun _ => .ite (.misuse _) (.create _)
  iterate 6
    · exact (bindArguments _ _ _).bind fun _ => .create _
  · refine (bindArguments _ _ _).bind fun values => ?_
    split
    · exact .create _
    · exact .misuse _
  · refine (bindArguments _ _ _).bind fun values => ?_
    split
    · exact .create _
    · exact .misuse _
  · refine (bindArguments _ _ _).bind fun values => ?_
    split
    · exact createBorrowed _ _
    · exact .misuse _
  · refine (bindArguments _ _ _).bind fun values => ?_
    split
    · exact openScope _
    · exact Evolving.get.bind fun _ => .ite ((describe _).bind fun _ => openScope _) (openScope _)
    · exact .misuse _
  · refine (bindArguments _ _ _).bind fun values => ?_
    split
    · exact .create _
    · exact .misuse _
  · refine (bindArguments _ _ _).bind fun values => ?_
    split
    · exact createWindow _
    · exact .misuse _
  · split
    · exact (Evolving.kindOf _).bind fun _ => .pure _
    · exact .misuse _
  · split
    · exact .pure _
    · exact .pure _
    · exact (describe _).bind fun _ => .pure _
    · exact .misuse _
  · split
    · exact .pure _
    · exact Evolving.get.bind fun _ => .pure _
    · exact .misuse _
  · split
    · exact .pure _
    · split
      · exact .pure _
      · exact .misuse _
    · exact .misuse _
  iterate 4
    · split
      · exact createCollection _ _
      · exact createCollection _ _
      · exact .misuse _
  · split
    · exact .create _
    · exact .misuse _
  all_goals first
    | exact .misuse _
    | split <;> first | exact .pure _ | exact .create _ | exact .misuse _

/-! ### Functions that call -/

section

variable {call : Call} (calls : ∀ callee arguments, Evolving (call callee arguments))

include calls

theorem deref (value : Value) : Evolving (Live.deref call value) := by
  refine Evolving.get.bind fun store => ?_
  split
  · exact conversion _ value
  · refine (callable? value "deref").bind fun found => ?_
    split
    · exact calls _ _
    · exact .unsatisfied _ _

theorem intoTarget (value : Value) : Evolving (Live.intoTarget call value) := by
  refine Evolving.get.bind fun store => ?_
  split
  · exact conversion _ value
  · exact .pure _
  · refine (callable? value "into_target").bind fun found => ?_
    split
    · exact calls _ _
    · exact (callable? value "deref").bind fun _ => .ite (.pure _) (.unsatisfied _ _)

theorem ask (pointer : Value) (request : String) : Evolving (Live.ask call pointer request) :=
  (member pointer request).bind fun _ => calls _ _

theorem asDeref (pointer : Value) : Evolving (Live.asDeref call pointer) := by
  refine (isOwned pointer).bind fun owned => .ite ?_ ?_
  · exact (ask calls _ _).bind fun _ => (intoTarget calls _).bind fun _ => .create _
  · exact (member _ _).bind fun _ => (deref calls _).bind fun _ => (member _ _).bind fun _ =>
      createBorrowed _ _

theorem unnest (pointer : Value) : Evolving (Live.unnest call pointer) := by
  have rest (inner : Value) : Evolving (do
      Live.create (.owned (← Live.toOwned (← Live.ask call inner "get")))) :=
    (ask calls _ _).bind fun _ => (toOwned _).bind fun _ => .create _
  refine (ask calls _ _).bind fun inner => (isOwned pointer).bind fun owned => .ite ?_ (rest inner)
  exact (isOwned inner).bind fun _ => .ite (.pure _) (rest inner)

theorem cowIter (pointer : Value) : Evolving (Live.cowIter call pointer) := by
  refine (isOwned pointer).bind fun owned => .ite ?_ ?_
  · exact (ask calls _ _).bind fun _ => (iterate _).bind fun _ => .create _
  · exact (member _ _).bind fun _ => (iterate _).bind fun _ => (member _ _).bind fun _ => .create _

theorem nestedView (value : Value) {pointer : Run Value} (pointing : Evolving pointer) :
    Evolving (Live.nestedView call value pointer) := by
  have rest : Evolving (do
      let maker ← Live.member (.kind (← Live.kindOf value)) "butcher"
      call.on maker [← pointer]) :=
    (Evolving.kindOf value).bind fun _ => (member _ _).bind fun _ => pointing.bind fun _ => calls _ _
  exact (isViewable value).bind fun _ => .ite rest ((Evolving.unsatisfied _ _).bind fun _ => rest)

theorem viewOwned (strategy : Strategy) (value : Value) :
    Evolving (Live.viewOwned call strategy value) := by
  cases strategy with
  | regular => exact .create _
  | copy => exact .pure _
  | flatten => exact (requireFlattenable _).bind fun _ => (Evolving.create _).bind fun _ => asDeref calls _
  | unbox => exact (unboxed _).bind fun _ => .create _
  | nested => exact nestedView calls value (.create _)

theorem viewBorrowed (strategy : Strategy) (value scope : Value) :
    Evolving (Live.viewBorrowed call strategy value scope) := by
  cases strategy with
  | regular => exact createBorrowed _ _
  | copy => exact clone _
  | flatten =>
    exact (requireFlattenable _).bind fun _ => (createBorrowed _ _).bind fun _ => asDeref calls _
  | unbox => exact (unboxed _).bind fun _ => createBorrowed _ _
  | nested => exact nestedView calls value (createBorrowed _ _)

theorem giveBack (strategy : Strategy) (output : Value) :
    Evolving (Live.giveBack call strategy output) := by
  cases strategy with
  | regular => exact ask calls _ _
  | flatten => exact ask calls _ _
  | copy => exact .pure _
  | unbox => exact (ask calls _ _).bind fun _ => .create _
  | nested =>
    refine (callable? output "unbutcher").bind fun found => ?_
    split
    · exact calls _ _
    · exact .unsatisfied _ _

theorem viewArguments (owned : Bool) (pointer value : Value) (fields : List FieldView) :
    Evolving (Live.viewArguments call owned pointer value fields) := by
  refine mapM (fun field => (member _ _).bind fun _ => .ite ?_ ?_) fields
  · exact (viewOwned calls _ _).bind fun _ => .pure _
  · exact (member _ _).bind fun _ => (viewBorrowed calls _ _ _).bind fun _ => .pure _

theorem sourceArguments (view : Value) (fields : List FieldView) :
    Evolving (Live.sourceArguments call view fields) :=
  mapM (fun _ => (member _ _).bind fun _ => (giveBack calls _ _).bind fun _ => .pure _) fields

omit calls in
theorem variantOf (discriminant : Value) (variants : List VariantView) :
    Evolving (Live.variantOf discriminant variants) := by
  induction variants with
  | nil => exact .pure _
  | cons variant rest ih => exact (equal _ _).bind fun _ => .ite (.pure _) ih

theorem takeApart (unit position : Nat) (receiver pointer : Value) :
    Evolving (Live.takeApart call unit position receiver pointer) := by
  refine Evolving.get.bind fun store => ?_
  dsimp only
  split
  · exact .misuse _
  · refine (isOwned pointer).bind fun owned => ?_
    have rest (value : Value) (fields : List FieldView) (maker : Value) : Evolving (do
        call maker ⟨[], ← Live.viewArguments call owned pointer value fields⟩) :=
      (viewArguments calls _ _ _ _).bind fun _ => calls _ _
    -- The value comes from a call or from a member, and what is made of it is the same.
    refine .ite ((ask calls _ _).bind fun value => ?_) ((member _ _).bind fun value => ?_)
    all_goals
      split
      · exact rest _ _ _
      · refine (member _ _).bind fun discriminant => (variantOf _ _).bind fun found => ?_
        split
        · exact .unsatisfied _ _
        · exact (member _ _).bind fun _ => rest _ _ _

theorem putTogether (unit position : Nat) (receiver output : Value) :
    Evolving (Live.putTogether call unit position receiver output) := by
  refine Evolving.get.bind fun store => ?_
  dsimp only
  split
  · exact .misuse _
  · split
    · exact (sourceArguments calls _ _).bind fun _ => calls _ _
    · refine (member _ _).bind fun discriminant => (variantOf _ _).bind fun found => ?_
      split
      · exact .unsatisfied _ _
      · exact (member _ _).bind fun _ => (sourceArguments calls _ _).bind fun _ => calls _ _

theorem rebuild (output : Value) : Evolving (Live.rebuild call output) :=
  (member _ _).bind fun _ => .ite (.unsatisfied _ _) ((member _ _).bind fun _ => calls _ _)

omit calls in
theorem findEntry (receiver key other : Value) : Evolving (Live.findEntry receiver key other) := by
  refine (Evolving.object? receiver).bind fun found => ?_
  split
  · exact (requireKey _).bind fun _ => Evolving.get.bind fun _ => .pure _
  · exact .misuse _

theorem callMethod (method : Method) (receiver : Value) (arguments : List Value) :
    Evolving (Live.callMethod call method receiver arguments) := by
  unfold Live.callMethod
  dsimp only
  split
  · exact answerCow _ _ _
  · exact (checkScope _).bind fun _ => .pure _
  · exact (closeScope _).bind fun _ => .pure _
  · exact .pure _
  · exact .misuse _
  · split
    · exact takeApart calls _ _ _ _
    · exact .misuse _
  · split
    · exact putTogether calls _ _ _ _
    · exact .misuse _
  · exact rebuild calls _
  · exact member _ _
  · exact (member _ _).bind fun _ => .create _
  · exact cowIter calls _
  · exact .pure _
  · exact advance _
  · exact (append _ _).bind fun _ => .pure _
  · refine Evolving.get.bind fun store => ?_
    split
    · exact .pure _
    · exact .misuse _
  · exact findEntry _ _ _
  · exact findEntry _ _ _
  · split
    · exact .create _
    · exact .misuse _
  · exact .misuse _

theorem callFunction (function : Function) (arguments : List Value) :
    Evolving (Live.callFunction call function arguments) := by
  unfold Live.callFunction
  split
  · exact unnest calls _
  · exact asDeref calls _
  · exact cowIter calls _
  · exact clone _
  · exact toOwned _
  · exact deref calls _
  · exact intoTarget calls _
  · exact (isFlattenable _).bind fun _ => .pure _
  · exact (isViewable _).bind fun _ => .pure _
  · exact (Evolving.kindOf _).bind fun _ => .pure _
  · exact .misuse _
  · exact .misuse _
  · exact viewOwned calls _ _
  · exact viewBorrowed calls _ _ _
  · exact viewBorrowed calls _ _ _
  · exact giveBack calls _ _
  · exact callMethod calls _ _ _
  · exact .misuse _

theorem callOnce (callee : Value) (arguments : Arguments) :
    Evolving (Live.callOnce call callee arguments) := by
  unfold Live.callOnce
  split
  · exact construct _ _
  · exact .ite (callFunction calls _ _) (.misuse _)
  · exact .ite (callMethod calls _ _ _) (.misuse _)
  · exact .misuse _

end

theorem callWithin (steps : Nat) (callee : Value) (arguments : Arguments) :
    Evolving (Live.callWithin steps callee arguments) := by
  induction steps generalizing callee arguments with
  | zero => exact .misuse _
  | succ steps ih => exact callOnce ih callee arguments

/-- No call changes anything else of an object than a collection can, an iterator or a scope. -/
theorem call (callee : Value) (arguments : Arguments) : Evolving (Live.call callee arguments) :=
  Evolving.depth.bind fun _ => callWithin _ callee arguments

end Evolving

end CowView.Live
