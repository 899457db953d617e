import CowView.Proofs.Crossing
import CowView.Proofs.Sessions

/-!
Declarations that are captured. The functions between the two sides of a declaration are the generated ones unless
its unit hides a name that the generated text takes for granted, and they do what they are for unless its own names
are taken for those of variables, or are no longer its own when its text is compiled. All of this is asked of an
instance and of all instances in its nested fields.
-/

namespace CowView.Live

namespace Store

/-- Something is the case with the declaration of an instance, or with that of an instance in one of its
nested fields. -/
inductive Involves (store : Store) (holds : Kind → Loaded → Prop) : Value → Prop
  | here {value : Value} {kind : Kind} {loaded : Loaded} {fields : List FieldView}
    {attributes : List (String × Value)} (forms : store.units.Forms kind loaded fields)
    (held : store.object? value = some (.entity (kind.onSide .source) attributes))
    (holds_ : holds kind loaded) : Involves store holds value
  | inside {value content : Value} {kind : Kind} {loaded : Loaded} {fields : List FieldView}
    {attributes : List (String × Value)} {field : FieldView}
    (forms : store.units.Forms kind loaded fields)
    (held : store.object? value = some (.entity (kind.onSide .source) attributes))
    (member : field ∈ fields) (nested : field.field.strategy = .nested)
    (own : attributes.lookup field.slot = some content) (inner : Involves store holds content) :
    Involves store holds value

/-- The declaration of an instance is not ordinary, or that of an instance in one of its nested fields. -/
def Captures (store : Store) (value : Value) : Prop :=
  store.Involves (fun kind loaded => ¬ store.units.Ordinary kind loaded) value

theorem Involves.mono {store : Store} {holds wider : Kind → Loaded → Prop} {value : Value}
    (involves : store.Involves holds value)
    (wide : ∀ kind loaded fields, store.units.Forms kind loaded fields → holds kind loaded → wider kind loaded) :
    store.Involves wider value := by
  induction involves with
  | here forms held holds_ => exact .here forms held (wide _ _ _ forms holds_)
  | inside forms held member nested own _ ih => exact .inside forms held member nested own ih

/-- An instance that captures nothing is one of an ordinary declaration. -/
theorem ordinary_of_not_captures {store : Store} {value : Value} {kind : Kind} {loaded : Loaded}
    {fields : List FieldView} {attributes : List (String × Value)} (free : ¬ store.Captures value)
    (forms : store.units.Forms kind loaded fields)
    (held : store.object? value = some (.entity (kind.onSide .source) attributes)) :
    store.units.Ordinary kind loaded := by
  by_contra other
  exact free (.here forms held other)

end Store

/-! ### Hidden names -/

def Units.Hides (units : Units) (kind : Kind) : Prop :=
  ∃ number position found, kind.place? = some (number, position) ∧ units[number]? = some found ∧
    ∃ other ∈ found.declarations, ∃ side, other.view.nameOn side = takenForGranted

theorem Units.not_hides {units : Units} (names : ∀ unit ∈ units, ∀ loaded ∈ unit.declarations,
    ∀ side, loaded.view.nameOn side ≠ takenForGranted) (kind : Kind) : ¬ units.Hides kind :=
  fun ⟨_, _, found, _, present, other, member, side, same⟩ =>
    names found (List.mem_of_getElem? present) other member side same

/-- Where no name is hidden, the functions of all declarations are the generated ones. -/
theorem Units.FromTexts.inPlace_eq_none {units : Units} {kind : Kind} {number position : Nat} {loaded : Loaded}
    (texts : units.FromTexts) (place : kind.place? = some (number, position))
    (found : units.loaded? number position = some loaded) (free : ¬ units.Hides kind) : loaded.inPlace = none := by
  obtain ⟨unit, present, at_⟩ := Option.bind_eq_some_iff.mp found
  obtain ⟨settings, text, views, -, from_⟩ := texts number unit present
  by_contra other
  refine from_.hidden position loaded at_ other (hidingKind?_eq_none (fun view member side same => free ?_) _ _)
  rw [← from_.resolved] at member
  obtain ⟨hiding_, inside, rfl⟩ := List.mem_map.mp member
  exact ⟨number, position, unit, place, present, hiding_, inside, side, same⟩

theorem Units.Forms.place {units : Units} {kind : Kind} {loaded : Loaded} {fields : List FieldView}
    (forms : units.Forms kind loaded fields) : ∃ number position, kind.place? = some (number, position) ∧
      units.loaded? number position = some loaded := by
  cases forms with
  | record found => exact ⟨_, _, rfl, found⟩
  | variant found => exact ⟨_, _, rfl, found⟩

theorem Store.Involves.declared {store : Store} {holds : Kind → Loaded → Prop} {value : Value}
    (involves : store.Involves holds value) :
    ∃ kind loaded fields, store.units.Forms kind loaded fields ∧ holds kind loaded := by
  induction involves with
  | here forms _ holds_ => exact ⟨_, _, _, forms, holds_⟩
  | inside _ _ _ _ _ _ ih => exact ih

/-- What keeps the functions between the two sides of a declaration from what they are for: a name that is hidden from
them, one that is captured, or one that is not kept. -/
def Units.Bars (units : Units) (kind : Kind) (loaded : Loaded) : Prop :=
  units.Hides kind ∨ loaded.view.isCaptured ∨ ¬ units.KeepsNames kind loaded

/-- Of what is loaded from texts, other values stand in the place of functions only where a name is hidden. -/
theorem Units.FromTexts.ordinary {units : Units} {kind : Kind} {loaded : Loaded} {fields : List FieldView}
    (texts : units.FromTexts) (forms : units.Forms kind loaded fields) (free : ¬ units.Bars kind loaded) :
    units.Ordinary kind loaded := by
  rw [Bars, not_or, not_or, not_not, Bool.not_eq_true] at free
  obtain ⟨number, position, place, found⟩ := forms.place
  exact ⟨texts.inPlace_eq_none place found free.1, free.2.1, free.2.2⟩

theorem Units.FromTexts.not_captures {store : Store} (texts : store.units.FromTexts) {value : Value}
    (free : ¬ store.Involves store.units.Bars value) : ¬ store.Captures value :=
  fun captures => free (captures.mono fun _ _ _ forms other => by_contra fun bars => other (texts.ordinary forms bars))

/-! ### Safe units -/

instance (units : Units) (kind : Kind) (loaded : Loaded) : Decidable (units.KeepsNames kind loaded) :=
  decidable_of_iff ((∀ field ∈ units.fields kind, field.slot ∉ kind.asked) ∧
      (∀ variant ∈ kind.variantOf? loaded.view, Text.identifier variant.variant.name = variant.variant.name) ∧
      ∀ place ∈ kind.place?, ∀ side ∈ kind.namedSides,
        units.classNamed? place.1 (loaded.view.nameOn side) = some (kind.onSide side).base)
    ⟨fun ⟨slots, variant, classes⟩ => ⟨slots, variant, classes⟩, fun keeps => ⟨keeps.1, keeps.2, keeps.3⟩⟩

def Units.areSafe (units : Units) : Bool :=
  units.zipIdx.all fun (unit, number) => unit.declarations.zipIdx.all fun (loaded, position) =>
    [Side.source, .view].all (fun side => loaded.view.nameOn side ≠ takenForGranted) && !loaded.view.isCaptured &&
      (constructedKinds loaded.view number position .source).all fun kind => units.KeepsNames kind loaded

theorem Units.KeepsNames.of_source {units : Units} {kind : Kind} {loaded : Loaded}
    (keeps : units.KeepsNames (kind.onSide .source) loaded) : units.KeepsNames kind loaded := by
  cases kind <;> exact ⟨keeps.slots, keeps.variant, keeps.classes⟩

theorem Units.Forms.constructed {units : Units} {kind : Kind} {loaded : Loaded} {fields : List FieldView}
    (forms : units.Forms kind loaded fields) : ∃ number position, units.loaded? number position = some loaded ∧
      kind.onSide .source ∈ constructedKinds loaded.view number position .source := by
  cases forms with
  | record found body => exact ⟨_, _, found, by simp [constructedKinds, body, Kind.onSide]⟩
  | variant found body chosen =>
    obtain ⟨inside, -⟩ := List.getElem?_eq_some_iff.mp chosen
    exact ⟨_, _, found, by simp [constructedKinds, body, Kind.onSide, inside]⟩

theorem Store.not_involves {store : Store} (safe : store.units.areSafe) (value : Value) :
    ¬ store.Involves store.units.Bars value := by
  have each {number position : Nat} {loaded : Loaded} (found : store.units.loaded? number position = some loaded) :=
    let ⟨unit, present, at_⟩ := Option.bind_eq_some_iff.mp found
    List.all_eq_true.mp (List.all_eq_true.mp safe (unit, number) (List.mem_zipIdx_iff_getElem?.mpr present))
      (loaded, position) (List.mem_zipIdx_iff_getElem?.mpr at_)
  intro involves
  obtain ⟨kind, loaded, fields, forms, bars⟩ := involves.declared
  obtain ⟨number, position, found, constructed⟩ := forms.constructed
  have own := each found
  simp only [Bool.and_eq_true, List.all_eq_true, decide_eq_true_eq, Bool.not_eq_true'] at own
  rcases bars with hides | captured | blurred
  · refine Units.not_hides (fun unit present other member side => ?_) kind hides
    obtain ⟨number, present⟩ := List.getElem?_of_mem present
    obtain ⟨position, at_⟩ := List.getElem?_of_mem member
    have found : store.units.loaded? number position = some other := Option.bind_eq_some_iff.mpr ⟨unit, present, at_⟩
    have names := each found
    simp only [Bool.and_eq_true, List.all_eq_true, decide_eq_true_eq] at names
    exact names.1.1 side (by cases side <;> decide)
  · rw [own.1.2] at captured
    cases captured
  · exact blurred (.of_source (own.2 _ constructed))

/-! ### Values that are lent -/

def lending (text : String) (path : List String) (arguments : List Expression) : Session :=
  [Step.load "m" text .default, .evaluate (some "v") (.call (.named ("m" :: path)) arguments []),
    .evaluate none (.apply (.enter "s" none) [.register "v"])].foldl Session.after {}

theorem lending_reached (text : String) (path : List String) (arguments : List Expression) :
    (lending text path arguments).Reached := .foldl _

/-- The store of a script that has loaded some declarations and made some objects, the last two of them a scope and
a pointer. -/
def Store.lending (declarations : List Declaration) (objects : List Object) : Store :=
  { Store.initial with
    objects := Store.initial.objects ++ objects.toArray
    units := [.ofViews "m" (declarations.map (View.resolved .default))]
    numbered := 1 }

end CowView.Live
