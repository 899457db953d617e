import CowView.Proofs.Sessions
import CowView.Proofs.ViewParts

/-!
What lasts. Boxes and instances can be given other attributes; everything else stays what it is through all steps that
do not assign attributes of it: pointers and views hold the same values, and a closed scope stays closed.
-/

namespace CowView.Live

def Kind.isView : Kind → Bool
  | record _ _ side | union _ _ side | variant _ _ side _ => side = .view
  | _ => false

def Object.isFree : Object → Bool
  | box _ => true
  | entity kind _ => !kind.isView
  | _ => false

theorem Object.Becomes.isFree_eq {first second : Object} (becomes : first.Becomes second) :
    second.isFree = first.isFree := by
  cases becomes <;> rfl

namespace Store

def Keeps (before after : Store) : Prop :=
  ∀ (address : Address) (object : Object), before.objects[address]? = some object → object.isFree = false →
    ∃ other, after.objects[address]? = some other ∧ object.Becomes other

namespace Keeps

variable {before between after : Store}

theorem of_objects (same : after.objects = before.objects) : before.Keeps after :=
  fun _ object found _ => ⟨object, same ▸ found, .same object⟩

theorem of_evolves (evolves : before.Evolves after) : before.Keeps after :=
  fun address object found _ => evolves.objects address object found

theorem trans (first : before.Keeps between) (second : between.Keeps after) : before.Keeps after := by
  intro address object found fixed
  obtain ⟨other, found', becomes⟩ := first address object found fixed
  obtain ⟨last, found'', becomes'⟩ := second address other found' (becomes.isFree_eq.trans fixed)
  exact ⟨last, found'', becomes.trans becomes'⟩

theorem object? (keeps : before.Keeps after) {value : Value} {object : Object}
    (found : before.object? value = some object) (fixed : object.isFree = false) :
    ∃ other, after.object? value = some other ∧ object.Becomes other := by
  cases value with
  | object address => exact keeps _ _ found fixed
  | _ => cases found

end Keeps

structure Extends (before after : Store) : Prop where
  objects : before.objects.size ≤ after.objects.size
  units : ∃ more, after.units = before.units ++ more

structure Lasts (before after : Store) : Prop extends Extends before after where
  keeps : before.Keeps after

namespace Extends

theorem trans {before between after : Store} (first : before.Extends between) (second : between.Extends after) :
    before.Extends after := by
  obtain ⟨more, first_⟩ := first.units
  obtain ⟨others, second_⟩ := second.units
  exact ⟨first.objects.trans second.objects, more ++ others, by rw [second_, first_, List.append_assoc]⟩

theorem of_frame {before after : Store} (units : after.units = before.units)
    (objects : after.objects.size = before.objects.size) : before.Extends after :=
  ⟨objects.ge, [], units.trans (List.append_nil _).symm⟩

theorem of_evolves {before after : Store} (evolves : before.Evolves after) : before.Extends after :=
  ⟨evolves.size_le, [], evolves.units.trans (List.append_nil _).symm⟩

end Extends

theorem Evolves.lasts {before after : Store} (evolves : before.Evolves after) : before.Lasts after :=
  ⟨.of_evolves evolves, .of_evolves evolves⟩

end Store

/-! ### Steps -/

theorem loadOne_evolving (views : List View) (unit position : Nat) (view : View) :
    Evolving (loadOne views unit position view) := by
  unfold loadOne
  split
  · exact .pure _
  · exact Evolving.bind (.construct _ _) fun _ => Evolving.bind (.construct _ _) fun _ => .pure _

theorem load_lasts (name text : String) (settings : Settings) : Leading Store.Lasts (load name text settings) := by
  intro store
  unfold load
  split
  next views _ =>
    have units := loadViews_ends name views store
    have objects : Ends (loadViews name views) store
        (fun _ after => store.Keeps after ∧ store.objects.size ≤ after.objects.size)
        (fun _ after => store.Keeps after ∧ store.objects.size ≤ after.objects.size) := by
      unfold loadViews
      refine .ofGet ?_
      dsimp only
      split
      · exact ⟨.of_objects rfl, Nat.le_refl _⟩
      · refine .ofSet (Ends.bind ?_)
        have each := Evolving.mapM (fun item : View × Nat => loadOne_evolving views store.units.length item.2 item.1)
          views.zipIdx { store with units := store.units ++ [LoadedUnit.ofViews name views] }
        have start : store.Keeps { store with units := store.units ++ [LoadedUnit.ofViews name views] } := .of_objects rfl
        refine each.mono (fun _ between evolves => ?_) fun _ _ evolves => ?_
        · exact ⟨(start.trans (.of_evolves evolves)).trans (.of_objects rfl), evolves.size_le⟩
        · exact ⟨start.trans (.of_evolves evolves), evolves.size_le⟩
    refine (objects.both units).mono (fun _ after all => ?_) fun _ after all => ?_
    · obtain ⟨⟨keeps, size⟩, found, same, -⟩ := all
      exact ⟨⟨size, _, same⟩, keeps⟩
    · obtain ⟨⟨keeps, size⟩, same | ⟨found, same, -⟩⟩ := all
      · exact ⟨⟨size, [], by simp [same]⟩, keeps⟩
      · exact ⟨⟨size, _, same⟩, keeps⟩
  · exact (Store.Evolves.refl store).lasts

theorem lasting_keeps : Lasting Store.Keeps false where
  refl _ := .of_objects rfl
  trans := .trans
  evolves := .of_evolves
  owners _ _ := .of_objects rfl
  targets _ _ := .of_objects rfl
  loads name text settings store :=
    (load_lasts name text settings store).mono (fun _ _ lasts => lasts.keeps) fun _ _ lasts => lasts.keeps
  assigns := nofun

/-- Steps of all kinds only add objects and units. -/
theorem lasting_extends : Lasting Store.Extends true where
  refl _ := .of_frame rfl rfl
  trans := .trans
  evolves := .of_evolves
  owners _ _ := .of_frame rfl rfl
  targets _ _ := .of_frame rfl rfl
  loads name text settings store :=
    (load_lasts name text settings store).mono (fun _ _ lasts => lasts.toExtends) fun _ _ lasts => lasts.toExtends
  assigns _ target name value store :=
    (setMember_frame target name value store).mono (fun _ _ same => .of_frame same.1 same.2) fun _ _ same =>
      .of_frame same.1 same.2

def Session.IsFair (session : Session) (action : Step) : Prop :=
  action.assigns = true → session.store.Keeps (session.after action).store

theorem Session.IsFair.lasts {session : Session} {action : Step} (fair : session.IsFair action) :
    session.store.Lasts (session.after action).store := by
  refine ⟨lasting_extends.after session action fun _ => rfl, ?_⟩
  cases assigns : action.assigns with
  | true => exact fair assigns
  | false => exact lasting_keeps.after session action fun other => nomatch assigns.symm.trans other

/-! ### Views -/

section

variable {before after : Store} {units more : Units} {kind : Kind} {loaded : Loaded} {fields : List FieldView}

theorem Units.getElem?_append {unit : Nat} {found : LoadedUnit} (present : units[unit]? = some found) :
    (units ++ more)[unit]? = some found := by
  obtain ⟨small, -⟩ := List.getElem?_eq_some_iff.mp present
  rw [List.getElem?_append_left small, present]

theorem Units.Forms.append (forms : units.Forms kind loaded fields) : Units.Forms (units ++ more) kind loaded fields := by
  have kept {unit position : Nat} (found : units.loaded? unit position = some loaded) :
      Units.loaded? (units ++ more) unit position = some loaded := by
    obtain ⟨present, inside, at_⟩ := Option.bind_eq_some_iff.mp found
    exact Option.bind_eq_some_iff.mpr ⟨present, getElem?_append inside, at_⟩
  cases forms with
  | record found body => exact .record (kept found) body
  | variant found body chosen => exact .variant (kept found) body chosen

theorem Units.Ordinary.append (forms : units.Forms kind loaded fields) (ordinary : units.Ordinary kind loaded) :
    Units.Ordinary (units ++ more) kind loaded := by
  refine ⟨ordinary.generated, ordinary.free, ?_, ordinary.keeps.variant, fun place own side named => ?_⟩
  · rw [forms.append.fields_eq]
    exact ordinary.slots forms
  · obtain ⟨found, present, bound⟩ := Option.bind_eq_some_iff.mp (ordinary.keeps.classes place own side named)
    exact Option.bind_eq_some_iff.mpr ⟨found, getElem?_append present, bound⟩

theorem Units.Forms.isView (forms : units.Forms kind loaded fields) : (kind.onSide .view).isView = true := by
  cases forms <;> rfl

variable {scope view output : Value} {layers : Nat} {referents : List Value}

theorem Store.Keeps.borrowed {pointer referent : Value} (keeps : before.Keeps after)
    (held : before.object? pointer = some (.borrowed referent scope)) :
    after.object? pointer = some (.borrowed referent scope) := by
  obtain ⟨other, found, becomes⟩ := keeps.object? held rfl
  cases becomes
  exact found

theorem Store.Holds.lasts {nested wider : Value → List Value → Prop} {strategy : Strategy}
    (keeps : before.Keeps after) (inner : ∀ output referents, nested output referents → wider output referents)
    (holds : before.Holds (some scope) nested strategy output referents) :
    after.Holds (some scope) wider strategy output referents := by
  cases strategy with
  | copy => exact holds
  | nested => exact inner _ _ holds
  | regular | flatten | unbox => exact holds.imp fun _ => And.imp_left keeps.borrowed

theorem Store.Shows.lasts (lasts : before.Lasts after) (shows_ : before.Shows (some scope) layers view referents) :
    after.Shows (some scope) layers view referents := by
  induction layers generalizing view referents with
  | zero => exact shows_
  | succ layers ih =>
    obtain ⟨kind, forms, ordinary, shown, slots, each⟩ := shows_
    obtain ⟨other, found, becomes⟩ := lasts.keeps.object? shown (by simp [Object.isFree, forms.isView])
    cases becomes
    obtain ⟨more, units⟩ := lasts.units
    refine ⟨kind, .intro (units ▸ forms.append) (units ▸ ordinary.append forms) found slots fun field member => ?_⟩
    exact (each field member).imp fun _ => And.imp_right (Holds.lasts lasts.keeps fun _ _ => ih)

end

end CowView.Live
