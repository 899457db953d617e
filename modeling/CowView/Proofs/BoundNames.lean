import CowView.Proofs.NormalForms
import CowView.Proofs.Resolution
import Mathlib.Data.List.Nodup

/-!
Names that a generated module binds, which are normal forms. Names of classes that a unit offers all differ, as
resolving it checks that, but their forms may not. Names of type variables and of the classes of variants are put
together from two names by underscores, which may stand in both of them: `PrivateName.bound_eq_iff` says when two of
them are the same, and `View.boundNames_nodup_iff` when all names of a module differ.
-/

namespace CowView

/-- A name that is put together: that of a class, which owns it, and a name within it. -/
structure PrivateName where
  owner : String
  member : String
  deriving DecidableEq, Repr

namespace PrivateName

variable {first second : PrivateName}

def bound (name : PrivateName) : String := "_" ++ name.owner ++ "_" ++ name.member

def normal (name : PrivateName) : PrivateName := ⟨Text.identifier name.owner, Text.identifier name.member⟩

def Overlaps (first second : PrivateName) : Prop :=
  ∃ shared, second.owner = first.owner ++ "_" ++ shared ∧ first.member = shared ++ "_" ++ second.member

/-- Two names that are bound to different texts. -/
structure Apart (first second : PrivateName) : Prop where
  ne : first ≠ second
  before : ¬ first.Overlaps second
  behind : ¬ second.Overlaps first

/-- What the owners share is what the longer one has behind the shorter one and the underscore. -/
theorem overlaps_iff : first.Overlaps second ↔
    let shared := String.ofList (second.owner.toList.drop (first.owner.toList.length + 1))
    second.owner = first.owner ++ "_" ++ shared ∧ first.member = shared ++ "_" ++ second.member := by
  refine ⟨fun ⟨shared, owner, member⟩ => ?_, fun both => ⟨_, both⟩⟩
  have same : String.ofList (second.owner.toList.drop (first.owner.toList.length + 1)) = shared := by
    apply String.toList_inj.mp
    simp [owner, String.toList_append, List.drop_append]
  exact ⟨same.symm ▸ owner, same.symm ▸ member⟩

instance : Decidable (first.Overlaps second) := decidable_of_iff _ overlaps_iff.symm

instance : Decidable (first.Apart second) :=
  decidable_of_iff (first ≠ second ∧ ¬ first.Overlaps second ∧ ¬ second.Overlaps first)
    ⟨fun ⟨ne, before, behind⟩ => ⟨ne, before, behind⟩, fun apart => ⟨apart.1, apart.2, apart.3⟩⟩

theorem toList_bound (name : PrivateName) :
    name.bound.toList = '_' :: (name.owner.toList ++ '_' :: name.member.toList) := by
  simp [bound, String.toList_append]

theorem Overlaps.bound_eq (overlap : first.Overlaps second) : first.bound = second.bound := by
  obtain ⟨shared, owner, member⟩ := overlap
  simp only [bound, owner, member, String.append_assoc]

/-- The longer one of two owners ends with an underscore and what the names share, if it is longer. -/
theorem eq_or_overlaps_of_append {more : List Char}
    (owner : second.owner.toList = first.owner.toList ++ more)
    (member : '_' :: first.member.toList = more ++ '_' :: second.member.toList) :
    first = second ∨ first.Overlaps second := by
  cases more with
  | nil =>
    refine .inl ?_
    cases first
    cases second
    simp_all [String.toList_inj]
  | cons mark shared =>
    obtain ⟨rfl, member⟩ := List.cons.inj member
    refine .inr ⟨String.ofList shared, ?_, ?_⟩ <;> apply String.toList_inj.mp
    · simpa using owner
    · simpa using member

theorem bound_eq_iff :
    first.bound = second.bound ↔ first = second ∨ first.Overlaps second ∨ second.Overlaps first := by
  constructor
  · intro same
    have same : first.owner.toList ++ '_' :: first.member.toList =
        second.owner.toList ++ '_' :: second.member.toList := by
      have texts := congrArg String.toList same
      rw [toList_bound, toList_bound] at texts
      exact (List.cons.inj texts).2
    rcases List.append_eq_append_iff.mp same with ⟨more, owner, member⟩ | ⟨more, owner, member⟩
    · exact (eq_or_overlaps_of_append owner member).imp_right .inl
    · exact (eq_or_overlaps_of_append owner member).imp Eq.symm .inr
  · rintro (rfl | overlap | overlap)
    · rfl
    · exact overlap.bound_eq
    · exact overlap.bound_eq.symm

theorem bound_ne_iff : first.bound ≠ second.bound ↔ first.Apart second := by
  rw [Ne, bound_eq_iff, not_or, not_or]
  exact ⟨fun ⟨ne, before, behind⟩ => ⟨ne, before, behind⟩, fun apart => ⟨apart.1, apart.2, apart.3⟩⟩

/-- The underscores stay where they are, so the parts have their forms on their own. -/
theorem identifier_bound (name : PrivateName) : Text.identifier name.bound = name.normal.bound := by
  have empty : Text.identifier "" = "" := Text.identifier_of_ascii (fun _ member => nomatch member)
  have front : "_" ++ name.owner = "" ++ "_" ++ name.owner := by rw [String.empty_append]
  rw [bound, bound, Text.identifier_append_underscore, front, Text.identifier_append_underscore, empty,
    String.empty_append]
  rfl

end PrivateName

namespace View

/-- The names that a declaration keeps to itself: its type variables, and the classes of its variants and of
their views. -/
def privateNames (view : View) : List PrivateName :=
  (view.declaration.typeParameters.map fun parameter => ⟨view.name, "_" ++ parameter.name⟩) ++
    (view.body.variants.map fun variant => ⟨view.name, variant.variant.name⟩) ++
    view.body.variants.map fun variant => ⟨view.viewName, variant.variant.name⟩

/-- Two names moved to the front of three lists that they separate. -/
theorem perm_offered_first (first second third : List String) (name other : String) :
    (first ++ name :: (second ++ other :: third)).Perm (name :: other :: (first ++ second ++ third)) := by
  refine List.perm_middle.trans (.cons _ ?_)
  rw [← List.append_assoc]
  exact List.perm_middle

/-- A text defines the names that it offers and those that its declarations keep to themselves. -/
theorem definedNames_perm (view : View) :
    view.definedNames.Perm (view.publicNames ++ view.privateNames.map PrivateName.bound) := by
  have typeNames : view.typeVariables = view.declaration.typeParameters.map fun parameter =>
      PrivateName.bound ⟨view.name, "_" ++ parameter.name⟩ := by
    refine List.map_congr_left fun parameter _ => String.toList_inj.mp ?_
    simp [PrivateName.bound, String.toList_append]
  have classes (own : String) : ((view.body.variants.map fun variant =>
      PrivateName.mk own variant.variant.name).map PrivateName.bound) =
        view.body.variants.map fun variant => "_" ++ own ++ "_" ++ variant.variant.name := by
    rw [List.map_map]
    rfl
  rw [definedNames, classNames, privateNames, publicNames, typeNames, List.map_append, List.map_append,
    classes, classes, List.map_map]
  exact perm_offered_first _ _ _ _ _

theorem flatMap_definedNames_perm (views : List View) :
    (views.flatMap definedNames).Perm
      (views.flatMap publicNames ++ (views.flatMap privateNames).map PrivateName.bound) := by
  induction views with
  | nil => rfl
  | cons view rest ih =>
    simp only [List.flatMap_cons, List.map_append]
    refine ((view.definedNames_perm.append ih).trans ?_)
    rw [List.append_assoc, List.append_assoc]
    refine .append_left _ ?_
    rw [← List.append_assoc, ← List.append_assoc]
    exact .append_right _ List.perm_append_comm

/-- A module binds the forms of the names that it offers, and of those that its declarations keep to themselves. -/
theorem flatMap_boundNames_perm (views : List View) :
    (views.flatMap boundNames).Perm ((views.flatMap publicNames).map Text.identifier ++
      ((views.flatMap privateNames).map PrivateName.normal).map PrivateName.bound) := by
  have whole : views.flatMap boundNames = (views.flatMap definedNames).map Text.identifier := by
    rw [List.map_flatMap]
    rfl
  have forms : ((views.flatMap privateNames).map PrivateName.bound).map Text.identifier =
      ((views.flatMap privateNames).map PrivateName.normal).map PrivateName.bound := by
    rw [List.map_map, List.map_map]
    exact List.map_congr_left fun name _ => name.identifier_bound
  rw [whole, ← forms, ← List.map_append]
  exact (flatMap_definedNames_perm views).map Text.identifier

variable {settings : Settings} {declarations : List Declaration} {views : List View}

/-- All names that the module of an accepted unit binds differ, over all of its declarations, exactly if the names
that it offers have different forms, no two private names overlap in their forms, and no class that is offered has the
form of a private name. -/
theorem boundNames_nodup_iff (accepted : resolveAll settings declarations = .ok views) :
    (views.flatMap boundNames).Nodup ↔
      (∀ first ∈ views.flatMap publicNames, ∀ second ∈ views.flatMap publicNames,
        Text.identifier first = Text.identifier second → first = second) ∧
      ((views.flatMap privateNames).map PrivateName.normal).Pairwise PrivateName.Apart ∧
        ∀ view ∈ views, ∀ name ∈ views.flatMap privateNames,
          Text.identifier view.name ≠ name.normal.bound ∧ Text.identifier view.viewName ≠ name.normal.bound := by
  rw [(flatMap_boundNames_perm views).nodup_iff, List.nodup_append,
    List.nodup_map_iff_inj_on (resolveAll_eq_ok settings accepted).2]
  have apart : (((views.flatMap privateNames).map PrivateName.normal).map PrivateName.bound).Nodup ↔
      ((views.flatMap privateNames).map PrivateName.normal).Pairwise PrivateName.Apart := by
    rw [List.Nodup, List.pairwise_map]
    simp only [PrivateName.bound_ne_iff]
  rw [apart]
  refine and_congr_right fun _ => and_congr_right fun _ => ⟨fun differ view own name private_ => ?_, ?_⟩
  · have member : name.normal.bound ∈ ((views.flatMap privateNames).map PrivateName.normal).map PrivateName.bound :=
      List.mem_map_of_mem (List.mem_map_of_mem private_)
    have offered {text : String} (offers : text ∈ view.publicNames) :
        Text.identifier text ∈ (views.flatMap publicNames).map Text.identifier :=
      List.mem_map_of_mem (List.mem_flatMap.mpr ⟨view, own, offers⟩)
    exact ⟨differ _ (offered (by simp [publicNames])) _ member,
      differ _ (offered (by simp [publicNames])) _ member⟩
  · intro differ form offered other bound same
    obtain ⟨text, offers, rfl⟩ := List.mem_map.mp offered
    obtain ⟨view, own, offers⟩ := List.mem_flatMap.mp offers
    obtain ⟨parts, normal, rfl⟩ := List.mem_map.mp bound
    obtain ⟨name, private_, rfl⟩ := List.mem_map.mp normal
    have ne := differ view own name private_
    rcases (by simpa [publicNames] using offers : text = view.name ∨ text = view.viewName) with rfl | rfl
    · exact ne.1 same
    · exact ne.2 same

def unionAndRecord (union record : String) : List Declaration :=
  [⟨union, [], .union [⟨"B", ⟨[], .unit⟩, ""⟩], none, ""⟩,
    ⟨record, [.type "B" []],
      .record ⟨[⟨some "x", 0, .named "B", .regular, [], ""⟩], .named⟩, none, ""⟩]

theorem boundNames_nodup_shape :
    ((unionAndRecord "Shape" "Point").map (resolved .default)).flatMap boundNames =
        ["Shape", "_Shape_B", "ButcheredShape", "_ButcheredShape_B", "_Point__B", "Point",
          "ButcheredPoint"] ∧
      (((unionAndRecord "Shape" "Point").map (resolved .default)).flatMap boundNames).Nodup :=
  have accepted : resolveAll .default (unionAndRecord "Shape" "Point") =
      .ok ((unionAndRecord "Shape" "Point").map (resolved .default)) := rfl
  ⟨by decide, (boundNames_nodup_iff accepted).mpr ⟨by decide, by decide⟩⟩

/-- An accepted unit whose union ends with an underscore gives the class of its variant the name of the type
variable of its record. -/
theorem boundNames_shared : ¬ ∀ settings declarations views,
    resolveAll settings declarations = .ok views → (views.flatMap boundNames).Nodup := by
  intro differ
  have all := differ .default (unionAndRecord "A_" "A") ((unionAndRecord "A_" "A").map (resolved .default)) rfl
  exact absurd all (by decide)

end View

end CowView
