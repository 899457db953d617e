import CowView.TypeExpr.Walk

/-!
What an expression is without its parts. The outline of an expression is its form with everything written in it
but the expressions directly inside. Outline and parts determine the expression (`TypeExpr.eq_of_outline`), so a
walk that is compared outline by outline is compared in full.
-/

namespace CowView

inductive ArgumentOutline where
  | type
  | binding (name : String)
  | constraint (name : String) (bounds : Nat)
  deriving DecidableEq

inductive SegmentOutline where
  | plain (name : String)
  | angle (name : String) (arguments : List ArgumentOutline)
  | call (name : String) (inputs : Nat) (hasOutput : Bool)
  deriving DecidableEq

inductive Outline where
  | lifetime (lifetime : Lifetime)
  | constant (value : String)
  | inferred
  | never
  | verbatim (text : String)
  | path (segments : List SegmentOutline)
  | qualified (position : Int) (segments : List SegmentOutline)
  | array (length : String)
  | slice
  | tuple (elements : Nat)
  | group
  | function (inputs : Nat) (hasOutput : Bool)
  | reference (lifetime : Option Lifetime) (isMutable : Bool)
  | pointer (isMutable : Bool)
  | implTrait (bounds : Nat)
  | traitObject (bounds : Nat)
  deriving DecidableEq

def Argument.outline : Argument → ArgumentOutline
  | type _ => .type
  | binding name _ => .binding name
  | constraint name bounds => .constraint name bounds.length

def Segment.outline : Segment → SegmentOutline
  | plain name => .plain name
  | angle name arguments => .angle name (arguments.map Argument.outline)
  | call name inputs output => .call name inputs.length output.isSome

/-- The form of an expression and what is written in it besides its parts. -/
def TypeExpr.outline : TypeExpr → Outline
  | lifetime duration => .lifetime duration
  | constant value => .constant value
  | inferred => .inferred
  | never => .never
  | verbatim text => .verbatim text
  | path first rest => .path ((first :: rest).map Segment.outline)
  | qualified _ position first rest => .qualified position ((first :: rest).map Segment.outline)
  | array _ length => .array length
  | slice _ => .slice
  | tuple elements => .tuple elements.length
  | group _ => .group
  | function inputs output => .function inputs.length output.isSome
  | reference duration isMutable _ => .reference duration isMutable
  | pointer isMutable _ => .pointer isMutable
  | implTrait bounds => .implTrait bounds.length
  | traitObject bounds => .traitObject bounds.length

/-! ### Outlines and parts together -/

structure Outlined {Item Shape Part : Type} (outline : Item → Shape) (parts : Item → List Part) : Prop where
  count : ∀ {item other : Item}, outline item = outline other → (parts item).length = (parts other).length
  determined : ∀ {item other : Item}, outline item = outline other → parts item = parts other → item = other

/-- Items in a row can be told apart as well, though their parts are run together. -/
theorem Outlined.all {Item Shape Part : Type} {outline : Item → Shape} {parts : Item → List Part}
    (outlined : Outlined outline parts) : Outlined (List.map outline) (List.flatMap parts) where
  count {items others} outlines := by
    induction items generalizing others with
    | nil => rw [List.map_eq_nil_iff.mp outlines.symm]
    | cons item rest ih =>
      obtain ⟨other, remaining, rfl, same, later⟩ := List.map_eq_cons_iff.mp outlines.symm
      rw [List.flatMap_cons, List.flatMap_cons, List.length_append, List.length_append, outlined.count same.symm,
        ih later.symm]
  determined {items others} outlines flat := by
    induction items generalizing others with
    | nil => rw [List.map_eq_nil_iff.mp outlines.symm]
    | cons item rest ih =>
      obtain ⟨other, remaining, rfl, same, later⟩ := List.map_eq_cons_iff.mp outlines.symm
      rw [List.flatMap_cons, List.flatMap_cons] at flat
      obtain ⟨own, others⟩ := List.append_inj flat (outlined.count same.symm)
      rw [outlined.determined same.symm own, ih later.symm others]

/-- Inputs and an output are told apart by the number of inputs. -/
theorem inputs_and_output {inputs others : List TypeExpr} {output result : Option TypeExpr}
    (count : inputs.length = others.length) (parts : inputs ++ output.toList = others ++ result.toList) :
    inputs = others ∧ output = result := by
  obtain ⟨same, last⟩ := List.append_inj parts count
  refine ⟨same, ?_⟩
  cases output <;> cases result <;> simp_all

theorem length_output {output result : Option TypeExpr} (given : output.isSome = result.isSome) :
    output.toList.length = result.toList.length := by
  cases output <;> cases result <;> simp_all

theorem Argument.outlined : Outlined outline parts where
  count {argument other} outlines := by
    cases argument <;> cases other <;> simp_all [outline, parts]
  determined {argument other} outlines same := by
    cases argument <;> cases other <;> simp_all [outline, parts]

theorem Segment.outlined : Outlined outline parts where
  count {segment other} outlines := by
    cases segment <;> cases other <;> simp only [outline, reduceCtorEq, SegmentOutline.angle.injEq,
      SegmentOutline.call.injEq] at outlines
    case plain => rfl
    case angle => exact Argument.outlined.all.count outlines.2
    case call => rw [parts, parts, List.length_append, List.length_append, outlines.2.1, length_output outlines.2.2]
  determined {segment other} outlines same := by
    cases segment <;> cases other <;> simp only [outline, reduceCtorEq, SegmentOutline.angle.injEq,
      SegmentOutline.call.injEq, SegmentOutline.plain.injEq] at outlines
    case plain => rw [outlines]
    case angle => rw [outlines.1, Argument.outlined.all.determined outlines.2 same]
    case call =>
      obtain ⟨inputs, output⟩ := inputs_and_output outlines.2.1 same
      rw [outlines.1, inputs, output]

theorem TypeExpr.outlined : Outlined outline parts where
  count {expr other} outlines := by
    cases expr <;> cases other <;> simp only [outline, reduceCtorEq, Outline.path.injEq, Outline.qualified.injEq,
      Outline.tuple.injEq, Outline.function.injEq, Outline.implTrait.injEq, Outline.traitObject.injEq] at outlines
    case lifetime | constant | verbatim | inferred | never => rfl
    case path => exact Segment.outlined.all.count outlines
    case qualified => exact congrArg Nat.succ (Segment.outlined.all.count outlines.2)
    case array | slice | group | reference | pointer => rfl
    case tuple | implTrait | traitObject => exact outlines
    case function => rw [parts, parts, List.length_append, List.length_append, outlines.1, length_output outlines.2]
  determined {expr other} outlines same := by
    cases expr <;> cases other <;> simp only [outline, reduceCtorEq, Outline.lifetime.injEq, Outline.constant.injEq,
      Outline.verbatim.injEq, Outline.path.injEq, Outline.qualified.injEq, Outline.array.injEq, Outline.function.injEq,
      Outline.reference.injEq, Outline.pointer.injEq] at outlines
    case lifetime | constant | verbatim => rw [outlines]
    case inferred | never => rfl
    case path =>
      cases Segment.outlined.all.determined outlines same
      rfl
    case qualified =>
      obtain ⟨subject, rest⟩ := List.cons_eq_cons.mp same
      cases Segment.outlined.all.determined outlines.2 rest
      rw [outlines.1, subject]
    case array | slice | group | reference | pointer => simp_all [parts]
    case tuple | implTrait | traitObject => simp_all [parts]
    case function =>
      obtain ⟨inputs, output⟩ := inputs_and_output outlines.1 same
      rw [inputs, output]

namespace TypeExpr

theorem eq_of_outline {expr other : TypeExpr} (outlines : expr.outline = other.outline)
    (same : expr.parts = other.parts) : expr = other :=
  outlined.determined outlines same

theorem eq_leaf_iff {leaf expr : TypeExpr} (bare : leaf.parts = []) : expr = leaf ↔ expr.outline = leaf.outline := by
  constructor
  · exact congrArg outline
  · intro outlines
    have count := outlined.count outlines
    rw [bare, List.length_nil] at count
    exact eq_of_outline outlines (by rw [bare, List.eq_nil_of_length_eq_zero count])

end TypeExpr

end CowView
