import CowView.TypeExpr

/-!
The expressions inside an expression, in the order in which they are written, and the names that an
expression mentions. `TypeExpr.visit` finds the same expressions with a stack (`TypeExpr.walk_eq_visit`).
-/

namespace CowView

mutual

/-- An expression and all expressions inside it, each before its own parts. The lifetime of a
reference is no expression of its own. -/
def TypeExpr.walk : TypeExpr → List TypeExpr
  | .lifetime duration => [.lifetime duration]
  | .constant value => [.constant value]
  | .inferred => [.inferred]
  | .never => [.never]
  | .verbatim text => [.verbatim text]
  | .path first rest => .path first rest :: (first.walk ++ Segment.walkAll rest)
  | .qualified subject position first rest =>
    .qualified subject position first rest :: (subject.walk ++ (first.walk ++ Segment.walkAll rest))
  | .array element length => .array element length :: element.walk
  | .slice element => .slice element :: element.walk
  | .tuple elements => .tuple elements :: TypeExpr.walkAll elements
  | .group element => .group element :: element.walk
  | .function inputs none => .function inputs none :: TypeExpr.walkAll inputs
  | .function inputs (some output) =>
    .function inputs (some output) :: (TypeExpr.walkAll inputs ++ output.walk)
  | .reference duration isMutable element =>
    .reference duration isMutable element :: element.walk
  | .pointer isMutable element => .pointer isMutable element :: element.walk
  | .implTrait bounds => .implTrait bounds :: TypeExpr.walkAll bounds
  | .traitObject bounds => .traitObject bounds :: TypeExpr.walkAll bounds

def TypeExpr.walkAll : List TypeExpr → List TypeExpr
  | [] => []
  | expr :: rest => expr.walk ++ TypeExpr.walkAll rest

def Segment.walk : Segment → List TypeExpr
  | .plain _ => []
  | .angle _ arguments => Argument.walkAll arguments
  | .call _ inputs none => TypeExpr.walkAll inputs
  | .call _ inputs (some output) => TypeExpr.walkAll inputs ++ output.walk

def Segment.walkAll : List Segment → List TypeExpr
  | [] => []
  | segment :: rest => segment.walk ++ Segment.walkAll rest

def Argument.walk : Argument → List TypeExpr
  | .type type => type.walk
  | .binding _ value => value.walk
  | .constraint _ bounds => TypeExpr.walkAll bounds

def Argument.walkAll : List Argument → List TypeExpr
  | [] => []
  | argument :: rest => argument.walk ++ Argument.walkAll rest

end

namespace TypeExpr

/-- Does the outermost form refer to one of the names? A path refers by its first segment, unless it
is qualified; a lifetime and a reference refer by their lifetime, mark included. -/
def refersTo (names : List String) : TypeExpr → Bool
  | path first _ => first.name ∈ names
  | lifetime duration => duration.render ∈ names
  | reference (some duration) _ _ => duration.render ∈ names
  | _ => false

def mentionsAny (expr : TypeExpr) (names : List String) : Bool :=
  expr.walk.any (refersTo names)

theorem walkAll_eq_flatMap (exprs : List TypeExpr) : walkAll exprs = exprs.flatMap walk := by
  induction exprs with
  | nil => rfl
  | cons expr rest ih => simp [walkAll, ih]

theorem mem_walk_self (expr : TypeExpr) : expr ∈ expr.walk := by
  cases expr with
  | function inputs output => cases output <;> simp [walk]
  | _ => simp [walk]

end TypeExpr

/-! ### The parts of an expression -/

def Argument.parts : Argument → List TypeExpr
  | .type expr | .binding _ expr => [expr]
  | .constraint _ bounds => bounds

def Segment.parts : Segment → List TypeExpr
  | plain _ => []
  | angle _ arguments => arguments.flatMap Argument.parts
  | call _ inputs output => inputs ++ output.toList

def TypeExpr.parts : TypeExpr → List TypeExpr
  | lifetime _ | constant _ | inferred | never | verbatim _ => []
  | path first rest => (first :: rest).flatMap Segment.parts
  | qualified subject _ first rest => subject :: (first :: rest).flatMap Segment.parts
  | array element _ | slice element | group element => [element]
  | reference _ _ element | pointer _ element => [element]
  | tuple parts | implTrait parts | traitObject parts => parts
  | function inputs output => inputs ++ output.toList

namespace TypeExpr

theorem walkAll_append (left right : List TypeExpr) :
    walkAll (left ++ right) = walkAll left ++ walkAll right := by
  simp [walkAll_eq_flatMap]

theorem walkAll_singleton (expr : TypeExpr) : walkAll [expr] = expr.walk := by
  simp [walkAll]

end TypeExpr

theorem Argument.walk_eq (argument : Argument) : argument.walk = TypeExpr.walkAll argument.parts := by
  cases argument <;> simp [walk, parts, TypeExpr.walkAll_singleton]

theorem Argument.walkAll_eq (arguments : List Argument) :
    walkAll arguments = TypeExpr.walkAll (arguments.flatMap parts) := by
  induction arguments with
  | nil => rfl
  | cons argument rest ih =>
    rw [walkAll, List.flatMap_cons, TypeExpr.walkAll_append, argument.walk_eq, ih]

theorem Segment.walk_eq (segment : Segment) : segment.walk = TypeExpr.walkAll segment.parts := by
  cases segment with
  | plain => rfl
  | angle name arguments => exact Argument.walkAll_eq arguments
  | call name inputs output => cases output <;> simp [walk, parts, TypeExpr.walkAll_append, TypeExpr.walkAll_singleton]

theorem Segment.walkAll_eq (segments : List Segment) :
    walkAll segments = TypeExpr.walkAll (segments.flatMap parts) := by
  induction segments with
  | nil => rfl
  | cons segment rest ih =>
    rw [walkAll, List.flatMap_cons, TypeExpr.walkAll_append, segment.walk_eq, ih]

namespace TypeExpr

/-- A walk starts with the expression and goes on with the walks of its parts. -/
theorem walk_eq (expr : TypeExpr) : expr.walk = expr :: walkAll expr.parts := by
  cases expr with
  | path first rest | qualified subject position first rest =>
    simp [walk, parts, walkAll, walkAll_append, Segment.walk_eq, Segment.walkAll_eq]
  | function inputs output => cases output <;> simp [walk, parts, walkAll_append, walkAll_singleton]
  | _ => simp [walk, parts, walkAll]

theorem mem_walk_of_part {expr part node : TypeExpr} (inside : part ∈ expr.parts) (member : node ∈ part.walk) :
    node ∈ expr.walk := by
  rw [walk_eq, walkAll_eq_flatMap]
  exact List.mem_cons_of_mem _ (List.mem_flatMap.mpr ⟨part, inside, member⟩)

/-- Visits the expressions on a stack: the topmost one is taken off, and its parts are put in its place. -/
def visit : List TypeExpr → List TypeExpr
  | [] => []
  | expr :: waiting => expr :: visit (expr.parts ++ waiting)
termination_by stack => (walkAll stack).length
decreasing_by simp [walkAll, walk_eq, walkAll_append]

theorem visit_eq_walkAll (stack : List TypeExpr) : visit stack = walkAll stack := by
  induction stack using visit.induct with
  | case1 => rw [visit, walkAll]
  | case2 expr waiting ih => rw [visit, ih, walkAll_append, walkAll, walk_eq, List.cons_append]

/-- The stack finds the expressions in the order of the walk. -/
theorem walk_eq_visit (expr : TypeExpr) : expr.walk = visit [expr] := by
  rw [visit_eq_walkAll, walkAll_singleton]

/-- What holds of an expression as soon as it holds of all its parts holds of every expression. -/
@[elab_as_elim]
theorem parts_induction {motive : TypeExpr → Prop}
    (step : ∀ expr : TypeExpr, (∀ part ∈ expr.parts, motive part) → motive expr) (expr : TypeExpr) :
    motive expr := by
  induction size : expr.walk.length using Nat.strongRecOn generalizing expr with
  | ind count ih =>
    refine step expr fun part member => ih part.walk.length ?_ part rfl
    obtain ⟨before, after, parts⟩ := List.append_of_mem member
    rw [← size, walk_eq expr, parts, walkAll_append, walkAll, List.length_cons, List.length_append,
      List.length_append]
    omega

end TypeExpr

end CowView
