import CowView.Fault
import CowView.TypeExpr.Walk

/-!
Replacing the bare path `Self`. `TypeExpr.replaceSelf` goes through an expression form by form and stops at
verbatim text, which nothing can look into. `TypeExpr.substituteSelf` is the plain substitution, and
`TypeExpr.firstVerbatim?` is where it would have to stop: `TypeExpr.replaceSelf_eq` puts the two together.
-/

namespace CowView

namespace TypeExpr

def selfName : String := "Self"

def isSelf (expr : TypeExpr) : Bool := expr.isNamed selfName

def self : TypeExpr := named selfName

theorem eq_self_of_isSelf {expr : TypeExpr} (isSelf : expr.isSelf = true) : expr = self := by
  unfold TypeExpr.isSelf isNamed at isSelf
  split at isSelf
  · rw [of_decide_eq_true isSelf]
    rfl
  · cases isSelf

end TypeExpr

mutual

/-- Puts an expression in the place of every bare `Self`; all else is kept. -/
def TypeExpr.substituteSelf (replacement : TypeExpr) : TypeExpr → TypeExpr
  | .lifetime duration => .lifetime duration
  | .constant value => .constant value
  | .inferred => .inferred
  | .never => .never
  | .verbatim text => .verbatim text
  | .path first rest =>
    if (TypeExpr.path first rest).isSelf then replacement
    else .path (Segment.substituteSelf replacement first) (Segment.substituteSelfAll replacement rest)
  | .qualified subject position first rest =>
    .qualified (TypeExpr.substituteSelf replacement subject) position
      (Segment.substituteSelf replacement first) (Segment.substituteSelfAll replacement rest)
  | .array element length => .array (TypeExpr.substituteSelf replacement element) length
  | .slice element => .slice (TypeExpr.substituteSelf replacement element)
  | .tuple elements => .tuple (TypeExpr.substituteSelfAll replacement elements)
  | .group element => .group (TypeExpr.substituteSelf replacement element)
  | .function inputs none => .function (TypeExpr.substituteSelfAll replacement inputs) none
  | .function inputs (some output) =>
    .function (TypeExpr.substituteSelfAll replacement inputs)
      (some (TypeExpr.substituteSelf replacement output))
  | .reference duration isMutable element =>
    .reference duration isMutable (TypeExpr.substituteSelf replacement element)
  | .pointer isMutable element => .pointer isMutable (TypeExpr.substituteSelf replacement element)
  | .implTrait bounds => .implTrait (TypeExpr.substituteSelfAll replacement bounds)
  | .traitObject bounds => .traitObject (TypeExpr.substituteSelfAll replacement bounds)
termination_by structural expr => expr

def TypeExpr.substituteSelfAll (replacement : TypeExpr) : List TypeExpr → List TypeExpr
  | [] => []
  | expr :: rest =>
    TypeExpr.substituteSelf replacement expr :: TypeExpr.substituteSelfAll replacement rest
termination_by structural expr => expr

def Segment.substituteSelf (replacement : TypeExpr) : Segment → Segment
  | .plain name => .plain name
  | .angle name arguments => .angle name (Argument.substituteSelfAll replacement arguments)
  | .call name inputs none => .call name (TypeExpr.substituteSelfAll replacement inputs) none
  | .call name inputs (some output) =>
    .call name (TypeExpr.substituteSelfAll replacement inputs)
      (some (TypeExpr.substituteSelf replacement output))
termination_by structural expr => expr

def Segment.substituteSelfAll (replacement : TypeExpr) : List Segment → List Segment
  | [] => []
  | segment :: rest =>
    Segment.substituteSelf replacement segment :: Segment.substituteSelfAll replacement rest
termination_by structural expr => expr

def Argument.substituteSelf (replacement : TypeExpr) : Argument → Argument
  | .type type => .type (TypeExpr.substituteSelf replacement type)
  | .binding name value => .binding name (TypeExpr.substituteSelf replacement value)
  | .constraint name bounds => .constraint name (TypeExpr.substituteSelfAll replacement bounds)
termination_by structural expr => expr

def Argument.substituteSelfAll (replacement : TypeExpr) : List Argument → List Argument
  | [] => []
  | argument :: rest =>
    Argument.substituteSelf replacement argument :: Argument.substituteSelfAll replacement rest
termination_by structural expr => expr

end

mutual

/-- The first verbatim text that the substitution meets. The output of a function is looked into
before its inputs, anything else in the order in which it is written. -/
def TypeExpr.firstVerbatim? : TypeExpr → Option String
  | .lifetime _ | .constant _ | .inferred | .never => none
  | .verbatim text => some text
  | .path first rest => first.firstVerbatim?.or (Segment.firstVerbatimOf? rest)
  | .qualified subject _ first rest =>
    subject.firstVerbatim?.or (first.firstVerbatim?.or (Segment.firstVerbatimOf? rest))
  | .array element _ | .slice element | .group element => element.firstVerbatim?
  | .reference _ _ element | .pointer _ element => element.firstVerbatim?
  | .tuple elements => TypeExpr.firstVerbatimOf? elements
  | .function inputs none => TypeExpr.firstVerbatimOf? inputs
  | .function inputs (some output) =>
    output.firstVerbatim?.or (TypeExpr.firstVerbatimOf? inputs)
  | .implTrait bounds | .traitObject bounds => TypeExpr.firstVerbatimOf? bounds

def TypeExpr.firstVerbatimOf? : List TypeExpr → Option String
  | [] => none
  | expr :: rest => expr.firstVerbatim?.or (TypeExpr.firstVerbatimOf? rest)

def Segment.firstVerbatim? : Segment → Option String
  | .plain _ => none
  | .angle _ arguments => Argument.firstVerbatimOf? arguments
  | .call _ inputs none => TypeExpr.firstVerbatimOf? inputs
  | .call _ inputs (some output) =>
    output.firstVerbatim?.or (TypeExpr.firstVerbatimOf? inputs)

def Segment.firstVerbatimOf? : List Segment → Option String
  | [] => none
  | segment :: rest => segment.firstVerbatim?.or (Segment.firstVerbatimOf? rest)

def Argument.firstVerbatim? : Argument → Option String
  | .type type => type.firstVerbatim?
  | .binding _ value => value.firstVerbatim?
  | .constraint _ bounds => TypeExpr.firstVerbatimOf? bounds

def Argument.firstVerbatimOf? : List Argument → Option String
  | [] => none
  | argument :: rest => argument.firstVerbatim?.or (Argument.firstVerbatimOf? rest)

end

def unlessVerbatim {α : Type} (found : Option String) (result : α) : Except GenerationProblem α :=
  match found with
  | some text => throw (.unsupportedShape ("Verbatim (" ++ text ++ ")"))
  | none => return result

mutual

/-- Replaces every bare `Self`, up to the first verbatim text that is met. The output of a function is settled
before its inputs. -/
def TypeExpr.replaceSelf (expr replacement : TypeExpr) : Except GenerationProblem TypeExpr :=
  match expr with
  | .lifetime duration => return .lifetime duration
  | .constant value => return .constant value
  | .inferred => return .inferred
  | .never => return .never
  | .verbatim text => throw (.unsupportedShape ("Verbatim (" ++ text ++ ")"))
  | .path first rest =>
    if (TypeExpr.path first rest).isSelf then return replacement
    else do
      let first ← first.replaceSelf replacement
      let rest ← Segment.replaceSelfAll rest replacement
      return .path first rest
  | .qualified subject position first rest => do
    let subject ← subject.replaceSelf replacement
    let first ← first.replaceSelf replacement
    let rest ← Segment.replaceSelfAll rest replacement
    return .qualified subject position first rest
  | .array element length => do
    let element ← element.replaceSelf replacement
    return .array element length
  | .slice element => do
    let element ← element.replaceSelf replacement
    return .slice element
  | .tuple elements => do
    let elements ← TypeExpr.replaceSelfAll elements replacement
    return .tuple elements
  | .group element => do
    let element ← element.replaceSelf replacement
    return .group element
  | .function inputs none => do
    let inputs ← TypeExpr.replaceSelfAll inputs replacement
    return .function inputs none
  | .function inputs (some output) => do
    let output ← output.replaceSelf replacement
    let inputs ← TypeExpr.replaceSelfAll inputs replacement
    return .function inputs (some output)
  | .reference duration isMutable element => do
    let element ← element.replaceSelf replacement
    return .reference duration isMutable element
  | .pointer isMutable element => do
    let element ← element.replaceSelf replacement
    return .pointer isMutable element
  | .implTrait bounds => do
    let bounds ← TypeExpr.replaceSelfAll bounds replacement
    return .implTrait bounds
  | .traitObject bounds => do
    let bounds ← TypeExpr.replaceSelfAll bounds replacement
    return .traitObject bounds
termination_by structural expr

def TypeExpr.replaceSelfAll (exprs : List TypeExpr) (replacement : TypeExpr) :
    Except GenerationProblem (List TypeExpr) :=
  match exprs with
  | [] => return []
  | expr :: rest => do
    let expr ← expr.replaceSelf replacement
    let rest ← TypeExpr.replaceSelfAll rest replacement
    return expr :: rest
termination_by structural exprs

def Segment.replaceSelf (segment : Segment) (replacement : TypeExpr) :
    Except GenerationProblem Segment :=
  match segment with
  | .plain name => return .plain name
  | .angle name arguments => do
    let arguments ← Argument.replaceSelfAll arguments replacement
    return .angle name arguments
  | .call name inputs none => do
    let inputs ← TypeExpr.replaceSelfAll inputs replacement
    return .call name inputs none
  | .call name inputs (some output) => do
    let output ← output.replaceSelf replacement
    let inputs ← TypeExpr.replaceSelfAll inputs replacement
    return .call name inputs (some output)
termination_by structural segment

def Segment.replaceSelfAll (segments : List Segment) (replacement : TypeExpr) :
    Except GenerationProblem (List Segment) :=
  match segments with
  | [] => return []
  | segment :: rest => do
    let segment ← segment.replaceSelf replacement
    let rest ← Segment.replaceSelfAll rest replacement
    return segment :: rest
termination_by structural segments

def Argument.replaceSelf (argument : Argument) (replacement : TypeExpr) :
    Except GenerationProblem Argument :=
  match argument with
  | .type type => do
    let type ← type.replaceSelf replacement
    return .type type
  | .binding name value => do
    let value ← value.replaceSelf replacement
    return .binding name value
  | .constraint name bounds => do
    let bounds ← TypeExpr.replaceSelfAll bounds replacement
    return .constraint name bounds
termination_by structural argument

def Argument.replaceSelfAll (arguments : List Argument) (replacement : TypeExpr) :
    Except GenerationProblem (List Argument) :=
  match arguments with
  | [] => return []
  | argument :: rest => do
    let argument ← argument.replaceSelf replacement
    let rest ← Argument.replaceSelfAll rest replacement
    return argument :: rest
termination_by structural arguments

end

/-! ### The replacement is the substitution, up to verbatim text -/

theorem unlessVerbatim_bind {α β : Type} (found other : Option String) (first : α) (second : α → β) :
    (unlessVerbatim found first >>= fun value => unlessVerbatim other (second value)) =
      unlessVerbatim (found.or other) (second first) := by
  cases found <;> rfl

/-- With nothing else in the way, a last step keeps the first text that was met. -/
theorem unlessVerbatim_bind_pure {α β : Type} (found : Option String) (first : α) (second : α → β) :
    (unlessVerbatim found first >>= fun value => pure (second value)) = unlessVerbatim found (second first) := by
  cases found <;> rfl

section

variable (replacement : TypeExpr)

mutual

/-- The replacement fails with the first verbatim text that it meets, and is the substitution if there is none. -/
theorem TypeExpr.replaceSelf_eq : (expr : TypeExpr) →
    expr.replaceSelf replacement = unlessVerbatim expr.firstVerbatim? (TypeExpr.substituteSelf replacement expr)
  | .lifetime _ | .constant _ | .inferred | .never | .verbatim _ => rfl
  | .path first rest => by
    rw [TypeExpr.replaceSelf, TypeExpr.substituteSelf, TypeExpr.firstVerbatim?]
    split
    next isSelf =>
      cases TypeExpr.eq_self_of_isSelf isSelf
      rfl
    · rw [first.replaceSelf_eq, Segment.replaceSelfAll_eq rest]
      simp only [unlessVerbatim_bind, unlessVerbatim_bind_pure]
  | .qualified subject _ first rest => by
    rw [TypeExpr.replaceSelf, subject.replaceSelf_eq, first.replaceSelf_eq, Segment.replaceSelfAll_eq rest]
    simp only [unlessVerbatim_bind, unlessVerbatim_bind_pure]
    rfl
  | .array element _ | .slice element | .group element | .reference _ _ element | .pointer _ element => by
    rw [TypeExpr.replaceSelf, element.replaceSelf_eq, unlessVerbatim_bind_pure]
    rfl
  | .tuple elements | .implTrait elements | .traitObject elements | .function elements none => by
    rw [TypeExpr.replaceSelf, TypeExpr.replaceSelfAll_eq elements, unlessVerbatim_bind_pure]
    rfl
  | .function inputs (some output) => by
    rw [TypeExpr.replaceSelf, output.replaceSelf_eq, TypeExpr.replaceSelfAll_eq inputs]
    simp only [unlessVerbatim_bind, unlessVerbatim_bind_pure]
    rfl

theorem TypeExpr.replaceSelfAll_eq : (exprs : List TypeExpr) →
    TypeExpr.replaceSelfAll exprs replacement =
      unlessVerbatim (TypeExpr.firstVerbatimOf? exprs) (TypeExpr.substituteSelfAll replacement exprs)
  | [] => rfl
  | expr :: rest => by
    rw [TypeExpr.replaceSelfAll, expr.replaceSelf_eq, TypeExpr.replaceSelfAll_eq rest]
    simp only [unlessVerbatim_bind, unlessVerbatim_bind_pure]
    rfl

theorem Segment.replaceSelf_eq : (segment : Segment) →
    segment.replaceSelf replacement =
      unlessVerbatim segment.firstVerbatim? (Segment.substituteSelf replacement segment)
  | .plain _ => rfl
  | .angle _ arguments => by
    rw [Segment.replaceSelf, Argument.replaceSelfAll_eq arguments, unlessVerbatim_bind_pure]
    rfl
  | .call _ inputs none => by
    rw [Segment.replaceSelf, TypeExpr.replaceSelfAll_eq inputs, unlessVerbatim_bind_pure]
    rfl
  | .call _ inputs (some output) => by
    rw [Segment.replaceSelf, output.replaceSelf_eq, TypeExpr.replaceSelfAll_eq inputs]
    simp only [unlessVerbatim_bind, unlessVerbatim_bind_pure]
    rfl

theorem Segment.replaceSelfAll_eq : (segments : List Segment) →
    Segment.replaceSelfAll segments replacement =
      unlessVerbatim (Segment.firstVerbatimOf? segments) (Segment.substituteSelfAll replacement segments)
  | [] => rfl
  | segment :: rest => by
    rw [Segment.replaceSelfAll, segment.replaceSelf_eq, Segment.replaceSelfAll_eq rest]
    simp only [unlessVerbatim_bind, unlessVerbatim_bind_pure]
    rfl

theorem Argument.replaceSelf_eq : (argument : Argument) →
    argument.replaceSelf replacement =
      unlessVerbatim argument.firstVerbatim? (Argument.substituteSelf replacement argument)
  | .type expr | .binding _ expr => by
    rw [Argument.replaceSelf, expr.replaceSelf_eq, unlessVerbatim_bind_pure]
    rfl
  | .constraint _ bounds => by
    rw [Argument.replaceSelf, TypeExpr.replaceSelfAll_eq bounds, unlessVerbatim_bind_pure]
    rfl

theorem Argument.replaceSelfAll_eq : (arguments : List Argument) →
    Argument.replaceSelfAll arguments replacement =
      unlessVerbatim (Argument.firstVerbatimOf? arguments) (Argument.substituteSelfAll replacement arguments)
  | [] => rfl
  | argument :: rest => by
    rw [Argument.replaceSelfAll, argument.replaceSelf_eq, Argument.replaceSelfAll_eq rest]
    simp only [unlessVerbatim_bind, unlessVerbatim_bind_pure]
    rfl

end

end

end CowView
