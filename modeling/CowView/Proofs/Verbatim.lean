import CowView.TypeExpr.Substitution

/-!
Verbatim text inside expressions. `TypeExpr.HoldsVerbatim` speaks about the walk through an expression;
the replacement of `Self` searches it in another order, and `firstVerbatim?_eq_none_iff` says that this
search misses nothing.
-/

namespace CowView

/-- Verbatim text stands somewhere inside the expression. -/
def TypeExpr.HoldsVerbatim (expr : TypeExpr) : Prop := ∃ text, .verbatim text ∈ expr.walk

/-- What a search found is among the nodes; nothing was found only if none of them is verbatim text. -/
def Finds (nodes : List TypeExpr) : Option String → Prop
  | some text => .verbatim text ∈ nodes
  | none => ∀ text, .verbatim text ∉ nodes

namespace Finds

variable {left right nodes : List TypeExpr} {found other : Option String}

theorem nil : Finds [] none := by simp [Finds]

theorem here (text : String) : Finds [.verbatim text] (some text) := by simp [Finds]

theorem behind (node : TypeExpr) (plain : ∀ text, TypeExpr.verbatim text ≠ node)
    (rest : Finds nodes found) : Finds (node :: nodes) found := by
  cases found with
  | none => simpa [Finds, plain] using rest
  | some text => exact List.mem_cons_of_mem _ rest

theorem append (first : Finds left found) (second : Finds right other) :
    Finds (left ++ right) (found.or other) := by
  cases found with
  | some text => exact List.mem_append_left _ first
  | none =>
    cases other with
    | some text => exact List.mem_append_right _ second
    | none =>
      intro text member
      rcases List.mem_append.mp member with member | member
      · exact first text member
      · exact second text member

/-- The later nodes may be searched before the earlier ones. -/
theorem append_later (second : Finds right other) (first : Finds left found) :
    Finds (left ++ right) (other.or found) := by
  cases other with
  | some text => exact List.mem_append_right _ second
  | none => simpa using append first second

end Finds

mutual

/-- The search for verbatim text misses no part of an expression. -/
theorem TypeExpr.finds_firstVerbatim? : (expr : TypeExpr) → Finds expr.walk expr.firstVerbatim?
  | .lifetime _ | .constant _ | .inferred | .never => .behind _ nofun .nil
  | .verbatim text => .here text
  | .path first rest =>
    .behind _ nofun (first.finds_firstVerbatim?.append (Segment.finds_firstVerbatimOf? rest))
  | .qualified subject _ first rest =>
    .behind _ nofun (subject.finds_firstVerbatim?.append
      (first.finds_firstVerbatim?.append (Segment.finds_firstVerbatimOf? rest)))
  | .array element _ | .slice element | .group element | .reference _ _ element
  | .pointer _ element => .behind _ nofun element.finds_firstVerbatim?
  | .tuple elements => .behind _ nofun (TypeExpr.finds_firstVerbatimOf? elements)
  | .function inputs none => .behind _ nofun (TypeExpr.finds_firstVerbatimOf? inputs)
  | .function inputs (some output) =>
    .behind _ nofun (output.finds_firstVerbatim?.append_later (TypeExpr.finds_firstVerbatimOf? inputs))
  | .implTrait bounds | .traitObject bounds =>
    .behind _ nofun (TypeExpr.finds_firstVerbatimOf? bounds)

theorem TypeExpr.finds_firstVerbatimOf? : (exprs : List TypeExpr) →
    Finds (TypeExpr.walkAll exprs) (TypeExpr.firstVerbatimOf? exprs)
  | [] => .nil
  | expr :: rest => expr.finds_firstVerbatim?.append (TypeExpr.finds_firstVerbatimOf? rest)

theorem Segment.finds_firstVerbatim? : (segment : Segment) →
    Finds segment.walk segment.firstVerbatim?
  | .plain _ => .nil
  | .angle _ arguments => Argument.finds_firstVerbatimOf? arguments
  | .call _ inputs none => TypeExpr.finds_firstVerbatimOf? inputs
  | .call _ inputs (some output) =>
    output.finds_firstVerbatim?.append_later (TypeExpr.finds_firstVerbatimOf? inputs)

theorem Segment.finds_firstVerbatimOf? : (segments : List Segment) →
    Finds (Segment.walkAll segments) (Segment.firstVerbatimOf? segments)
  | [] => .nil
  | segment :: rest => segment.finds_firstVerbatim?.append (Segment.finds_firstVerbatimOf? rest)

theorem Argument.finds_firstVerbatim? : (argument : Argument) →
    Finds argument.walk argument.firstVerbatim?
  | .type expr => expr.finds_firstVerbatim?
  | .binding _ value => value.finds_firstVerbatim?
  | .constraint _ bounds => TypeExpr.finds_firstVerbatimOf? bounds

theorem Argument.finds_firstVerbatimOf? : (arguments : List Argument) →
    Finds (Argument.walkAll arguments) (Argument.firstVerbatimOf? arguments)
  | [] => .nil
  | argument :: rest => argument.finds_firstVerbatim?.append (Argument.finds_firstVerbatimOf? rest)

end

namespace TypeExpr

theorem verbatim_mem_walk {expr : TypeExpr} {text : String}
    (found : expr.firstVerbatim? = some text) : .verbatim text ∈ expr.walk := by
  have search := expr.finds_firstVerbatim?
  rw [found] at search
  exact search

theorem firstVerbatim?_eq_none_iff (expr : TypeExpr) :
    expr.firstVerbatim? = none ↔ ¬ expr.HoldsVerbatim := by
  have search := expr.finds_firstVerbatim?
  constructor
  · intro absent
    rw [absent] at search
    rintro ⟨text, member⟩
    exact search text member
  · intro clean
    cases found : expr.firstVerbatim? with
    | none => rfl
    | some text => exact absurd ⟨text, verbatim_mem_walk found⟩ clean

end TypeExpr

end CowView
