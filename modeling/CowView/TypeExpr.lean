import CowView.Text.Join

/-!
Type expressions as they are written in field declarations, with their rendering and with decidable
equality. Two expressions are equal exactly when they have the same form and equal parts.
-/

namespace CowView

structure Lifetime where
  name : String
  deriving DecidableEq, Repr

namespace Lifetime

def mark : String := "'"

def render (lifetime : Lifetime) : String := mark ++ lifetime.name

def ofMarked? (text : String) : Option Lifetime :=
  match text.toList with
  | first :: rest => if [first] = mark.toList then some ⟨String.ofList rest⟩ else none
  | [] => none

/-- Reads a lifetime whose mark may be missing. -/
def ofText (text : String) : Lifetime := (ofMarked? text).getD ⟨text⟩

theorem ofMarked?_render (lifetime : Lifetime) : ofMarked? lifetime.render = some lifetime := by
  simp [ofMarked?, render, mark]

end Lifetime

mutual

/-- A type expression. A path has at least one segment; in a qualified path the first `position`
segments name the trait of the subject. Lifetimes and constants are expressions of their own, since
they stand among the arguments of a path. -/
inductive TypeExpr where
  | lifetime (lifetime : Lifetime)
  | constant (value : String)
  | inferred
  | never
  | verbatim (text : String)
  | path (first : Segment) (rest : List Segment)
  | qualified (subject : TypeExpr) (position : Int) (first : Segment) (rest : List Segment)
  | array (element : TypeExpr) (length : String)
  | slice (element : TypeExpr)
  | tuple (elements : List TypeExpr)
  | group (element : TypeExpr)
  | function (inputs : List TypeExpr) (output : Option TypeExpr)
  | reference (lifetime : Option Lifetime) (isMutable : Bool) (element : TypeExpr)
  | pointer (isMutable : Bool) (element : TypeExpr)
  | implTrait (bounds : List TypeExpr)
  | traitObject (bounds : List TypeExpr)

inductive Segment where
  | plain (name : String)
  | angle (name : String) (arguments : List Argument)
  | call (name : String) (inputs : List TypeExpr) (output : Option TypeExpr)

/-- An argument in angle brackets: an expression, or an associated type that is bound to one or
constrained by bounds. -/
inductive Argument where
  | type (type : TypeExpr)
  | binding (name : String) (value : TypeExpr)
  | constraint (name : String) (bounds : List TypeExpr)

end

instance : Inhabited TypeExpr := ⟨.inferred⟩

def Segment.name : Segment → String
  | plain name | angle name _ | call name _ _ => name

namespace TypeExpr

def formName : TypeExpr → String
  | lifetime _ => "Lifetime"
  | constant _ => "ConstArg"
  | inferred => "Infer"
  | never => "Never"
  | verbatim _ => "Verbatim"
  | path .. | qualified .. => "Path"
  | array .. => "Array"
  | slice _ => "Slice"
  | tuple _ => "Tuple"
  | group _ => "Group"
  | function .. => "Function"
  | reference .. => "Reference"
  | pointer .. => "Pointer"
  | implTrait _ => "ImplTrait"
  | traitObject _ => "TraitObject"

def named (name : String) : TypeExpr := path (.plain name) []

def applied (name : String) (arguments : List TypeExpr) : TypeExpr :=
  if arguments.isEmpty then named name else path (.angle name (arguments.map .type)) []

def associated (subject : TypeExpr) (trait : Segment) (name : String) : TypeExpr :=
  qualified subject 1 trait [.plain name]

def isNamed (expr : TypeExpr) (name : String) : Bool :=
  match expr with
  | path (.plain own) [] => own = name
  | _ => false

/-- Where the segments of a qualified path are cut: a negative position counts from the end. -/
def cut (position : Int) (count : Nat) : Nat :=
  if 0 ≤ position then position.toNat else (count + position).toNat

def renderQualified (subject : String) (position : Int) (segments : List String) : String :=
  let trait :=
    if 0 < position then " as " ++ Text.join "::" (segments.take position.toNat) else ""
  Text.join "::" (("<" ++ subject ++ trait ++ ">") :: segments.drop (cut position segments.length))

end TypeExpr

mutual

def TypeExpr.render : TypeExpr → String
  | .lifetime duration => duration.render
  | .constant value => value
  | .inferred => "_"
  | .never => "!"
  | .verbatim text => text
  | .path first rest => Text.join "::" (first.render :: Segment.renderAll rest)
  | .qualified subject position first rest =>
    TypeExpr.renderQualified subject.render position (first.render :: Segment.renderAll rest)
  | .array element length => "[" ++ element.render ++ "; " ++ length ++ "]"
  | .slice element => "[" ++ element.render ++ "]"
  | .tuple [element] => "(" ++ element.render ++ ",)"
  | .tuple elements => "(" ++ Text.join ", " (TypeExpr.renderAll elements) ++ ")"
  | .group element => "(" ++ element.render ++ ")"
  | .function inputs none => "fn(" ++ Text.join ", " (TypeExpr.renderAll inputs) ++ ")"
  | .function inputs (some output) =>
    "fn(" ++ Text.join ", " (TypeExpr.renderAll inputs) ++ ") -> " ++ output.render
  | .reference duration isMutable element =>
    "&" ++ (match duration with | some duration => duration.render ++ " " | none => "") ++
      (if isMutable then "mut " else "") ++ element.render
  | .pointer isMutable element => (if isMutable then "*mut " else "*const ") ++ element.render
  | .implTrait bounds => "impl " ++ Text.join " + " (TypeExpr.renderAll bounds)
  | .traitObject bounds => "dyn " ++ Text.join " + " (TypeExpr.renderAll bounds)

def TypeExpr.renderAll : List TypeExpr → List String
  | [] => []
  | expr :: rest => expr.render :: TypeExpr.renderAll rest

def Segment.render : Segment → String
  | .plain name => name
  | .angle name arguments => name ++ "<" ++ Text.join ", " (Argument.renderAll arguments) ++ ">"
  | .call name inputs none => name ++ "(" ++ Text.join ", " (TypeExpr.renderAll inputs) ++ ")"
  | .call name inputs (some output) =>
    name ++ "(" ++ Text.join ", " (TypeExpr.renderAll inputs) ++ ") -> " ++ output.render

def Segment.renderAll : List Segment → List String
  | [] => []
  | segment :: rest => segment.render :: Segment.renderAll rest

def Argument.render : Argument → String
  | .type type => type.render
  | .binding name value => name ++ " = " ++ value.render
  | .constraint name bounds => name ++ ": " ++ Text.join " + " (TypeExpr.renderAll bounds)

def Argument.renderAll : List Argument → List String
  | [] => []
  | argument :: rest => argument.render :: Argument.renderAll rest

end

end CowView
