import CowView.Declaration.Parser
import CowView.Generated.Module
import CowView.View.Resolve

/-!
Generation from end to end: a text is read, its declarations are resolved, and the templates are
filled in. What was read stays registered even if a later step fails.
-/

namespace CowView

open Template

/-- Why no text is generated: the unit is rejected, or a template fails. -/
inductive GenerationFault where
  | unit (fault : Fault)
  | template (fault : TemplateFault)
  deriving DecidableEq, Repr

/-- A generation run: its settings, its templates and their engine, and the declarations registered so
far. -/
structure Context where
  settings : Settings
  loader : Loader
  engine : Generated.Engine
  registry : List Declaration

namespace Context

def ofSettings (settings : Settings) (loader : Loader := ⟨[], defaultExtension⟩)
    (engine : Generated.Engine := Generated.plainEngine) : Context :=
  ⟨settings, loader, engine, []⟩

/-- The names of the registered declarations, in the order of registration. -/
def names (context : Context) : List String := context.registry.map (·.name)

def parse (context : Context) (text : String) : Except Fault (List Declaration) × Context :=
  let (fault, state) := readUnit text context.registry
  (match fault with | none => .ok state.declared | some fault => .error fault,
    { context with registry := state.registry })

def find? (context : Context) (name : String) : Option Declaration :=
  context.registry.find? (·.name = name)

def get (context : Context) (name : String) : Except Fault Declaration :=
  match context.find? name with
  | some declaration => .ok declaration
  | none => .error (.notFound "declaration" name)

def reset (context : Context) : Context := { context with registry := [] }

def render (context : Context) (template : String) (state : UnitState) :
    Except GenerationFault Generated.Rendered :=
  match View.resolveAll context.settings state.declared with
  | .error fault => .error (.unit fault)
  | .ok views =>
    (Generated.render context.engine context.loader template
      ⟨context.settings, state.registry, state.scope, views⟩).mapError .template

def generate (context : Context) (text : String) (template : String := "module") :
    Except GenerationFault Generated.Rendered × Context :=
  let (fault, state) := readUnit text context.registry
  (match fault with
    | some fault => .error (.unit fault)
    | none => context.render template state,
    { context with registry := state.registry })

/-- The resolved declarations of a unit. -/
def resolve (context : Context) (text : String) : Except Fault (List View) := do
  View.resolveAll context.settings (← (context.parse text).1)

end Context

end CowView
