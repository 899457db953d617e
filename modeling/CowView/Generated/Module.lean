import CowView.Generated.Union
import CowView.Settings
import CowView.Template.Lookup
import CowView.Version

/-!
The generated module: its head, the type variables, the text of each declaration, and the list of the
names it offers. A template of the user takes the place of the packaged one of its name; what is rendered
then is up to the engine of the templates.
-/

namespace CowView.Generated

open Text (quoted)
open Template

/-- Lines as a text, each ended by a line feed. -/
def ofLines (lines : List String) : String := String.join (lines.map (· ++ "\n"))

def head (scope : Option String) : List String :=
  ["# Generated by butcher " ++ Version.text Version.current ++
      (match scope with | some name => " from namespace " ++ name | none => "") ++ ". Do not edit.",
    "",
    "import typing as _typing",
    "from dataclasses import dataclass as _dataclass",
    "from butcher import errors as _errors",
    "from butcher import runtime as _rt",
    ""]

def typeVariables (views : List View) : List String :=
  (views.flatMap (·.typeVariables)).map fun name =>
    name ++ " = _typing.TypeVar(" ++ quoted name ++ ")"

def offered (views : List View) : List String :=
  ["", "__all__ = ["] ++
    ((views.flatMap (·.publicNames)).map fun name => "    " ++ quoted name ++ ",") ++ ["]"]

def declaration (view : View) : List String :=
  match view.body with
  | .record fields => record view fields
  | .union variants => union view variants

def templateOf (view : View) : String :=
  match view.body with
  | .record _ => "record"
  | .union _ => "union"

def moduleText (scope : Option String) (views : List View) : String :=
  ofLines (head scope ++ typeVariables views) ++
    String.join (views.map fun view => "\n" ++ ofLines (declaration view)) ++ ofLines (offered views)

/-- What a template is rendered to: a text, or one with characters that no file can hold. -/
inductive Rendered where
  | text (content : String)
  | unencodable
  deriving DecidableEq, Repr

/-- What a template is rendered from: the settings, all registered declarations, and the namespace and the
resolved declarations of the unit. -/
structure Subject where
  settings : Settings
  registry : List Declaration
  scope : Option String
  views : List View

/-- What the packaged templates make of a unit. The names of views are part of the text. -/
def Subject.packaged (subject : Subject) : Rendered :=
  if subject.settings.isEncodable || subject.views.isEmpty then
    .text (moduleText subject.scope subject.views)
  else .unencodable

/-- An engine that renders a template of a loader, some of whose templates are the user's. -/
abbrev Engine := Loader → (template : String) → Subject → Except TemplateFault Rendered

def isPackaged (loader : Loader) (name : String) : Bool :=
  match loader.lookup name with
  | .ok (.packaged _) => true
  | _ => false

def includesPackaged (loader : Loader) (views : List View) : Bool :=
  views.all fun view => isPackaged loader (templateOf view) && isPackaged loader "macros"

/-- What a template makes of a unit. The macros on their own leave the line feeds between them, and the
template of a declaration needs one. -/
def render (engine : Engine) (loader : Loader) (template : String) (subject : Subject) :
    Except TemplateFault Rendered := do
  match ← loader.lookup template with
  | .file .. => engine loader template subject
  | .packaged .module =>
    if includesPackaged loader subject.views then return subject.packaged
    else engine loader template subject
  | .packaged .macros => return .text "\n\n\n\n\n\n"
  | .packaged _ =>
    if isPackaged loader "macros" then throw (.undefined "decl") else engine loader template subject

/-! ### Templates without markup -/

/-- Fails unless the shared macros are the packaged ones: a plain text defines none. -/
def requireMacros (loader : Loader) : Except TemplateFault Unit := do
  match ← loader.lookup "macros" with
  | .packaged .macros => return ()
  | _ => throw (.undefined "bases")

def include_ (loader : Loader) (view : View) : Except TemplateFault String := do
  match ← loader.lookup (templateOf view) with
  | .file _ _ text => return text
  | .packaged _ =>
    requireMacros loader
    return ofLines (declaration view)

/-- An engine that takes the templates of the user for plain texts. -/
def plainEngine : Engine := fun loader template subject => do
  match ← loader.lookup template with
  | .file _ _ text => return .text text
  | .packaged .module =>
    let texts ← subject.views.mapM (include_ loader)
    let encodable := subject.settings.isEncodable || subject.views.isEmpty
    if encodable then
      return .text (ofLines (head subject.scope ++ typeVariables subject.views) ++
        String.join (texts.map ("\n" ++ ·)) ++ ofLines (offered subject.views))
    else return .unencodable
  | .packaged _ =>
    let _ ← loader.lookup "macros"
    throw (.undefined "decl")

end CowView.Generated
