import CowView.Template.Packaged
import CowView.Text.Lines

/-!
Looking templates up. The directories of the user come first, in their order; in each of them the name
itself wins over the name with the extension. Then comes another loader, if there is one, and in the
end the packaged templates.
-/

namespace CowView.Template

/-- Why a template cannot be had or cannot be rendered. Whatever else a template raises may be one of the
failures that a command reports, with their message. -/
inductive TemplateFault where
  | notFound (name : String)
  | missingFile (path : String)
  | isDirectory (path : String)
  | zeroCharacter
  | undecodable
  | undefined (name : String)
  | raised (message : Option String)
  deriving DecidableEq, Repr

/-- The files of a directory by name; a file that is no text gives a fault. -/
abbrev Directory := String → Option (Except TemplateFault String)

/-- What a name stands for: a file of a directory, the directories being counted from 0, or a
packaged template. -/
inductive Source where
  | file (directory : Nat) (name : String) (text : String)
  | packaged (template : Packaged)
  deriving DecidableEq, Repr

def Source.text : Source → String
  | file _ _ text => text
  | packaged template => template.text

/-- The text of a file, every line end read as a line feed. -/
def fileText (content : String) : String :=
  String.ofList (Text.universalFeeds content.toList)

def search (name extension : String) : Nat → List Directory → Option (Except TemplateFault Source)
  | _, [] => none
  | index, directory :: rest =>
    let found := fun (file : String) =>
      (directory file).map fun content => content.map fun text => Source.file index file (fileText text)
    (found name).or ((found (name ++ extension)).or (search name extension (index + 1) rest))

/-- Why there is nothing under a path. No path may hold the character of code 0. -/
def absence (path : String) (otherwise : TemplateFault) : TemplateFault :=
  if '\x00' ∈ path.toList then .zeroCharacter else otherwise

def packaged? (name extension : String) : Except TemplateFault Source :=
  match Packaged.ofPath? (name ++ extension) with
  | some template => .ok (.packaged template)
  | none => .error (absence (name ++ extension) (.notFound name))

/-- Is the name a path from the root? No such path is looked for anywhere else. -/
def isAbsolute (name : String) : Bool := name.toList.head? = some '/'

def readAbsolute (path : String) : Except TemplateFault Source :=
  if path.toList.all (· = '/') then .error (.isDirectory path)
  else .error (absence path (.missingFile path))

structure Loader where
  directories : List Directory
  extension : String

/-- Looks a name up in a loader whose directories are counted from a number on, and if it is in none
of them, as told. -/
def Loader.lookupOr (loader : Loader) (first : Nat) (name : String)
    (otherwise : Except TemplateFault Source) : Except TemplateFault Source :=
  if isAbsolute name then readAbsolute name
  else (search name loader.extension first loader.directories).getD otherwise

/-- Looks a name up: in the directories, then among the packaged templates. -/
def Loader.lookup (loader : Loader) (name : String) (first : Nat := 0) :
    Except TemplateFault Source :=
  loader.lookupOr first name (packaged? name loader.extension)

/-- Looks a name up: in the directories, then by another loader, which alone knows the packaged
templates then. -/
def Loader.lookupWithParent (loader parent : Loader) (name : String) : Except TemplateFault Source :=
  loader.lookupOr 0 name (parent.lookup name loader.directories.length)

def defaultExtension : String := ".tpl"

end CowView.Template
