import CowView.CommandLine.Letters

/-!
Files by path. A path leads from the working directory, or from the root if it starts with a slash, one
part at a time; whatever is passed on the way has to be a directory. Around the working directory
nothing is known but the places that every system has.
-/

namespace CowView.CommandLine

/-- Why a path cannot be used. No path may hold the character of code 0. -/
inductive PathProblem where
  | missing
  | notDirectory
  | isDirectory
  | tooLong
  | zeroCharacter
  | other (number : Nat) (text : String)
  deriving DecidableEq, Repr

namespace PathProblem

def numbered? : PathProblem → Option (Nat × String)
  | missing => some (2, "No such file or directory")
  | notDirectory => some (20, "Not a directory")
  | isDirectory => some (21, "Is a directory")
  | tooLong => some (36, "File name too long")
  | zeroCharacter => none
  | other number text => some (number, text)

def ofNumber (number : Nat) (text : String) : PathProblem :=
  match number with
  | 2 => missing
  | 20 => notDirectory
  | 21 => isDirectory
  | 36 => tooLong
  | _ => other number text

def message? (problem : PathProblem) (path : Letters) : Option String :=
  problem.numbered?.map fun (number, text) =>
    "[Errno " ++ toString number ++ "] " ++ text ++ ": " ++ path.quoted

end PathProblem

/-- A file in a directory whose name may be empty, for the working directory, or end with a slash. -/
def inDirectory (directory name : Letters) : Letters :=
  if directory = [] || directory.getLast? = some (.char '/') then directory ++ name
  else directory ++ .char '/' :: name

def pathParts : Letters → List Letters
  | [] => [[]]
  | .char '/' :: rest => [] :: pathParts rest
  | letter :: rest =>
    match pathParts rest with
    | [] => [[letter]]
    | part :: parts => (letter :: part) :: parts

/-- Where a path leads: under the working directory, or under the root. The names stand in order, the
last one in front. -/
structure Place where
  isWorking : Bool
  names : List Letters
  deriving DecidableEq, Repr

namespace Place

def working : Place := ⟨true, []⟩

def root : Place := ⟨false, []⟩

/-- The directory that holds a place; that of the working directory is taken for the root. -/
def parent (place : Place) : Place :=
  match place.names with
  | [] => root
  | _ :: names => { place with names }

def child (place : Place) (name : Letters) : Place := { place with names := name :: place.names }

def isUnder (place directory : Place) : Bool :=
  place.isWorking = directory.isWorking && place ≠ directory &&
    directory.names.isSuffixOf place.names

end Place

inductive Entry where
  | absent
  | directory
  | file (content : ByteArray)

/-- The files of a working directory, the latest one at a place in front. -/
structure FileTree where
  files : List (Place × ByteArray)

namespace FileTree

def knownDirectories : List Place := [.working, .root, ⟨false, ["tmp"]⟩]

def entry (tree : FileTree) (place : Place) : Entry :=
  match tree.files.find? (·.1 = place) with
  | some (_, content) => .file content
  | none =>
    if place ∈ knownDirectories || tree.files.any (·.1.isUnder place) then .directory else .absent

def follow (tree : FileTree) (place : Place) : List Letters → Except PathProblem Place
  | [] => .ok place
  | part :: rest =>
    match tree.entry place with
    | .absent => .error .missing
    | .file _ => .error .notDirectory
    | .directory =>
      if part.size > 255 then .error .tooLong
      else if part = [] || part = .ofString "." then tree.follow place rest
      else if part = .ofString ".." then tree.follow place.parent rest
      else tree.follow (place.child part) rest

def place (tree : FileTree) (path : Letters) : Except PathProblem Place :=
  if path.contains (.char (Char.ofNat 0)) then .error .zeroCharacter
  else if path.size > 4095 then .error .tooLong
  else match path with
    | [] => .error .missing
    | .char '/' :: _ => tree.follow .root (pathParts path)
    | _ => tree.follow .working (pathParts path)

def read (tree : FileTree) (path : Letters) : Except PathProblem ByteArray := do
  match tree.entry (← tree.place path) with
  | .absent => throw .missing
  | .directory => throw .isDirectory
  | .file content => return content

def withoutSlashes (path : Letters) : Letters :=
  (path.reverse.dropWhile (· = .char '/')).reverse

def target (tree : FileTree) (path : Letters) : Except PathProblem Place := do
  let start := withoutSlashes path
  if start = path then
    let place ← tree.place path
    match tree.entry place with
    | .directory => throw .isDirectory
    | _ => return place
  else
    match tree.entry (← tree.place (if start = [] then .ofString "/" else start)) with
    | .file _ => throw .notDirectory
    | _ => throw .isDirectory

def put (tree : FileTree) (place : Place) (content : ByteArray) : FileTree :=
  ⟨(place, content) :: tree.files⟩

end FileTree

end CowView.CommandLine
