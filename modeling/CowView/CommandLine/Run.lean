import CowView.CommandLine.Files
import CowView.CommandLine.Usage
import CowView.Generation

/-!
Running a command. `perform` reads the input and makes the text, without writing anything; what is
written to a file is told afterwards, and `Performance.report` says what stands on the two channels
and how the run ends. `runIn` does all of it on a tree of files.
-/

namespace CowView.CommandLine

open Generated (Engine Rendered)

/-- Why a command fails. -/
inductive Failure where
  | unusable (path : Letters) (problem : PathProblem)
  | undecodable
  | unencodable
  | generation (fault : GenerationFault)
  deriving DecidableEq, Repr

/-- What a failing command says. A failure without a message breaks the run off. -/
def Failure.message? : Failure → Option String
  | unusable path problem => problem.message? path
  | generation (.unit fault) => some fault.message
  | generation (.template (.notFound name)) => some name
  | generation (.template (.missingFile path)) => PathProblem.missing.message? path
  | generation (.template (.isDirectory path)) => PathProblem.isDirectory.message? path
  | generation (.template (.raised message)) => message
  | _ => none

/-- How a run ends: with a code after a command, with a code instead of one, or broken off. -/
inductive Ending where
  | finished (code : Nat)
  | refused (code : Nat)
  | broken (failure : Failure)
  deriving DecidableEq, Repr

/-- What a run puts on the channels of the output and of the errors, and how it ends. -/
structure Report where
  ending : Ending
  out : String
  err : String
  deriving DecidableEq, Repr

/-- A command carried out: its text or why there is none, the number of declarations, and the
journal. -/
structure Performance where
  result : Except Failure Rendered
  count : Nat
  journal : List Event

abbrev Reader := Letters → Except PathProblem ByteArray

def templatesIn (read : Reader) (directory : Letters) : Template.Directory := fun name =>
  match read (inDirectory directory name) with
  | .error _ => none
  | .ok content => some ((String.fromUTF8? content).elim (.error .undecodable) .ok)

namespace Command

def settings (command : Command) : Settings :=
  { Settings.ofOptions (command.viewPrefix.map (·.shown)) none with
    isEncodable := command.viewPrefix.all (·.text?.isSome) }

def loader (command : Command) (read : Reader) : Template.Loader :=
  ⟨command.templateDirectories.map (templatesIn read), Template.defaultExtension⟩

def target? (command : Command) : Option Letters := command.output.filter (· ≠ [])

def readablePaths (command : Command) : List Letters :=
  command.input :: command.templateDirectories.flatMap fun directory =>
    ["module", "record", "union", "macros"].flatMap fun name =>
      [name, name ++ Template.defaultExtension].map (inDirectory directory <| .ofString ·)

def inputText (command : Command) (read : Reader) : Except Failure String :=
  match read command.input with
  | .error problem => .error (.unusable command.input problem)
  | .ok content => (String.fromUTF8? content).elim (.error .undecodable) (.ok ∘ Template.fileText)

end Command

def summaryLines (view : View) : List String :=
  (view.signature.render ++ " -> " ++ view.viewName) :: view.clauses.map ("    " ++ ·)

def summary (views : List View) : String := Generated.ofLines (views.flatMap summaryLines)

def performUnit (engine : Engine) (command : Command) (read : Reader) (state : UnitState) : Performance :=
  let settings := command.settings
  let journal := state.journal ++ View.resolutions settings state.declared
  let count := state.declared.length
  match View.resolveAll settings state.declared with
  | .error fault => ⟨.error (.generation (.unit fault)), count, journal⟩
  | .ok views =>
    match command.verb with
    | .check => ⟨.ok (.text (summary views)), count, journal⟩
    | .generate =>
      let rendered := Generated.render engine (command.loader read) "module"
        ⟨settings, state.registry, state.scope, views⟩
      ⟨rendered.mapError (.generation ∘ .template), count, journal ++ [.rendering count]⟩

/-- Carries a command out, without writing anything. -/
def perform (engine : Engine) (command : Command) (read : Reader) : Performance :=
  match command.inputText read with
  | .error failure => ⟨.error failure, 0, []⟩
  | .ok text =>
    match readUnit text [] with
    | (some fault, state) => ⟨.error (.generation (.unit fault)), 0, state.journal⟩
    | (none, state) => performUnit engine command read state

namespace Performance

def pending? (performance : Performance) (command : Command) : Option (Letters × Rendered) :=
  match performance.result, command.target? with
  | .ok rendered, some path => some (path, rendered)
  | _, _ => none

def written (performance : Performance) (path : Letters) : Performance :=
  { performance with
    result := .ok (.text "")
    journal := performance.journal ++ [.wrote performance.count path.shown] }

def failing (performance : Performance) (failure : Failure) : Performance :=
  { performance with result := .error failure }

/-- What a performance shows. The channel of the output is as strict as a file: it takes nothing of a text that cannot
be encoded. -/
def report (performance : Performance) (command : Command) : Report :=
  let journal := CowView.report command.isVerbose performance.journal
  match performance.result with
  | .ok (.text text) => ⟨.finished 0, text, journal⟩
  | .ok .unencodable => ⟨.broken .unencodable, "", journal⟩
  | .error failure =>
    match failure.message? with
    | some message => ⟨.finished 1, "", journal ++ message ++ "\n"⟩
    | none => ⟨.broken failure, "", journal⟩

end Performance

def Refusal.report (refusal : Refusal) : Report :=
  ⟨.refused refusal.code, refusal.out, refusal.complaint⟩

def helpReport : Report := ⟨.finished 1, help, ""⟩

def write (performance : Performance) (command : Command) (path : Letters) (rendered : Rendered)
    (tree : FileTree) : Report × FileTree :=
  match tree.target path, rendered with
  | .error problem, _ => ((performance.failing (.unusable path problem)).report command, tree)
  | .ok place, .text text => ((performance.written path).report command, tree.put place text.toUTF8)
  | .ok place, .unencodable => ((performance.failing .unencodable).report command, tree.put place .empty)

def Command.runIn (command : Command) (engine : Engine) (tree : FileTree) : Report × FileTree :=
  let performance := perform engine command tree.read
  match performance.pending? command with
  | none => (performance.report command, tree)
  | some (path, rendered) => write performance command path rendered tree

def runIn (engine : Engine) (arguments : List Letters) (tree : FileTree) : Report × FileTree :=
  match Request.ofArguments arguments with
  | .refused refusal => (refusal.report, tree)
  | .nothing => (helpReport, tree)
  | .command command => command.runIn engine tree

end CowView.CommandLine
