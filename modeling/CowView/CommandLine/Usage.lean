import CowView.CommandLine.Words
import CowView.Version

/-!
The commands, and the texts that explain them.
-/

namespace CowView.CommandLine

/-- The commands: generating a text, and checking a unit without generating anything. -/
inductive Verb where
  | generate
  | check
  deriving DecidableEq, Repr

namespace Verb

def word : Verb → String
  | generate => "gen"
  | check => "check"

def all : List Verb := [generate, check]

def flags : Verb → List Flag
  | generate => [.help, .verbose, .output, .viewPrefix, .templateDirectory]
  | check => [.help, .verbose]

def program (verb : Verb) : String := "butcher " ++ verb.word

def usage : Verb → String
  | generate =>
    "usage: butcher gen [-h] [-v] [-o OUTPUT] [--prefix PREFIX]\n" ++
    "                   [--template-dir TEMPLATE_DIRS]\n" ++
    "                   input\n"
  | check => "usage: butcher check [-h] [-v] input\n"

def help : Verb → String
  | generate => usage generate ++
    "\npositional arguments:\n" ++
    "  input                 File with the declarations\n" ++
    "\noptions:\n" ++
    "  -h, --help            show this help message and exit\n" ++
    "  -v, --verbose         Log every step of the generation\n" ++
    "  -o OUTPUT, --output OUTPUT\n" ++
    "                        File to write the source to (stdout if not given)\n" ++
    "  --prefix PREFIX       Prefix of view type names (default: Butchered)\n" ++
    "  --template-dir TEMPLATE_DIRS\n" ++
    "                        Directory searched for templates before the packaged\n" ++
    "                        ones\n"
  | check => usage check ++
    "\npositional arguments:\n" ++
    "  input          File with the declarations\n" ++
    "\noptions:\n" ++
    "  -h, --help     show this help message and exit\n" ++
    "  -v, --verbose  Log every step of the generation\n"

end Verb

def commonFlags : List Flag := [.help, .version]

def program : String := "butcher"

def usage : String := "usage: butcher [-h] [--version] \x7bgen,check\x7d ...\n"

def help : String := usage ++
  "\nGenerates butchered views of records and unions\n" ++
  "\npositional arguments:\n" ++
  "  \x7bgen,check\x7d  Command to run\n" ++
  "    gen        Generate the python source for the declarations in a file\n" ++
  "    check      Parse and resolve the declarations in a file without generating\n" ++
  "               anything\n" ++
  "\noptions:\n" ++
  "  -h, --help   show this help message and exit\n" ++
  "  --version    show program's version number and exit\n"

def versionLine : String := program ++ " " ++ Version.text Version.current ++ "\n"

/-- What is said about a wrong command line. -/
def complaint (usage program message : String) : String :=
  usage ++ program ++ ": error: " ++ message ++ "\n"

structure Command where
  verb : Verb
  input : Letters
  isVerbose : Bool
  output : Option Letters
  viewPrefix : Option Letters
  templateDirectories : List Letters
  deriving DecidableEq, Repr

/-- A command line that is no command: a text on one of the two channels and the code to exit with. -/
structure Refusal where
  code : Nat
  out : String
  complaint : String
  deriving DecidableEq, Repr

/-- What a command line asks for: a command, nothing, or the end. -/
inductive Request where
  | command (command : Command)
  | nothing
  | refused (refusal : Refusal)
  deriving DecidableEq, Repr

def Stop.refusal (stop : Stop) (usage help program : String) : Refusal :=
  match stop with
  | .help => ⟨0, help, ""⟩
  | .version => ⟨0, versionLine, ""⟩
  | .wrong message => ⟨2, "", CommandLine.complaint usage program message⟩

def lastValue? (taken : List (Flag × Option Letters)) (flag : Flag) : Option Letters :=
  (taken.filterMap fun (other, value) => if other = flag then value else none).getLast?

def Command.ofScan (verb : Verb) (input : Letters) (scan : Scan) : Command where
  verb
  input
  isVerbose := scan.taken.any (·.1 = .verbose)
  output := lastValue? scan.taken .output
  viewPrefix := lastValue? scan.taken .viewPrefix
  templateDirectories := scan.taken.filterMap fun (flag, value) =>
    if flag = .templateDirectory then value else none

def Request.ofVerb (verb : Verb) (arguments : List Letters) (extras : List String) : Request :=
  match scan verb.flags false arguments with
  | .error stop => .refused (stop.refusal verb.usage verb.help verb.program)
  | .ok found =>
    match (found.operand.map fun words => words.erase ↑"--") with
    | some (input :: _) =>
      let extras := extras ++ found.extras
      if extras.isEmpty then .command (.ofScan verb input found)
      else .refused ((Stop.wrong ("unrecognized arguments: " ++ Text.join " " extras)).refusal
        usage help program)
    | _ => .refused ((Stop.wrong "the following arguments are required: input").refusal
        verb.usage verb.help verb.program)

def Request.ofArguments (arguments : List Letters) : Request :=
  match scan commonFlags true arguments with
  | .error stop => .refused (stop.refusal usage help program)
  | .ok found =>
    match found.operand with
    | some (word :: rest) =>
      match Verb.all.find? (Letters.ofString ·.word = word) with
      | some verb => .ofVerb verb rest found.extras
      | none => .refused ((Stop.wrong ("argument command: invalid choice: " ++ word.quoted ++
          " (choose from " ++ Text.join ", " (Verb.all.map fun verb => Text.quoted verb.word) ++
          ")")).refusal usage help program)
    | _ =>
      if found.extras.isEmpty then .nothing
      else .refused ((Stop.wrong ("unrecognized arguments: " ++
        Text.join " " found.extras)).refusal usage help program)

end CowView.CommandLine
