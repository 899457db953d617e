import CowView.CommandLine.Letters
import CowView.Text.Letter
import CowView.Text.Numeral

/-!
The words of a command line. A word is an option, possibly with its value, or it is plain; after two
dashes every word is plain. `scan` deals the words out to the options and to the one operand of a
command.
-/

namespace CowView.CommandLine

inductive Flag where
  | help
  | version
  | verbose
  | output
  | viewPrefix
  | templateDirectory
  deriving DecidableEq, Repr

namespace Flag

def names : Flag → List String
  | help => ["-h", "--help"]
  | version => ["--version"]
  | verbose => ["-v", "--verbose"]
  | output => ["-o", "--output"]
  | viewPrefix => ["--prefix"]
  | templateDirectory => ["--template-dir"]

def takesValue : Flag → Bool
  | output | viewPrefix | templateDirectory => true
  | _ => false

def label (flag : Flag) : String := Text.join "/" flag.names

end Flag

/-- An option as it is found in a word: by one of its names, with the value that the word gives it. The
value is marked if an equals sign stands in front of it. -/
structure Found where
  flag : Flag
  name : String
  value : Option Letters
  isMarked : Bool
  deriving DecidableEq, Repr

inductive Word where
  | dashes
  | plain (letters : Letters)
  | option (letters : Letters) (found : Option Found)
  deriving DecidableEq, Repr

def Word.letters : Word → Letters
  | dashes => "--"
  | plain letters | option letters _ => letters

def named (flags : List Flag) : List (String × Flag) :=
  flags.flatMap fun flag => flag.names.map (·, flag)

def cutAtEquals : Letters → Option (Letters × Letters)
  | [] => none
  | .char '=' :: rest => some ([], rest)
  | letter :: rest => (cutAtEquals rest).map fun (front, after) => (letter :: front, after)

/-- Is a text a dash and a number, with or without a point? A line feed at the end does not count. -/
def isNegativeNumber : List Char → Bool
  | '-' :: characters =>
    let rest := if characters.getLast? = some '\n' then characters.dropLast else characters
    let after := rest.dropWhile Text.isDigit
    match after with
    | [] => !rest.isEmpty
    | '.' :: fraction => !fraction.isEmpty && fraction.all Text.isDigit
    | _ => false
  | _ => false

/-- The options that a word may abbreviate. Words with two dashes are cut at the equals sign, words with
one may have a value right behind the letter. -/
def candidates (flags : List Flag) (word : Letters) : List Found :=
  match word with
  | .char '-' :: .char '-' :: _ =>
    let (start, value, isMarked) := match cutAtEquals word with
      | some (front, after) => (front, some after, true)
      | none => (word, none, false)
    ((named flags).filter fun (name, _) => start.isPrefixOf (Letters.ofString name)).map
      fun (name, flag) => ⟨flag, name, value, isMarked⟩
  | _ =>
    (named flags).filterMap fun (name, flag) =>
      if Letters.ofString name = word.take 2 then some ⟨flag, name, some (word.drop 2), false⟩
      else if word.isPrefixOf (Letters.ofString name) then some ⟨flag, name, none, false⟩
      else none

def classify (flags : List Flag) (word : Letters) : Except String Word :=
  match word with
  | .char '-' :: _ :: _ =>
    let exact := fun (name : Letters) =>
      (named flags).find? fun entry => Letters.ofString entry.1 = name
    match exact word with
    | some (name, flag) => .ok (.option word (some ⟨flag, name, none, false⟩))
    | none =>
      match (cutAtEquals word).bind fun (front, after) => (exact front).map (·, after) with
      | some ((name, flag), value) => .ok (.option word (some ⟨flag, name, some value, true⟩))
      | none =>
        match candidates flags word with
        | [found] => .ok (.option word (some found))
        | [] =>
          if word.text?.any (isNegativeNumber ·.toList) || word.contains (.char ' ') then
            .ok (.plain word)
          else .ok (.option word none)
        | several => .error ("ambiguous option: " ++ word.shown ++ " could match " ++
            Text.join ", " (several.map (·.name)))
  | _ => .ok (.plain word)

def classifyAll (flags : List Flag) : List Letters → Except String (List Word)
  | [] => .ok []
  | word :: rest =>
    if word = .ofString "--" then .ok (.dashes :: rest.map .plain)
    else do
      let first ← classify flags word
      return first :: (← classifyAll flags rest)

inductive Stop where
  | help
  | version
  | wrong (message : String)
  deriving DecidableEq, Repr

def wrongWith (flag : Flag) (message : String) : Stop :=
  .wrong ("argument " ++ flag.label ++ ": " ++ message)

def unusedValue (flag : Flag) (value : Letters) : Stop :=
  wrongWith flag ("ignored explicit argument " ++ value.quoted)

/-- What an option and those run together with it come to: the options with their values, what is left
over, and whether the next word was taken as a value. -/
structure Chain where
  taken : List (Flag × Option Letters)
  extras : List String
  takesNext : Bool

def follow (flags : List Flag) (next : Option Letters) : Nat → Found → Except Stop Chain
  | 0, _ => .error (.wrong "")
  | steps + 1, found =>
    match found.value with
    | none =>
      if !found.flag.takesValue then .ok ⟨[(found.flag, none)], [], false⟩
      else match next with
        | some value => .ok ⟨[(found.flag, some value)], [], true⟩
        | none => .error (wrongWith found.flag "expected one argument")
    | some value =>
      if found.flag.takesValue then .ok ⟨[(found.flag, some value)], [], false⟩
      else
        match value, found.name.toList with
        | letter :: rest, [_, _] =>
          if found.isMarked || letter = .char '-' then .error (unusedValue found.flag value)
          else
            match (named flags).find? fun entry => Letters.ofString entry.1 = [.char '-', letter] with
            | none => .ok ⟨[(found.flag, none)], [Letters.shown (.char '-' :: value)], false⟩
            | some (name, flag) => do
              let inner := match rest with
                | [] => ⟨flag, name, none, false⟩
                | .char '=' :: after => ⟨flag, name, some after, true⟩
                | _ => ⟨flag, name, some rest, false⟩
              let chain ← follow flags next steps inner
              return { chain with taken := (found.flag, none) :: chain.taken }
        | _, _ => .error (unusedValue found.flag value)

structure Scan where
  taken : List (Flag × Option Letters) := []
  operand : Option (List Letters) := none
  extras : List String := []

namespace Scan

def takeAll (scan : Scan) : List (Flag × Option Letters) → Except Stop Scan
  | [] => .ok scan
  | (.help, _) :: _ => .error .help
  | (.version, _) :: _ => .error .version
  | entry :: rest => takeAll { scan with taken := scan.taken ++ [entry] } rest

end Scan

/-- The words of the operand at the start of some words, and how many words it takes. Two dashes beside
it belong to it, and a greedy operand takes all words after it. -/
def operand? (isGreedy : Bool) (words : List Word) : Option (List Letters × Nat) :=
  let start := match words with
    | .dashes :: .plain letters :: _ => some ([↑"--", letters], 2)
    | .plain letters :: .dashes :: _ => some ([letters, ↑"--"], 2)
    | .plain letters :: _ => some ([letters], 1)
    | _ => none
  if isGreedy then start.map fun _ => (words.map Word.letters, words.length) else start

def scanWithin (flags : List Flag) (isGreedy : Bool) : Nat → List Word → Scan → Except Stop Scan
  | 0, _, scan => .ok scan
  | _ + 1, [], scan => .ok scan
  | steps + 1, .option word found :: rest, scan =>
    match found with
    | none => scanWithin flags isGreedy steps rest { scan with extras := scan.extras ++ [word.shown] }
    | some found => do
      let next := match rest with
        | .plain value :: _ => some value
        | _ => none
      let chain ← follow flags next (word.length + 1) found
      let scan ← { scan with extras := scan.extras ++ chain.extras }.takeAll chain.taken
      scanWithin flags isGreedy steps (if chain.takesNext then rest.drop 1 else rest) scan
  | steps + 1, word :: rest, scan =>
    match if scan.operand.isSome then none else operand? isGreedy (word :: rest) with
    | some (words, count) =>
      scanWithin flags isGreedy steps ((word :: rest).drop count) { scan with operand := some words }
    | none =>
      scanWithin flags isGreedy steps rest { scan with extras := scan.extras ++ [word.letters.shown] }

def scan (flags : List Flag) (isGreedy : Bool) (arguments : List Letters) : Except Stop Scan := do
  match classifyAll flags arguments with
  | .error message => throw (.wrong message)
  | .ok words => scanWithin flags isGreedy words.length words {}

end CowView.CommandLine
