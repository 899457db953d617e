import CowView.Text.Quoted

/-!
The journal of a run: what was done, in order. `Event.line` is the line that a verbose run writes.
-/

namespace CowView

inductive Event where
  | reading (keyword name : String)
  | registering (name : String)
  | replacedSelf (owner field before after : String)
  | viewedField (owner field view : String)
  | resolved (signature : String) (clauses : List String)
  | rendering (count : Nat)
  | wrote (count : Nat) (file : String)
  deriving DecidableEq, Repr

namespace Event

def isNotice : Event → Bool
  | wrote .. => true
  | _ => false

/-- The part of the program that an event comes from, as reports name it. -/
def source : Event → String
  | reading .. => "butcher.dsl.parser.rules.declarations"
  | registering _ => "butcher.context"
  | replacedSelf .. => "butcher.typing.rewriter"
  | viewedField .. | resolved .. | rendering _ => "butcher.generator.synthesizer"
  | wrote .. => "butcher.console"

def text : Event → String
  | reading keyword name => "Parsing new " ++ keyword ++ ": '" ++ name ++ "'"
  | registering name => "Registering declaration: '" ++ name ++ "'"
  | replacedSelf owner field before after =>
    "Rewrote " ++ owner ++ "." ++ field ++ ": " ++ before ++ " -> " ++ after
  | viewedField owner field view => owner ++ "." ++ field ++ ": " ++ view
  | resolved signature clauses =>
    "Resolved " ++ signature ++ ", bounds: " ++ Text.quotedList clauses
  | rendering count => "Rendering " ++ toString count ++ " declarations"
  | wrote count file => "Wrote " ++ toString count ++ " declarations to " ++ file

def line (event : Event) : String :=
  (if event.isNotice then "INFO " else "DEBUG ") ++ event.source ++ ": " ++ event.text ++ "\n"

end Event

/-- The report of a run; a quiet one holds the notices alone. -/
def report (verbose : Bool) (journal : List Event) : String :=
  String.join ((journal.filter fun event => verbose || event.isNotice).map Event.line)

end CowView
