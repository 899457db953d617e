import CowView.Text.Quoted
import CowView.View

/-!
The generated text of a record: its class, with the functions that take a record apart and put it
together again, and its view class. A text is a list of lines.
-/

namespace CowView.Generated

open Text (quoted)

def bases (first : String) (typeVariables : List String) : String :=
  if typeVariables.isEmpty then first
  else first ++ ", _typing.Generic[" ++ Text.join ", " typeVariables ++ "]"

def tripleQuote : String := "    \"\"\""

/-- The literal of a documentation: each line indented, between lines of three quotes. -/
def docstring (lines : List String) : List String :=
  if lines.isEmpty then []
  else tripleQuote :: (lines.map ("    " ++ ·) ++ [tripleQuote])

def strings (values : List String) : String :=
  "(" ++ String.join (values.map fun value => quoted value ++ ", ") ++ ")"

def member (name type : String) : String := "    " ++ name ++ " : " ++ quoted type

def sourceFields (fields : List FieldView) : List String :=
  fields.map fun field => member field.field.slot field.source.render

def viewFields (fields : List FieldView) : List String :=
  fields.map fun field => member field.field.slot field.view.render

def argument (indent function subject extra : String) (field : FieldView) : String :=
  indent ++ field.field.slot ++ " = _rt.methods." ++ field.field.strategy.method ++ "." ++ function ++
    "(" ++ subject ++ "." ++ field.field.slot ++ extra ++ "),"

def call (indent head function subject extra : String) (fields : List FieldView) : List String :=
  (indent ++ head ++ "(") ::
    (fields.map (argument (indent ++ "    ") function subject extra) ++ ["", indent ++ ")"])

def callOwned (indent head : String) : List FieldView → List String :=
  call indent head "from_owned" "value" ""

def callBorrowed (indent head : String) : List FieldView → List String :=
  call indent head "from_borrowed" "value" ", this.scope"

def callBack (indent head : String) : List FieldView → List String :=
  call indent head "to_owned" "view" ""

def viewDocs (source : String) : List String :=
  [tripleQuote, "    Butchered view of " ++ source, tripleQuote]

def record (view : View) (fields : List FieldView) : List String :=
  ["@_dataclass",
    "class " ++ view.name ++ "(" ++ bases "_rt.Butcher" view.typeVariables ++ "):"] ++
  docstring view.docLines ++
  ["",
    "    SIGNATURE = " ++ quoted view.signature.render,
    "    BOUNDS = " ++ strings view.clauses,
    ""] ++
  sourceFields fields ++
  ["",
    "",
    "    @classmethod",
    "    def butcher(cls, this):",
    "        if this.is_owned:",
    "            value = this.into_owned()"] ++
  callOwned "            " ("return " ++ view.viewName) fields ++
  ["        value = this.referent"] ++
  callBorrowed "        " ("return " ++ view.viewName) fields ++
  ["",
    "    @classmethod",
    "    def unbutcher(cls, view):"] ++
  callBack "        " "return cls" fields ++
  ["",
    "",
    "@_dataclass",
    "class " ++ view.viewName ++ "(" ++ bases "_rt.View" view.typeVariables ++ "):"] ++
  viewDocs view.signature.render ++
  ["    SOURCE = " ++ view.name,
    ""] ++
  viewFields fields ++
  [""]

end CowView.Generated
