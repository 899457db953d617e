import CowView.Proofs.Naming
import CowView.Proofs.Words

/-!
How units are written. `Written` relates what is declared to the words of a text that declares it. Types and
bounds are written in any words from which the parser reads them to the end; around them commas and
semicolons may come and go, and so may annotations that leave the strategy at its default.

An annotation without parentheses may stand in front of a type that starts with a parenthesis. That
parenthesis is then taken for the one of the annotation; the relations have a parameter that asks for the
two to be kept apart.
-/

namespace CowView

open TokenStream

/-- The text consists of these words, with nothing but blanks in between. -/
def InWords (text : String) (words : List BareToken) : Prop :=
  ∃ tokens, Lexes text tokens ∧ tokens.map Token.bare = words ∧ ∀ word ∈ words, word.kind ≠ .comment

def Lexeme.bare? : Lexeme → Option BareToken
  | .token found => some found.bare
  | .fault _ => none

theorem InWords.of_lexemes {text : String} {words : List BareToken} (position : Position)
    (ends : (Lexeme.ofText text).2 = .finished position)
    (same : (Lexeme.ofText text).1.map Lexeme.bare? = words.map some) (plain : ∀ word ∈ words, word.kind ≠ .comment) :
    InWords text words := by
  have tokens (lexemes : List Lexeme) (words : List BareToken) (same : lexemes.map Lexeme.bare? = words.map some) :
      ∃ tokens : List Token, lexemes = tokens.map .token ∧ tokens.map Token.bare = words := by
    induction lexemes generalizing words with
    | nil =>
      have none : words = [] := List.map_eq_nil_iff.mp same.symm
      exact ⟨[], rfl, none.symm⟩
    | cons lexeme rest ih =>
      cases words with
      | nil => cases same
      | cons word words =>
        obtain ⟨first, later⟩ := List.cons.inj same
        obtain ⟨tokens, rfl, rfl⟩ := ih words later
        cases lexeme with
        | fault fault => cases first
        | token token =>
          cases first
          exact ⟨token :: tokens, rfl, rfl⟩
  obtain ⟨tokens, own, mapped⟩ := tokens _ _ same
  exact ⟨tokens, ⟨position, Prod.ext own ends⟩, mapped, plain⟩

def Wording {α : Type} (action : Reading α) (value : α) (words : List BareToken) : Prop :=
  ∃ text left, InWords text words ∧ action (TokenStream.ofText text) = .ok value left ∧ left.words = []

/-! ### Lists -/

section

variable {α : Type} (item : α → List BareToken → Prop)

inductive Listed : List α → List BareToken → Prop where
  | nil : Listed [] []
  | last {value : α} {words : List BareToken} (one : item value words) : Listed [value] words
  | cons {value : α} {rest : List α} {words more : List BareToken} (one : item value words)
      (later : Listed rest more) : Listed (value :: rest) (words ++ .symbol .comma :: more)

inductive Series : List α → List BareToken → Prop where
  | nil : Series [] []
  | next {value : α} {rest : List α} {words more : List BareToken} (one : item value words)
      (later : Series rest more) : Series (value :: rest) (words ++ more)
  | parted {value : α} {rest : List α} {words more : List BareToken} (one : item value words)
      (later : Series rest more) : Series (value :: rest) (words ++ .symbol .comma :: more)

end

/-! ### Parameters and annotations -/

inductive Parameter.Written : Parameter → List BareToken → Prop where
  | type (name : String) : Written (.type name []) [.name name]
  | boundedType (name : String) {bounds : List TypeExpr} {words : List BareToken}
      (right : Wording TypeExpr.parseBounds bounds words) :
      Written (.type name bounds) (.name name :: .symbol .colon :: words)
  | lifetime (duration : Lifetime) : Written (.lifetime duration []) [.lifetime duration]
  | boundedLifetime (duration : Lifetime) {bounds : List TypeExpr} {words : List BareToken}
      (right : Wording TypeExpr.parseBounds bounds words) :
      Written (.lifetime duration bounds) (.lifetime duration :: .symbol .colon :: words)
  | constant (name : String) {type : TypeExpr} {words : List BareToken}
      (right : Wording TypeExpr.parse type words) :
      Written (.constant name type) (.name "const" :: .name name :: .symbol .colon :: words)

inductive Parameter.WrittenAll : List Parameter → List BareToken → Prop where
  | none : WrittenAll [] []
  | listed {parameters : List Parameter} {words : List BareToken} (all : Listed Parameter.Written parameters words) :
      WrittenAll parameters (.symbol .lessThan :: (words ++ [.symbol .greaterThan]))

namespace Annotation

inductive Item where
  | strategy (strategy : Strategy)
  | clause (clause : String)

inductive Item.Written : Item → List BareToken → Prop where
  | strategy (strategy : Strategy) : Written (.strategy strategy) [.name strategy.tag]
  | typeClause {subject : TypeExpr} {bounds : List TypeExpr} {words more : List BareToken}
      (left : Wording TypeExpr.parse subject words) (right : Wording TypeExpr.parseBounds bounds more) :
      Written (.clause (Strategy.clause subject bounds)) (words ++ .symbol .colon :: more)
  | lifetimeClause (duration : Lifetime) {bounds : List TypeExpr} {more : List BareToken}
      (right : Wording TypeExpr.parseBounds bounds more) :
      Written (.clause (Strategy.clause (.lifetime duration) bounds)) (.lifetime duration :: .symbol .colon :: more)

def itemsOf (strategy : Option Strategy) (clauses : List String) : List Item :=
  strategy.toList.map Item.strategy ++ clauses.map Item.clause

def bareWords : List BareToken := [.symbol .atSign, .name keyword]

inductive Written : Option Strategy → List String → List BareToken → Prop where
  | omitted : Written none [] []
  | bare : Written none [] bareWords
  | listed {strategy : Option Strategy} {clauses : List String} {words : List BareToken}
      (all : Listed Item.Written (itemsOf strategy clauses) words) :
      Written strategy clauses (bareWords ++ .symbol .openParen :: (words ++ [.symbol .closeParen]))

end Annotation

/-! ### Fields, variants and declarations -/

def Field.Marked (field : Field) (words : List BareToken) : Prop :=
  ∃ strategy : Option Strategy, Annotation.Written strategy field.clauses words ∧
    field.strategy = strategy.getD .regular ∧ field.docs = ""

def Field.WrittenNamed (field : Field) (words : List BareToken) : Prop :=
  ∃ name mark type, field.Marked mark ∧ field.name = some name ∧ Wording TypeExpr.parse field.type type ∧
    words = mark ++ .name name :: .symbol .colon :: type

def Annotation.KeptApart (mark type : List BareToken) : Prop :=
  mark = Annotation.bareWords → (BareToken.ahead type).kind ≠ .openParen

def Field.WrittenTuple (apart : Prop) (field : Field) (words : List BareToken) : Prop :=
  ∃ mark type, field.Marked mark ∧ field.name = none ∧ Wording TypeExpr.parse field.type type ∧
    (apart → Annotation.KeptApart mark type) ∧ words = mark ++ type

inductive FieldList.Written (apart : Prop) : FieldList → List BareToken → Prop where
  | named {fields : List Field} {words : List BareToken} (all : Series Field.WrittenNamed fields words) :
      Written apart ⟨fields, .named⟩ (.symbol .openBrace :: (words ++ [.symbol .closeBrace]))
  | tuple {fields : List Field} {words : List BareToken} (all : Listed (Field.WrittenTuple apart) fields words) :
      Written apart ⟨fields, .tuple⟩ (.symbol .openParen :: (words ++ [.symbol .closeParen]))
  | unit : Written apart ⟨[], .unit⟩ []

def Variant.Written (apart : Prop) (variant : Variant) (words : List BareToken) : Prop :=
  ∃ list body, FieldList.Written apart list body ∧ variant.fields = list.ofVariant ∧ variant.docs = "" ∧
    words = .name variant.name :: body

inductive Body.Written (apart : Prop) : Body → List BareToken → Prop where
  | record {list : FieldList} {words : List BareToken} (one : list.Written apart words) :
      Written apart (.record list) words
  | union {variants : List Variant} {words : List BareToken} (all : Series (Variant.Written apart) variants words) :
      Written apart (.union variants) (.symbol .openBrace :: (words ++ [.symbol .closeBrace]))

def Declaration.Written (apart : Prop) (declaration : Declaration) (words : List BareToken) : Prop :=
  ∃ parameters body, Parameter.WrittenAll declaration.parameters parameters ∧
    declaration.body.Written apart body ∧ declaration.docs = "" ∧
    words = .name declaration.body.keyword :: .name declaration.name :: (parameters ++ body)

/-! ### Units -/

def semicolons (count : Nat) : List BareToken := List.replicate count (.symbol .semicolon)

inductive Declaration.WrittenAll (apart : Prop) : List Declaration → List BareToken → Prop where
  | nil : WrittenAll apart [] []
  | cons {declaration : Declaration} {rest : List Declaration} {words more : List BareToken} (count : Nat)
      (one : declaration.Written apart words) (later : WrittenAll apart rest more) :
      WrittenAll apart (declaration :: rest) (words ++ (semicolons count ++ more))

inductive ScopeWritten : Option String → List BareToken → Prop where
  | none : ScopeWritten none []
  | named (first : String) (rest : List String) :
      ScopeWritten (some (Text.join "." (first :: rest)))
        (.name "namespace" :: .name first :: rest.flatMap fun part => [.symbol .dot, .name part])

def UnitWritten (apart : Prop) (scope : Option String) (declarations : List Declaration)
    (words : List BareToken) : Prop :=
  ∃ header count body, ScopeWritten scope header ∧ Declaration.WrittenAll apart declarations body ∧
    (∀ declaration ∈ declarations, declaration.scope = scope) ∧ words = header ++ (semicolons count ++ body)

/-- The names of the declarations may be introduced and are different, also from those declared earlier, and
no type parameter has the name that starts a constant one. -/
structure WellDeclared (earlier declarations : List Declaration) : Prop where
  named : ∀ declaration ∈ declarations, declaration.WellNamed fun _ => True
  distinct : ((earlier ++ declarations).map (·.name)).Nodup
  free : ∀ declaration ∈ declarations, ∀ parameter ∈ declaration.parameters, ∀ bounds,
    parameter ≠ .type "const" bounds

end CowView
