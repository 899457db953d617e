import CowView.Proofs.Reading
import CowView.TypeExpr.Parser

/-!
The grammar of type expressions, read off the trees. `TypeExpr.words` are the tokens of an expression,
`TypeExpr.continuesAt` says which token after them would become a part of it, and
`TypeExpr.WellFormed` collects what the parser makes sure of.
-/

namespace CowView

/-! ### The tokens of an expression -/

namespace BareToken

def measure (text : String) : BareToken :=
  if text.toList.head?.any Text.isDigit then ⟨.number, text⟩ else .name text

def lifetime (duration : Lifetime) : BareToken := ⟨.lifetime, duration.render⟩

theorem IsWord.ofMarked? {token : BareToken} (own : token.IsWord) (kind : token.kind = .lifetime) :
    ∃ duration, Lifetime.ofMarked? token.value = some duration ∧ token = BareToken.lifetime duration := by
  cases own with
  | identifier => cases kind
  | number => cases kind
  | @lifetime rest named word =>
    refine ⟨⟨String.ofList rest⟩, ?_, ?_⟩
    · rw [Lifetime.ofMarked?, String.toList_ofList]
      rfl
    · rw [BareToken.lifetime]
      congr 1
      apply String.toList_injective
      simp [Lifetime.render, Lifetime.mark, Lexer.lifetimeMark]

def join (separator : TokenKind) : List (List BareToken) → List BareToken
  | [] => []
  | [part] => part
  | part :: rest => part ++ .symbol separator :: join separator rest

def ofText (text : String) : List BareToken :=
  (Lexeme.ofText text).1.filterMap fun
    | .token token => some token.bare
    | .fault _ => none

def qualified (subject : List BareToken) (position : Int) (segments : List (List BareToken)) :
    List BareToken :=
  let trait :=
    if 0 < position then .name "as" :: join .doubleColon (segments.take position.toNat) else []
  .symbol .lessThan :: (subject ++ (trait ++ .symbol .greaterThan :: .symbol .doubleColon ::
    join .doubleColon (segments.drop position.toNat)))

end BareToken

mutual

def TypeExpr.words : TypeExpr → List BareToken
  | .lifetime duration => [.lifetime duration]
  | .constant value => [⟨.number, value⟩]
  | .inferred => [.name "_"]
  | .never => [.symbol .bang]
  | .verbatim text => BareToken.ofText text
  | .path first rest => BareToken.join .doubleColon (first.words :: Segment.wordsAll rest)
  | .qualified subject position first rest =>
    BareToken.qualified subject.words position (first.words :: Segment.wordsAll rest)
  | .array element length =>
    .symbol .openSquare ::
      (element.words ++ [.symbol .semicolon, .measure length, .symbol .closeSquare])
  | .slice element => .symbol .openSquare :: (element.words ++ [.symbol .closeSquare])
  | .tuple [element] =>
    .symbol .openParen :: (element.words ++ [.symbol .comma, .symbol .closeParen])
  | .tuple elements =>
    .symbol .openParen :: (BareToken.join .comma (TypeExpr.wordsAll elements) ++ [.symbol .closeParen])
  | .group element => .symbol .openParen :: (element.words ++ [.symbol .closeParen])
  | .function inputs output =>
    .name "fn" :: .symbol .openParen :: (BareToken.join .comma (TypeExpr.wordsAll inputs) ++
      .symbol .closeParen :: TypeExpr.outputWords output)
  | .reference duration isMutable element =>
    .symbol .ampersand :: ((duration.map .lifetime).toList ++
      ((if isMutable then [.name "mut"] else []) ++ element.words))
  | .pointer isMutable element =>
    .symbol .star :: .name (if isMutable then "mut" else "const") :: element.words
  | .implTrait bounds => .name "impl" :: BareToken.join .plus (TypeExpr.wordsAll bounds)
  | .traitObject bounds => .name "dyn" :: BareToken.join .plus (TypeExpr.wordsAll bounds)

def TypeExpr.wordsAll : List TypeExpr → List (List BareToken)
  | [] => []
  | expr :: rest => expr.words :: TypeExpr.wordsAll rest

def TypeExpr.outputWords : Option TypeExpr → List BareToken
  | none => []
  | some output => .symbol .arrow :: output.words

def Segment.words : Segment → List BareToken
  | .plain name => [.name name]
  | .angle name arguments =>
    .name name :: .symbol .lessThan ::
      (BareToken.join .comma (Argument.wordsAll arguments) ++ [.symbol .greaterThan])
  | .call name inputs output =>
    .name name :: .symbol .openParen :: (BareToken.join .comma (TypeExpr.wordsAll inputs) ++
      .symbol .closeParen :: TypeExpr.outputWords output)

def Segment.wordsAll : List Segment → List (List BareToken)
  | [] => []
  | segment :: rest => segment.words :: Segment.wordsAll rest

def Argument.words : Argument → List BareToken
  | .type type => type.words
  | .binding name value => .name name :: .symbol .equals :: value.words
  | .constraint name bounds =>
    .name name :: .symbol .colon :: BareToken.join .plus (TypeExpr.wordsAll bounds)

def Argument.wordsAll : List Argument → List (List BareToken)
  | [] => []
  | argument :: rest => argument.words :: Argument.wordsAll rest

end

theorem TypeExpr.wordsAll_eq_map (exprs : List TypeExpr) : wordsAll exprs = exprs.map words := by
  induction exprs with
  | nil => rfl
  | cons expr rest ih => rw [wordsAll, ih, List.map_cons]

theorem Segment.wordsAll_eq_map (segments : List Segment) :
    wordsAll segments = segments.map words := by
  induction segments with
  | nil => rfl
  | cons segment rest ih => rw [wordsAll, ih, List.map_cons]

theorem Argument.wordsAll_eq_map (arguments : List Argument) :
    wordsAll arguments = arguments.map words := by
  induction arguments with
  | nil => rfl
  | cons argument rest ih => rw [wordsAll, ih, List.map_cons]

/-! ### What would go on -/

mutual

/-- Would a token of the kind after the expression become a part of it? The bang after a path makes a
macro of it. -/
def TypeExpr.continuesAt (kind : TokenKind) : TypeExpr → Bool
  | .path first rest | .qualified _ _ first rest =>
    kind = .bang || kind = .doubleColon ||
      Segment.lastContinuesAt kind (first.continuesAt kind) rest
  | .function _ none => kind = .arrow
  | .function _ (some output) => output.continuesAt kind
  | .reference _ _ element | .pointer _ element => element.continuesAt kind
  | .implTrait bounds | .traitObject bounds =>
    kind = .plus || TypeExpr.lastContinuesAt kind bounds
  | _ => false

def TypeExpr.lastContinuesAt (kind : TokenKind) : List TypeExpr → Bool
  | [] => false
  | [bound] => bound.boundContinuesAt kind
  | _ :: rest => TypeExpr.lastContinuesAt kind rest

def TypeExpr.boundContinuesAt (kind : TokenKind) : TypeExpr → Bool
  | .path first rest | .qualified _ _ first rest =>
    kind = .doubleColon || Segment.lastContinuesAt kind (first.continuesAt kind) rest
  | _ => false

def Segment.continuesAt (kind : TokenKind) : Segment → Bool
  | .plain _ => kind = .lessThan || kind = .openParen
  | .angle _ _ => false
  | .call _ _ none => kind = .arrow
  | .call _ _ (some output) => output.continuesAt kind

def Segment.lastContinuesAt (kind : TokenKind) (before : Bool) : List Segment → Bool
  | [] => before
  | segment :: rest => Segment.lastContinuesAt kind (segment.continuesAt kind) rest

end

/-- The kinds that may go on with something: all others end every expression. -/
def TokenKind.extending : List TokenKind := [bang, doubleColon, arrow, plus, lessThan, openParen]

mutual

theorem TypeExpr.continuesAt_eq_false {kind : TokenKind} (ending : kind ∉ TokenKind.extending) :
    (expr : TypeExpr) → expr.continuesAt kind = false
  | .path first rest | .qualified _ _ first rest => by
    have noBang : kind ≠ .bang := by rintro rfl; exact ending (by decide)
    have noColon : kind ≠ .doubleColon := by rintro rfl; exact ending (by decide)
    simp [TypeExpr.continuesAt, noBang, noColon, Segment.lastContinuesAt_eq_false ending rest
      (first.continuesAt_eq_false ending)]
  | .function _ none => by
    have noArrow : kind ≠ .arrow := by rintro rfl; exact ending (by decide)
    simp [TypeExpr.continuesAt, noArrow]
  | .function _ (some output) => output.continuesAt_eq_false ending
  | .reference _ _ element | .pointer _ element => element.continuesAt_eq_false ending
  | .implTrait bounds | .traitObject bounds => by
    have noPlus : kind ≠ .plus := by rintro rfl; exact ending (by decide)
    simp [TypeExpr.continuesAt, noPlus, TypeExpr.lastContinuesAt_eq_false ending bounds]
  | .lifetime _ | .constant _ | .inferred | .never | .verbatim _ | .array _ _ | .slice _
  | .tuple _ | .group _ => by simp [TypeExpr.continuesAt]

theorem TypeExpr.lastContinuesAt_eq_false {kind : TokenKind} (ending : kind ∉ TokenKind.extending) :
    (bounds : List TypeExpr) → TypeExpr.lastContinuesAt kind bounds = false
  | [] => rfl
  | [bound] => bound.boundContinuesAt_eq_false ending
  | _ :: second :: rest => TypeExpr.lastContinuesAt_eq_false ending (second :: rest)

theorem TypeExpr.boundContinuesAt_eq_false {kind : TokenKind}
    (ending : kind ∉ TokenKind.extending) :
    (bound : TypeExpr) → bound.boundContinuesAt kind = false
  | .path first rest | .qualified _ _ first rest => by
    have noColon : kind ≠ .doubleColon := by rintro rfl; exact ending (by decide)
    simp [TypeExpr.boundContinuesAt, noColon, Segment.lastContinuesAt_eq_false ending rest
      (first.continuesAt_eq_false ending)]
  | .function _ _ | .reference _ _ _ | .pointer _ _ | .implTrait _ | .traitObject _ | .lifetime _
  | .constant _ | .inferred | .never | .verbatim _ | .array _ _ | .slice _ | .tuple _
  | .group _ => by simp [TypeExpr.boundContinuesAt]

theorem Segment.continuesAt_eq_false {kind : TokenKind} (ending : kind ∉ TokenKind.extending) :
    (segment : Segment) → segment.continuesAt kind = false
  | .plain _ => by
    have noAngle : kind ≠ .lessThan := by rintro rfl; exact ending (by decide)
    have noParen : kind ≠ .openParen := by rintro rfl; exact ending (by decide)
    simp [Segment.continuesAt, noAngle, noParen]
  | .angle _ _ => rfl
  | .call _ _ none => by
    have noArrow : kind ≠ .arrow := by rintro rfl; exact ending (by decide)
    simp [Segment.continuesAt, noArrow]
  | .call _ _ (some output) => output.continuesAt_eq_false ending

theorem Segment.lastContinuesAt_eq_false {kind : TokenKind} (ending : kind ∉ TokenKind.extending) :
    (segments : List Segment) → {before : Bool} → before = false →
      Segment.lastContinuesAt kind before segments = false
  | [], _, same => same
  | segment :: rest, _, _ =>
    Segment.lastContinuesAt_eq_false ending rest (segment.continuesAt_eq_false ending)

end

def Segment.Parted (segments : List Segment) : Prop :=
  ∀ segment ∈ segments.dropLast, segment.continuesAt .doubleColon = false

def TypeExpr.Parted (bounds : List TypeExpr) : Prop :=
  ∀ bound ∈ bounds.dropLast, bound.boundContinuesAt .plus = false

/-! ### Well-formed expressions -/

namespace TypeExpr

/-- The names that no path starts with where a type is expected. -/
def reserved : List String := ["_", "fn", "impl", "dyn"]

def isPath : TypeExpr → Bool
  | path .. | qualified .. => true
  | _ => false

def isType : TypeExpr → Bool
  | lifetime _ | constant _ => false
  | path first _ => first.name ∉ reserved
  | group element => element.isType
  | _ => true

def isBound : TypeExpr → Bool
  | lifetime _ => true
  | group element => element.isPath
  | expr => expr.isPath

/-- Is it something that stands among the arguments in angle brackets? -/
def isArgument : TypeExpr → Bool
  | lifetime _ | constant _ => true
  | expr => expr.isType

end TypeExpr

def TokenKind.startsType (kind : TokenKind) : Bool :=
  kind ∈ [openParen, openSquare, ampersand, star, bang, lessThan, identifier]

def BareToken.StartsType : List BareToken → Prop
  | [] => False
  | first :: rest => first.kind.startsType ∧
    ∀ second ∈ rest.head?, first.kind = .identifier → second.kind ≠ .equals ∧ second.kind ≠ .colon

def Text.StartsApart (characters : List Char) : Prop :=
  characters.head?.any Lexer.isWordCharacter = false

instance (characters : List Char) : Decidable (Text.StartsApart characters) :=
  inferInstanceAs (Decidable (_ = false))

def Spells (text : String) (words : List BareToken) : Prop :=
  ∀ (rest : List Char) (tokens : List BareToken), Text.StartsApart rest → Spelled rest tokens →
    Spelled (text.toList ++ rest) (words ++ tokens)

structure TypeExpr.Opaque (text : String) : Prop where
  spells : Spells text (BareToken.ofText text)
  starts : BareToken.StartsType (BareToken.ofText text)
  reads : ∀ steps, 8 * (BareToken.ofText text).length + 4 ≤ steps →
    Reads (Parser.type steps) (BareToken.ofText text) (.verbatim text) fun _ => True

mutual

/-- What the parser makes sure of: names are names, the parts are of the right kind, and no part
would take in the token after it. Inside the trait of a qualified path this is certain only of strict
expressions. -/
def TypeExpr.WellFormed (strict : Prop) : TypeExpr → Prop
  | .lifetime duration => (BareToken.lifetime duration).IsWord
  | .constant value => (⟨.number, value⟩ : BareToken).IsWord
  | .inferred | .never => True
  | .verbatim text => TypeExpr.Opaque text
  | .path first rest =>
    first.WellFormed strict ∧ Segment.WellFormedAll strict rest ∧ Segment.Parted (first :: rest)
  | .qualified subject position first rest =>
    (subject.isType ∧ subject.WellFormed strict) ∧ first.WellFormed strict ∧
      Segment.WellFormedAll strict rest ∧ (0 ≤ position ∧ position.toNat ≤ rest.length) ∧
      Segment.Parted ((first :: rest).drop position.toNat) ∧
      (strict → Segment.Parted ((first :: rest).take position.toNat))
  | .array element length =>
    (element.isType ∧ element.WellFormed strict) ∧ (BareToken.measure length).IsWord
  | .slice element => element.isType ∧ element.WellFormed strict
  | .tuple elements => (∀ element ∈ elements, element.isType) ∧ TypeExpr.WellFormedAll strict elements
  | .group element => element.WellFormed strict
  | .function inputs output =>
    ((∀ input ∈ inputs, input.isType) ∧ TypeExpr.WellFormedAll strict inputs) ∧
      (∀ result ∈ output, result.isType) ∧ TypeExpr.OutputWellFormed strict output
  | .reference duration isMutable element =>
    (∀ name ∈ duration, (BareToken.lifetime name).IsWord) ∧
      (element.isType ∧ element.WellFormed strict) ∧
      (isMutable = false → BareToken.ahead element.words ≠ .name "mut")
  | .pointer _ element => element.isType ∧ element.WellFormed strict
  | .implTrait bounds | .traitObject bounds =>
    (∀ bound ∈ bounds, bound.isBound) ∧ TypeExpr.WellFormedAll strict bounds ∧ bounds ≠ [] ∧
      TypeExpr.Parted bounds

def TypeExpr.WellFormedAll (strict : Prop) : List TypeExpr → Prop
  | [] => True
  | expr :: rest => expr.WellFormed strict ∧ TypeExpr.WellFormedAll strict rest

def TypeExpr.OutputWellFormed (strict : Prop) : Option TypeExpr → Prop
  | none => True
  | some output => output.WellFormed strict

def Segment.WellFormed (strict : Prop) : Segment → Prop
  | .plain name => (BareToken.name name).IsWord
  | .angle name arguments => (BareToken.name name).IsWord ∧ Argument.WellFormedAll strict arguments
  | .call name inputs output =>
    (BareToken.name name).IsWord ∧
      ((∀ input ∈ inputs, input.isType) ∧ TypeExpr.WellFormedAll strict inputs) ∧
      (∀ result ∈ output, result.isType) ∧ TypeExpr.OutputWellFormed strict output

def Segment.WellFormedAll (strict : Prop) : List Segment → Prop
  | [] => True
  | segment :: rest => segment.WellFormed strict ∧ Segment.WellFormedAll strict rest

def Argument.WellFormed (strict : Prop) : Argument → Prop
  | .type type => type.isArgument ∧ type.WellFormed strict
  | .binding name value =>
    (BareToken.name name).IsWord ∧ value.isType ∧ value.WellFormed strict
  | .constraint name bounds =>
    (BareToken.name name).IsWord ∧ (∀ bound ∈ bounds, bound.isBound) ∧
      TypeExpr.WellFormedAll strict bounds ∧ bounds ≠ [] ∧ TypeExpr.Parted bounds

def Argument.WellFormedAll (strict : Prop) : List Argument → Prop
  | [] => True
  | argument :: rest => argument.WellFormed strict ∧ Argument.WellFormedAll strict rest

end

end CowView
