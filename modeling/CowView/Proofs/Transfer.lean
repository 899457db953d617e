import CowView.Proofs.FollowingTypes
import CowView.Proofs.Plainness
import Mathlib.Data.List.Forall2

/-!
Two runs of the type parser whose results are not the same. A `Transfer` relates actions by what one of them reads
to what another one makes of it, with a clause for each way in which the parser puts its actions together; the
texts that are read go together by a relation of the transfer, and expressions that go together are those with
related renderings. `Transfer.carried` is the induction over the functions of the parser, done once for all
transfers.
-/

namespace CowView

open TokenStream Text

/-! ### Related texts -/

structure TextRelation where
  rel : String → String → Prop
  append : ∀ {one two more more' : String}, rel one two → rel more more' → rel (one ++ more) (two ++ more')
  plain : ∀ {text : String}, CommentFree text → rel text text

namespace TextRelation

variable (texts : TextRelation) {one two : String}

theorem around (opening closing : String) (plain : CommentFree opening ∧ CommentFree closing)
    (inner : texts.rel one two) : texts.rel (opening ++ one ++ closing) (opening ++ two ++ closing) :=
  texts.append (texts.append (texts.plain plain.1) inner) (texts.plain plain.2)

theorem behind (opening : String) (plain : CommentFree opening) (inner : texts.rel one two) :
    texts.rel (opening ++ one) (opening ++ two) :=
  texts.append (texts.plain plain) inner

theorem join (separator : String) (plain : CommentFree separator) {ones twos : List String}
    (all : List.Forall₂ texts.rel ones twos) : texts.rel (Text.join separator ones) (Text.join separator twos) := by
  induction all with
  | nil => exact texts.plain (show CommentFree "" by decide)
  | @cons one two ones twos first others ih =>
    cases others with
    | nil => exact first
    | cons second others =>
      rw [join_cons_cons, join_cons_cons]
      exact texts.append (texts.append first (texts.plain plain)) ih

end TextRelation

/-! ### Related expressions -/

def TypeExpr.Fits (texts : TextRelation) (one two : TypeExpr) : Prop :=
  one.formName = two.formName ∧ texts.rel one.render two.render

def Segment.Fits (texts : TextRelation) (one two : Segment) : Prop := texts.rel one.render two.render

def Argument.Fits (texts : TextRelation) (one two : Argument) : Prop := texts.rel one.render two.render

/-- The paths have the same number of segments, cut at the same place, and their parts go together. -/
structure Path.Fits (texts : TextRelation) (one two : Path) : Prop where
  subject : Option.Rel (fun pair other => pair.1.Fits texts other.1 ∧ pair.2 = other.2) one.subject two.subject
  first : one.first.Fits texts two.first
  rest : List.Forall₂ (Segment.Fits texts) one.rest two.rest

section

variable {texts : TextRelation}

namespace TypeExpr

variable {one two : TypeExpr} {ones twos : List TypeExpr}

theorem Fits.all (all : List.Forall₂ (Fits texts) ones twos) :
    List.Forall₂ texts.rel (renderAll ones) (renderAll twos) := by
  rw [renderAll_eq_map, renderAll_eq_map, List.forall₂_map_left_iff, List.forall₂_map_right_iff]
  exact all.imp fun _ _ fits => fits.2

theorem Fits.joined {separator : String} (plain : CommentFree separator) (all : List.Forall₂ (Fits texts) ones twos) :
    texts.rel (Text.join separator (renderAll ones)) (Text.join separator (renderAll twos)) :=
  texts.join separator plain (Fits.all all)

theorem fits_inferred : inferred.Fits texts inferred := ⟨rfl, texts.plain (by decide)⟩

theorem fits_never : never.Fits texts never := ⟨rfl, texts.plain (by decide)⟩

theorem fits_lifetime {duration : Lifetime} (own : texts.rel duration.render duration.render) :
    (lifetime duration).Fits texts (lifetime duration) := ⟨rfl, own⟩

theorem fits_constant {value : String} (own : texts.rel value value) :
    (constant value).Fits texts (constant value) := ⟨rfl, own⟩

theorem Fits.array {length : String} (fits : one.Fits texts two) (own : texts.rel length length) :
    (array one length).Fits texts (array two length) :=
  ⟨rfl, texts.append (texts.append (texts.around "[" "; " (by decide) fits.2) own) (texts.plain (by decide))⟩

theorem Fits.slice (fits : one.Fits texts two) : (slice one).Fits texts (slice two) :=
  ⟨rfl, texts.around "[" "]" (by decide) fits.2⟩

theorem Fits.group (fits : one.Fits texts two) : (group one).Fits texts (group two) :=
  ⟨rfl, texts.around "(" ")" (by decide) fits.2⟩

theorem Fits.tuple (all : List.Forall₂ (Fits texts) ones twos) : (tuple ones).Fits texts (tuple twos) := by
  refine ⟨rfl, ?_⟩
  match all with
  | .nil => exact texts.plain (by decide)
  | .cons first .nil => exact texts.around "(" ",)" (by decide) first.2
  | .cons first (.cons second rest) =>
    exact texts.around "(" ")" (by decide) (Fits.joined (by decide) (.cons first (.cons second rest)))

theorem Fits.function {result result' : Option TypeExpr} (all : List.Forall₂ (Fits texts) ones twos)
    (last : Option.Rel (Fits texts) result result') :
    (function ones result).Fits texts (function twos result') := by
  refine ⟨rfl, ?_⟩
  have inputs := Fits.joined (show CommentFree ", " by decide) all
  cases last with
  | none => exact texts.around "fn(" ")" (by decide) inputs
  | some fits => exact texts.append (texts.around "fn(" ") -> " (by decide) inputs) fits.2

theorem Fits.reference {duration : Option Lifetime} {isMutable : Bool}
    (own : ∀ name ∈ duration, texts.rel name.render name.render) (fits : one.Fits texts two) :
    (reference duration isMutable one).Fits texts (reference duration isMutable two) := by
  refine ⟨rfl, texts.append (texts.append (texts.behind "&" (by decide) ?_) ?_) fits.2⟩
  · cases duration with
    | none => exact texts.plain (by decide)
    | some name => exact texts.append (own name rfl) (texts.plain (by decide))
  · cases isMutable <;> exact texts.plain (by decide)

theorem Fits.pointer {isMutable : Bool} (fits : one.Fits texts two) :
    (pointer isMutable one).Fits texts (pointer isMutable two) := by
  refine ⟨rfl, texts.append ?_ fits.2⟩
  cases isMutable <;> exact texts.plain (by decide)

theorem Fits.implTrait (all : List.Forall₂ (Fits texts) ones twos) : (implTrait ones).Fits texts (implTrait twos) :=
  ⟨rfl, texts.behind "impl " (by decide) (Fits.joined (by decide) all)⟩

theorem Fits.traitObject (all : List.Forall₂ (Fits texts) ones twos) :
    (traitObject ones).Fits texts (traitObject twos) :=
  ⟨rfl, texts.behind "dyn " (by decide) (Fits.joined (by decide) all)⟩

theorem Fits.exists_verbatim {text : String} (fits : (verbatim text).Fits texts two) :
    ∃ other, two = verbatim other ∧ texts.rel text other := by
  obtain ⟨form, same⟩ := fits
  cases two with
  | verbatim other => exact ⟨other, rfl, same⟩
  | _ => simp [formName] at form

end TypeExpr

namespace Argument

theorem fits_type {one two : TypeExpr} (fits : one.Fits texts two) :
    (Argument.type one).Fits texts (Argument.type two) := fits.2

theorem fits_binding {name : String} {one two : TypeExpr} (own : texts.rel name name) (fits : one.Fits texts two) :
    (binding name one).Fits texts (binding name two) :=
  texts.append (texts.append own (texts.plain (by decide))) fits.2

theorem fits_constraint {name : String} {ones twos : List TypeExpr} (own : texts.rel name name)
    (all : List.Forall₂ (TypeExpr.Fits texts) ones twos) : (constraint name ones).Fits texts (constraint name twos) :=
  texts.append (texts.append own (texts.plain (by decide))) (TypeExpr.Fits.joined (by decide) all)

end Argument

namespace Segment

theorem fits_angle {name : String} {ones twos : List Argument} (own : texts.rel name name)
    (all : List.Forall₂ (Argument.Fits texts) ones twos) : (angle name ones).Fits texts (angle name twos) := by
  refine texts.append (texts.append (texts.append own (texts.plain (by decide))) (texts.join ", " (by decide) ?_))
    (texts.plain (by decide))
  rw [Argument.renderAll_eq_map, Argument.renderAll_eq_map, List.forall₂_map_left_iff, List.forall₂_map_right_iff]
  exact all

theorem fits_call {name : String} {ones twos : List TypeExpr} {result result' : Option TypeExpr}
    (own : texts.rel name name) (all : List.Forall₂ (TypeExpr.Fits texts) ones twos)
    (last : Option.Rel (TypeExpr.Fits texts) result result') :
    (call name ones result).Fits texts (call name twos result') := by
  have inputs := texts.append (texts.append own (texts.plain (show CommentFree "(" by decide)))
    (TypeExpr.Fits.joined (show CommentFree ", " by decide) all)
  cases last with
  | none => exact texts.append inputs (texts.plain (by decide))
  | some fits => exact texts.append (texts.append inputs (texts.plain (by decide))) fits.2

theorem Fits.all {ones twos : List Segment} (all : List.Forall₂ (Segment.Fits texts) ones twos) :
    List.Forall₂ texts.rel (renderAll ones) (renderAll twos) := by
  rw [renderAll_eq_map, renderAll_eq_map, List.forall₂_map_left_iff, List.forall₂_map_right_iff]
  exact all

end Segment

theorem TypeExpr.rel_renderQualified {subject subject' : String} {position : Int} {ones twos : List String}
    (first : texts.rel subject subject') (all : List.Forall₂ texts.rel ones twos) :
    texts.rel (renderQualified subject position ones) (renderQualified subject' position twos) := by
  unfold renderQualified
  refine texts.join "::" (by decide) (.cons ?_ ?_)
  · refine texts.append (texts.append (texts.behind "<" (by decide) first) ?_) (texts.plain (by decide))
    split
    · exact texts.behind " as " (by decide) (texts.join "::" (by decide) (List.forall₂_take _ all))
    · exact texts.plain (by decide)
  · rw [all.length_eq]
    exact List.forall₂_drop _ all

/-- Paths that go together are expressions that do. -/
theorem Path.Fits.toExpr {one two : Path} (fits : one.Fits texts two) : one.toExpr.Fits texts two.toExpr := by
  obtain ⟨subject, first, rest⟩ := one
  obtain ⟨subject', first', rest'⟩ := two
  obtain ⟨subjects, firsts, rests⟩ := fits
  have all := Segment.Fits.all (.cons firsts rests)
  cases subjects with
  | none => exact ⟨rfl, texts.join "::" (by decide) all⟩
  | some pair =>
    refine ⟨rfl, ?_⟩
    obtain ⟨own, same⟩ := pair
    simp only [Path.toExpr, TypeExpr.render, ← same]
    exact TypeExpr.rel_renderQualified own.2 all

theorem Path.Fits.segments {one two : Path} (fits : one.Fits texts two) :
    List.Forall₂ (Segment.Fits texts) one.segments two.segments := .cons fits.first fits.rest

end

/-! ### Transfers -/

def TokenKind.signs : List TokenKind := [atSign, dot]

/-- A kind that the parser takes off a stream on purpose. -/
def TokenKind.IsRead (kind : TokenKind) : Prop := kind.IsSolid ∧ kind ∉ signs

instance (kind : TokenKind) : Decidable kind.IsRead := inferInstanceAs (Decidable (_ ∧ _))

def Refuses {α : Type} (action : Reading α) : Prop := ∀ stream value left, action stream ≠ .ok value left

def TakesSome {α : Type} (action : Reading α) : Prop :=
  ∀ (tokens : List Token) (after : Position) (docs : String) (value : α),
    (∀ token ∈ tokens, token.bare.Lexed ∧ token.kind ≠ .comment) →
      action (delivering tokens after docs) ≠ .ok value (delivering tokens after docs)

/-- A relation between actions, and between actions where a certain token is in front, with a clause for each way
in which the type parser puts its actions together. -/
structure Transfer extends TextRelation where
  Carries : {α β : Type} → (α → β → Prop) → Reading α → Reading β → Prop
  CarriesAt : {α β : Type} → BareToken → (α → β → Prop) → Reading α → Reading β → Prop
  given : ∀ {α β : Type} {fit : α → β → Prop} {value : α} {value' : β}, fit value value' →
    Carries fit (return value) (return value')
  refused : ∀ {α β : Type} {fit : α → β → Prop} {one : Reading α} {two : Reading β}, Refuses one → Carries fit one two
  followed : ∀ {α β γ δ : Type} {fit : α → β → Prop} {fit' : γ → δ → Prop} {one : Reading α} {two : Reading β}
    {next : α → Reading γ} {next' : β → Reading δ}, Carries fit one two →
      (∀ value value', fit value value' → Carries fit' (next value) (next' value')) →
        Carries fit' (one >>= next) (two >>= next')
  test : ∀ {α β : Type} {fit : α → β → Prop} {kind : TokenKind} {wanted : Option String} {next : Bool → Reading α}
    {next' : Bool → Reading β}, kind.IsRead → (∀ found, Carries fit (next found) (next' found)) →
      Carries fit (nextIs kind wanted >>= next) (nextIs kind wanted >>= next')
  glance : ∀ {α β : Type} {fit : α → β → Prop} {kind : TokenKind} {wanted : Option String} {next : Bool → Reading α}
    {next' : Bool → Reading β}, kind.IsRead →
      (∀ front : BareToken, front.kind = kind → CarriesAt front fit (next true) (next' true)) →
        Carries fit (next false) (next' false) →
          Carries fit (peekedIs kind wanted >>= next) (peekedIs kind wanted >>= next')
  ensured : ∀ {α β : Type} {fit : α → β → Prop} {kind : TokenKind} {wanted : Option String} {next : String → Reading α}
    {next' : String → Reading β}, kind.IsRead →
      (∀ value, rel value value → Carries fit (next value) (next' value)) →
        Carries fit (ensure kind wanted >>= next) (ensure kind wanted >>= next')
  looked : ∀ {α β : Type} {fit : α → β → Prop} {next : Token → Reading α} {next' : Token → Reading β},
    (∀ front placed : Token, placed.bare = front.bare → next' placed = next' front ∨ Refuses (next front)) →
      (∀ front : Token, CarriesAt front.bare fit (next front) (next' front)) →
        Carries fit (current >>= next) (current >>= next')
  located : ∀ {α β : Type} {fit : α → β → Prop} {one : Reading α} {two : Reading β}, Carries fit one two →
    ∀ front, CarriesAt front fit one two
  moved : ∀ {α β : Type} {fit : α → β → Prop} {front : BareToken} {kind : TokenKind} {one : Reading α}
    {two : Reading β} {next : Token → Reading α} {next' : Token → Reading β}, front.kind = kind → kind.IsRead →
      (∀ placed : Token, placed.bare = front → next placed = one ∧ next' placed = two) →
        (rel front.value front.value → Carries fit one two) →
          CarriesAt front fit (TokenStream.next >>= next) (TokenStream.next >>= next')
  glimpsed : ∀ {α β : Type} {fit : α → β → Prop} {front : BareToken} {yes : Reading α} {yes' : Reading β} {value : α}
    {value' : β}, front.kind = .doubleColon → Carries fit yes yes' → fit value value' →
      CarriesAt front fit (do
        let colons ← next
        if ← peekedIs .lessThan then yes else do
          unget colons
          return value) (do
        let colons ← next
        if ← peekedIs .lessThan then yes' else do
          unget colons
          return value')
  named : ∀ {α β : Type} {fit : α → β → Prop} {front : BareToken} {bound more : String → Reading α}
    {bound' more' : String → Reading β} {bare : Reading α} {bare' : Reading β}, front.kind = .identifier →
      (∀ value, rel value value → Carries fit (bound value) (bound' value)) →
        (∀ value, rel value value → Carries fit (more value) (more' value)) → Carries fit bare bare' →
          TakesSome bare' → CarriesAt front fit (do
            let name ← next
            if ← nextIs .equals then bound name.value
            else if ← nextIs .colon then more name.value
            else do
              unget name
              bare) (do
            let name ← next
            if ← nextIs .equals then bound' name.value
            else if ← nextIs .colon then more' name.value
            else do
              unget name
              bare')
  group : ∀ {path path' : String}, rel path path' →
    Carries (TypeExpr.Fits toTextRelation) (TypeExpr.Parser.macroGroup path) (TypeExpr.Parser.macroGroup path')

namespace Transfer

variable (transfer : Transfer) {α β γ δ : Type} {fit : α → β → Prop} {fit' : γ → δ → Prop}
  {kind : TokenKind} {wanted : Option String}

theorem tested {yes no : Reading α} {yes' no' : Reading β} (read : kind.IsRead)
    (first : transfer.Carries fit yes yes') (second : transfer.Carries fit no no') :
    transfer.Carries fit (nextIs kind wanted >>= fun found => if found = true then yes else no)
      (nextIs kind wanted >>= fun found => if found = true then yes' else no') := by
  refine transfer.test read fun found => ?_
  cases found
  · exact second
  · exact first

theorem glanced {yes no : Reading α} {yes' no' : Reading β} (read : kind.IsRead)
    (first : ∀ front : BareToken, front.kind = kind → transfer.CarriesAt front fit yes yes')
    (second : transfer.Carries fit no no') :
    transfer.Carries fit (peekedIs kind wanted >>= fun found => if found = true then yes else no)
      (peekedIs kind wanted >>= fun found => if found = true then yes' else no') :=
  transfer.glance read first second

theorem throws {fault : Fault} {two : Reading β} : transfer.Carries fit (throw fault : Reading α) two :=
  transfer.refused fun _ _ _ read => by cases read

/-- The token in front is taken, and what follows does not depend on it. -/
theorem passed {front : BareToken} {one : Reading α} {two : Reading β} (same : front.kind = kind) (read : kind.IsRead)
    (later : transfer.Carries fit one two) :
    transfer.CarriesAt front fit (TokenStream.next >>= fun _ => one) (TokenStream.next >>= fun _ => two) :=
  transfer.moved same read (fun _ _ => ⟨rfl, rfl⟩) fun _ => later

theorem mapped {one : Reading α} {two : Reading β} {change : α → γ} {change' : β → δ}
    (front : transfer.Carries fit one two)
    (fits : ∀ value value', fit value value' → fit' (change value) (change' value')) :
    transfer.Carries fit' (change <$> one) (change' <$> two) := by
  rw [map_eq_pure_bind, map_eq_pure_bind]
  exact transfer.followed front fun value value' same => transfer.given (fits value value' same)

end Transfer

end CowView
