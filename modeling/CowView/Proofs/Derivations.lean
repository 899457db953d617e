import Mathlib.Algebra.GroupWithZero.Nat
import CowView.Proofs.RoundTrip

/-!
The grammar of type expressions as a relation between the tokens that are read and the tree that is built from them.
`Derives` spells every production out, with the double colons and the commas that no rendering writes. There is one
more thing that a tree does not hold: the trait of a qualified path may be a qualified path itself, and its own subject
is lost. `Derives.trims_iff` says that nothing else is.
-/

namespace CowView

open Text

/-! ### Tokens that are left out -/

/-- Tokens, and the same tokens without some double colons in front of angle brackets and some commas in front of
closing parentheses and angle brackets. -/
inductive Trims : List BareToken → List BareToken → Prop
  | nil : Trims [] []
  | keep (token : BareToken) {tokens kept : List BareToken} (rest : Trims tokens kept) :
    Trims (token :: tokens) (token :: kept)
  | colons {tokens kept : List BareToken} (rest : Trims (.symbol .lessThan :: tokens) kept) :
    Trims (.symbol .doubleColon :: .symbol .lessThan :: tokens) kept
  | comma {closer : TokenKind} {tokens kept : List BareToken} (closing : closer = .closeParen ∨ closer = .greaterThan)
    (rest : Trims (.symbol closer :: tokens) kept) : Trims (.symbol .comma :: .symbol closer :: tokens) kept

def BareToken.angles (tokens : List BareToken) : Nat := tokens.countP fun token => token.kind = .lessThan

namespace Trims

variable {tokens kept others rest : List BareToken}

theorem refl (tokens : List BareToken) : Trims tokens tokens := by
  induction tokens with
  | nil => exact .nil
  | cons token rest ih => exact .keep token ih

theorem append (first : Trims tokens kept) (second : Trims others rest) : Trims (tokens ++ others) (kept ++ rest) := by
  induction first with
  | nil => exact second
  | keep token _ ih => exact .keep token ih
  | colons _ ih => exact .colons ih
  | comma closing _ ih => exact .comma closing ih

/-- No angle bracket is left out. -/
theorem angles_eq (trims : Trims tokens kept) : BareToken.angles tokens = BareToken.angles kept := by
  induction trims with
  | nil => rfl
  | keep token _ ih => rw [BareToken.angles, List.countP_cons, BareToken.angles, List.countP_cons]; exact congrArg (· + _) ih
  | colons _ ih => exact ih
  | comma _ _ ih => exact ih

end Trims

namespace BareToken

variable {parts : List (List BareToken)} {part tokens rest : List BareToken} {closer : TokenKind}

@[simp] theorem angles_nil : angles [] = 0 := rfl

@[simp] theorem angles_append (tokens rest : List BareToken) : angles (tokens ++ rest) = angles tokens + angles rest :=
  List.countP_append

theorem angles_cons (token : BareToken) (rest : List BareToken) :
    angles (token :: rest) = angles rest + if token.kind = .lessThan then 1 else 0 := by
  simp [angles, List.countP_cons]

theorem angles_cons_of_ne {token : BareToken} (other : token.kind ≠ .lessThan) (rest : List BareToken) :
    angles (token :: rest) = angles rest := by
  rw [angles_cons, if_neg other, Nat.add_zero]

@[simp] theorem angles_name (name : String) (rest : List BareToken) : angles (.name name :: rest) = angles rest :=
  angles_cons_of_ne (by simp [BareToken.name]) rest

@[simp] theorem angles_lifetime (duration : Lifetime) (rest : List BareToken) :
    angles (.lifetime duration :: rest) = angles rest :=
  angles_cons_of_ne (by simp [BareToken.lifetime]) rest

@[simp] theorem angles_measure (length : String) (rest : List BareToken) :
    angles (.measure length :: rest) = angles rest :=
  angles_cons_of_ne (by unfold measure; split <;> simp [BareToken.name]) rest

@[simp] theorem angles_symbol (kind : TokenKind) (rest : List BareToken) :
    angles (.symbol kind :: rest) = angles rest + if kind = .lessThan then 1 else 0 :=
  angles_cons _ _

/-- A separator other than the bracket counts for nothing. -/
theorem angles_join_cons {separator : TokenKind} (other : separator ≠ .lessThan) (part : List BareToken)
    (parts : List (List BareToken)) :
    angles (join separator (part :: parts)) = angles part + angles (join separator parts) := by
  cases parts with
  | nil => rfl
  | cons second parts => simp [join, other]

theorem join_cons_append (separator closer : TokenKind) (part : List BareToken) (shown : parts ≠ []) :
    join separator (part :: parts) ++ [.symbol closer] =
      part ++ .symbol separator :: (join separator parts ++ [.symbol closer]) := by
  cases parts with
  | nil => exact absurd rfl shown
  | cons second parts => simp [join]

end BareToken

/-! ### The productions -/

namespace TypeExpr

inductive Form where
  | type (expr : TypeExpr)
  /-- The rest of a list in parentheses, with the closing one. -/
  | types (exprs : List TypeExpr)
  | output (result : Option TypeExpr)
  | path (found : Path)
  /-- The segments behind another one. -/
  | segments (found : List Segment)
  | segment (found : Segment)
  /-- The rest of a list in angle brackets, with the closing one. -/
  | arguments (found : List Argument)
  | argument (found : Argument)
  | bounds (found : List TypeExpr)
  | bound (found : TypeExpr)

namespace Form

def words : Form → List BareToken
  | type expr | bound expr => expr.words
  | types exprs => BareToken.join .comma (wordsAll exprs) ++ [.symbol .closeParen]
  | output result => outputWords result
  | path found => found.toExpr.words
  | segments found => Segment.wordsAfter found
  | segment found => found.words
  | arguments found => BareToken.join .comma (Argument.wordsAll found) ++ [.symbol .greaterThan]
  | argument found => found.words
  | bounds found => BareToken.join .plus (wordsAll found)

def VerbatimFree : Form → Prop
  | type expr | bound expr => expr.firstVerbatim? = none
  | types exprs | bounds exprs => firstVerbatimOf? exprs = none
  | output result => ∀ expr ∈ result, expr.firstVerbatim? = none
  | path found => found.toExpr.firstVerbatim? = none ∧ Segment.firstVerbatimOf? found.segments = none
  | segments found => Segment.firstVerbatimOf? found = none
  | segment found => found.firstVerbatim? = none
  | arguments found => Argument.firstVerbatimOf? found = none
  | argument found => found.firstVerbatim? = none

end Form

def subjectOf (found : Path) : List TypeExpr := (found.subject.map Prod.fst).toList

inductive Derives : Form → List BareToken → List TypeExpr → Prop
  | inferred : Derives (.type .inferred) [.name "_"] []
  | unit : Derives (.type (.tuple [])) [.symbol .openParen, .symbol .closeParen] []
  | group {element words lost} (own : Derives (.type element) words lost) :
    Derives (.type (.group element)) (.symbol .openParen :: (words ++ [.symbol .closeParen])) lost
  | tuple {element elements words others lost more} (first : Derives (.type element) words lost)
    (rest : Derives (.types elements) others more) : Derives (.type (.tuple (element :: elements)))
      (.symbol .openParen :: (words ++ .symbol .comma :: others)) (lost ++ more)
  | slice {element words lost} (own : Derives (.type element) words lost) :
    Derives (.type (.slice element)) (.symbol .openSquare :: (words ++ [.symbol .closeSquare])) lost
  | array {element words lost} (length : String) (own : Derives (.type element) words lost) :
    Derives (.type (.array element length)) (.symbol .openSquare ::
      (words ++ [.symbol .semicolon, .measure length, .symbol .closeSquare])) lost
  | reference {element words lost} (duration : Option Lifetime) (isMutable : Bool)
    (own : Derives (.type element) words lost) : Derives (.type (.reference duration isMutable element))
      (.symbol .ampersand :: ((duration.map .lifetime).toList ++
        ((if isMutable then [.name "mut"] else []) ++ words))) lost
  | pointer {element words lost} (isMutable : Bool) (own : Derives (.type element) words lost) :
    Derives (.type (.pointer isMutable element))
      (.symbol .star :: .name (if isMutable then "mut" else "const") :: words) lost
  | function {inputs result words others lost more} (front : Derives (.types inputs) words lost)
    (back : Derives (.output result) others more) : Derives (.type (.function inputs result))
      (.name "fn" :: .symbol .openParen :: (words ++ others)) (lost ++ more)
  | implTrait {bounds words lost} (own : Derives (.bounds bounds) words lost) :
    Derives (.type (.implTrait bounds)) (.name "impl" :: words) lost
  | traitObject {bounds words lost} (own : Derives (.bounds bounds) words lost) :
    Derives (.type (.traitObject bounds)) (.name "dyn" :: words) lost
  | pathType {found words lost} (own : Derives (.path found) words lost) : Derives (.type found.toExpr) words lost
  | noTypes : Derives (.types []) [.symbol .closeParen] []
  | lastType {expr words lost} (own : Derives (.type expr) words lost) :
    Derives (.types [expr]) (words ++ [.symbol .closeParen]) lost
  | moreTypes {expr exprs words others lost more} (first : Derives (.type expr) words lost)
    (rest : Derives (.types exprs) others more) :
    Derives (.types (expr :: exprs)) (words ++ .symbol .comma :: others) (lost ++ more)
  | noOutput : Derives (.output none) [] []
  | someOutput {expr words lost} (own : Derives (.type expr) words lost) :
    Derives (.output (some expr)) (.symbol .arrow :: words) lost
  | path {first rest words others lost more} (front : Derives (.segment first) words lost)
    (back : Derives (.segments rest) others more) :
    Derives (.path ⟨none, first, rest⟩) (words ++ others) (lost ++ more)
  | qualified {subject first rest inner words others hidden lost more} (own : Derives (.type subject) inner hidden)
    (front : Derives (.segment first) words lost) (back : Derives (.segments rest) others more) :
    Derives (.path ⟨some (subject, 0), first, rest⟩)
      (.symbol .lessThan :: (inner ++ .symbol .greaterThan :: .symbol .doubleColon :: (words ++ others)))
      (hidden ++ (lost ++ more))
  | ofTrait {subject trait first rest inner traitWords words others hidden dropped lost more}
    (own : Derives (.type subject) inner hidden) (middle : Derives (.path trait) traitWords dropped)
    (front : Derives (.segment first) words lost) (back : Derives (.segments rest) others more) :
    Derives (.path ⟨some (subject, trait.segments.length), trait.first, trait.rest ++ first :: rest⟩)
      (.symbol .lessThan :: (inner ++ .name "as" ::
        (traitWords ++ .symbol .greaterThan :: .symbol .doubleColon :: (words ++ others))))
      (hidden ++ (subjectOf trait ++ dropped ++ (lost ++ more)))
  | noSegments : Derives (.segments []) [] []
  | moreSegments {first rest words others lost more} (front : Derives (.segment first) words lost)
    (back : Derives (.segments rest) others more) :
    Derives (.segments (first :: rest)) (.symbol .doubleColon :: (words ++ others)) (lost ++ more)
  | plain (name : String) : Derives (.segment (.plain name)) [.name name] []
  | angle {found words lost} (name : String) (colons : Bool) (own : Derives (.arguments found) words lost) :
    Derives (.segment (.angle name found))
      (.name name :: ((if colons then [.symbol .doubleColon] else []) ++ .symbol .lessThan :: words)) lost
  | call {inputs result words others lost more} (name : String) (front : Derives (.types inputs) words lost)
    (back : Derives (.output result) others more) : Derives (.segment (.call name inputs result))
      (.name name :: .symbol .openParen :: (words ++ others)) (lost ++ more)
  | noArguments : Derives (.arguments []) [.symbol .greaterThan] []
  | lastArgument {found words lost} (own : Derives (.argument found) words lost) :
    Derives (.arguments [found]) (words ++ [.symbol .greaterThan]) lost
  | moreArguments {first rest words others lost more} (front : Derives (.argument first) words lost)
    (back : Derives (.arguments rest) others more) :
    Derives (.arguments (first :: rest)) (words ++ .symbol .comma :: others) (lost ++ more)
  | lifetimeArgument (duration : Lifetime) : Derives (.argument (.type (.lifetime duration))) [.lifetime duration] []
  | constant (value : String) : Derives (.argument (.type (.constant value))) [⟨.number, value⟩] []
  | binding {expr words lost} (name : String) (own : Derives (.type expr) words lost) :
    Derives (.argument (.binding name expr)) (.name name :: .symbol .equals :: words) lost
  | constraint {bounds words lost} (name : String) (own : Derives (.bounds bounds) words lost) :
    Derives (.argument (.constraint name bounds)) (.name name :: .symbol .colon :: words) lost
  | typeArgument {expr words lost} (own : Derives (.type expr) words lost) :
    Derives (.argument (.type expr)) words lost
  | lastBound {bound words lost} (own : Derives (.bound bound) words lost) : Derives (.bounds [bound]) words lost
  | moreBounds {bound bounds words others lost more} (first : Derives (.bound bound) words lost)
    (rest : Derives (.bounds bounds) others more) :
    Derives (.bounds (bound :: bounds)) (words ++ .symbol .plus :: others) (lost ++ more)
  | lifetimeBound (duration : Lifetime) : Derives (.bound (.lifetime duration)) [.lifetime duration] []
  | groupBound {found words lost} (own : Derives (.path found) words lost) : Derives (.bound (.group found.toExpr))
      (.symbol .openParen :: (words ++ [.symbol .closeParen])) lost
  | pathBound {found words lost} (own : Derives (.path found) words lost) :
    Derives (.bound found.toExpr) words lost

/-! ### The rendering of a trait -/

theorem words_toExpr_none (first : Segment) (rest : List Segment) :
    (Path.mk none first rest).toExpr.words = first.words ++ Segment.wordsAfter rest :=
  words_path first rest

theorem words_toExpr_subject (subject : TypeExpr) (first : Segment) (rest : List Segment) :
    (Path.mk (some (subject, 0)) first rest).toExpr.words = .symbol .lessThan ::
      (subject.words ++ .symbol .greaterThan :: .symbol .doubleColon :: (first.words ++ Segment.wordsAfter rest)) := by
  rw [Path.toExpr, words_qualified _ (Int.natCast_nonneg 0), ← Segment.chainWords_cons]
  rfl

theorem words_toExpr_trait (subject : TypeExpr) (trait : Path) (first : Segment) (rest : List Segment) :
    (Path.mk (some (subject, trait.segments.length)) trait.first (trait.rest ++ first :: rest)).toExpr.words =
      .symbol .lessThan :: (subject.words ++ .name "as" :: (Segment.chainWords trait.segments ++
        .symbol .greaterThan :: .symbol .doubleColon :: (first.words ++ Segment.wordsAfter rest))) := by
  have joined : trait.first :: (trait.rest ++ first :: rest) = trait.segments ++ first :: rest := rfl
  rw [Path.toExpr, words_qualified _ (Int.natCast_nonneg _), Int.toNat_natCast, joined, List.take_left,
    List.drop_left, Segment.chainWords_cons first rest]
  rfl

theorem words_toExpr_of_subjectOf_nil {found : Path} (none : subjectOf found = []) :
    found.toExpr.words = Segment.chainWords found.segments := by
  obtain ⟨subject, first, rest⟩ := found
  cases subject with
  | none => rfl
  | some pair => cases none

/-- The double colons between segments count for nothing. -/
theorem angles_wordsAfter (segments : List Segment) : BareToken.angles (Segment.wordsAfter segments) =
    (segments.map fun segment => BareToken.angles segment.words).sum := by
  induction segments with
  | nil => rfl
  | cons first rest ih =>
    rw [List.map_cons, List.sum_cons, ← ih]
    exact (BareToken.angles_symbol _ _).trans (BareToken.angles_append _ _)

theorem angles_chainWords (segments : List Segment) : BareToken.angles (Segment.chainWords segments) =
    (segments.map fun segment => BareToken.angles segment.words).sum := by
  cases segments with
  | nil => rfl
  | cons first rest =>
    rw [Segment.chainWords_cons, BareToken.angles_append, angles_wordsAfter, List.map_cons, List.sum_cons]

/-- The brackets around the subject are those that the segments of a path lack. -/
theorem angles_chainWords_le (found : Path) : BareToken.angles (Segment.chainWords found.segments) +
    (subjectOf found).length ≤ BareToken.angles found.toExpr.words := by
  obtain ⟨subject, first, rest⟩ := found
  cases subject with
  | none => exact Nat.le_refl _
  | some pair =>
    have whole := congrArg (fun segments : List Segment =>
      (segments.map fun segment => BareToken.angles segment.words).sum) (List.take_append_drop pair.2 (first :: rest))
    simp only [List.map_append, List.sum_append, ← angles_chainWords] at whole
    have trait : BareToken.angles (Segment.traitWords ((first :: rest).take pair.2)) =
        BareToken.angles (Segment.chainWords ((first :: rest).take pair.2)) := by
      unfold Segment.traitWords
      split
      next none => rw [List.isEmpty_iff.mp none]; rfl
      · rw [BareToken.angles_name]
    rw [Path.toExpr, words_qualified _ (Int.natCast_nonneg _), Int.toNat_natCast]
    simp [trait, subjectOf, Path.segments]
    omega

namespace Derives

variable {form : Form} {words : List BareToken} {lost : List TypeExpr}

theorem firstVerbatimOf?_append (front back : List Segment) : Segment.firstVerbatimOf? (front ++ back) =
    (Segment.firstVerbatimOf? front).or (Segment.firstVerbatimOf? back) := by
  induction front with
  | nil => rfl
  | cons first rest ih => simp [Segment.firstVerbatimOf?, ih, Option.or_assoc]

theorem verbatimFree (derives : Derives form words lost) : form.VerbatimFree := by
  induction derives with
  | @ofTrait subject trait first rest _ _ _ _ _ _ _ _ own middle front back ownFree middleFree frontFree backFree =>
    have trait : trait.first.firstVerbatim? = none ∧ Segment.firstVerbatimOf? trait.rest = none :=
      Option.or_eq_none_iff.mp middleFree.2
    simp_all [Form.VerbatimFree, firstVerbatim?, Segment.firstVerbatimOf?, Path.toExpr, Path.segments,
      firstVerbatimOf?_append]
  | pathType own ih | pathBound own ih | groupBound own ih => exact ih.1
  | @function inputs result _ _ _ _ front back frontFree backFree =>
    cases result with
    | none => exact frontFree
    | some output => exact Option.or_eq_none_iff.mpr ⟨backFree _ rfl, frontFree⟩
  | @call inputs result _ _ _ _ name front back frontFree backFree =>
    cases result with
    | none => exact frontFree
    | some output => exact Option.or_eq_none_iff.mpr ⟨backFree _ rfl, frontFree⟩
  | _ => simp_all [Form.VerbatimFree, firstVerbatim?, firstVerbatimOf?, Segment.firstVerbatim?, Segment.firstVerbatimOf?,
      Argument.firstVerbatim?, Argument.firstVerbatimOf?, Path.toExpr, Path.segments]

theorem trims_more {parts : List (List BareToken)} {part tokens others : List BareToken} {closer : TokenKind}
    (closing : closer = .closeParen ∨ closer = .greaterThan) (first : Trims tokens part)
    (rest : Trims others (BareToken.join .comma parts ++ [.symbol closer]))
    (last : parts = [] → others = [.symbol closer]) :
    Trims (tokens ++ .symbol .comma :: others) (BareToken.join .comma (part :: parts) ++ [.symbol closer]) := by
  by_cases shown : parts = []
  · rw [shown, last shown]
    exact first.append (.comma closing (.refl _))
  · rw [BareToken.join_cons_append _ _ _ shown]
    exact first.append (.keep _ rest)

theorem noTypes_iff : Derives (.types []) words lost ↔ words = [.symbol .closeParen] ∧ lost = [] := by
  constructor
  · intro derives
    cases derives
    exact ⟨rfl, rfl⟩
  · rintro ⟨rfl, rfl⟩
    exact .noTypes

theorem noArguments_iff : Derives (.arguments []) words lost ↔ words = [.symbol .greaterThan] ∧ lost = [] := by
  constructor
  · intro derives
    cases derives
    exact ⟨rfl, rfl⟩
  · rintro ⟨rfl, rfl⟩
    exact .noArguments

theorem words_tuple (element : TypeExpr) (elements : List TypeExpr) : (TypeExpr.tuple (element :: elements)).words =
    .symbol .openParen :: (element.words ++ .symbol .comma :: (Form.types elements).words) := by
  cases elements with
  | nil => rfl
  | cons second rest => simp [TypeExpr.words, wordsAll, Form.words, BareToken.join]

theorem words_types_append (inputs : List TypeExpr) (rest : List BareToken) :
    (Form.types inputs).words ++ rest =
      BareToken.join .comma (wordsAll inputs) ++ .symbol .closeParen :: rest := by
  simp [Form.words]

/-- Nothing is lost but double colons and commas, if no subject is. -/
theorem trims (derives : Derives form words lost) (none : lost = []) : Trims words form.words := by
  induction derives with
  | inferred | unit | noTypes | noOutput | noSegments | plain | noArguments | lifetimeArgument | constant |
    lifetimeBound => exact .refl _
  | pathType own ih | pathBound own ih | typeArgument own ih | lastBound own ih => exact ih none
  | group own ih | slice own ih | array length own ih | groupBound own ih =>
    exact .keep _ ((ih none).append (.refl _))
  | implTrait own ih | traitObject own ih | someOutput own ih => exact .keep _ (ih none)
  | pointer isMutable own ih => exact .keep _ (.keep _ (ih none))
  | binding name own ih | constraint name own ih => exact .keep _ (.keep _ (ih none))
  | reference duration isMutable own ih => exact .keep _ ((Trims.refl _).append ((Trims.refl _).append (ih none)))
  | lastType own ih | lastArgument own ih => exact (ih none).append (.refl _)
  | tuple first rest firstTrims restTrims =>
    obtain ⟨noneFirst, noneRest⟩ := List.append_eq_nil_iff.mp none
    rw [Form.words, words_tuple]
    exact .keep _ ((firstTrims noneFirst).append (.keep _ (restTrims noneRest)))
  | moreTypes first rest firstTrims restTrims =>
    obtain ⟨noneFirst, noneRest⟩ := List.append_eq_nil_iff.mp none
    refine trims_more (.inl rfl) (firstTrims noneFirst) (restTrims noneRest) fun last => ?_
    rw [wordsAll_eq_map, List.map_eq_nil_iff] at last
    subst last
    exact (noTypes_iff.mp rest).1
  | moreArguments first rest firstTrims restTrims =>
    obtain ⟨noneFirst, noneRest⟩ := List.append_eq_nil_iff.mp none
    refine trims_more (.inr rfl) (firstTrims noneFirst) (restTrims noneRest) fun last => ?_
    rw [Argument.wordsAll_eq_map, List.map_eq_nil_iff] at last
    subst last
    exact (noArguments_iff.mp rest).1
  | @moreBounds bound bounds _ _ _ _ first rest firstTrims restTrims =>
    obtain ⟨noneFirst, noneRest⟩ := List.append_eq_nil_iff.mp none
    cases bounds with
    | nil => cases rest
    | cons second bounds => exact (firstTrims noneFirst).append (.keep _ (restTrims noneRest))
  | function front back frontTrims backTrims =>
    obtain ⟨noneFront, noneBack⟩ := List.append_eq_nil_iff.mp none
    rw [Form.words, TypeExpr.words, ← words_types_append]
    exact .keep _ (.keep _ ((frontTrims noneFront).append (backTrims noneBack)))
  | call name front back frontTrims backTrims =>
    obtain ⟨noneFront, noneBack⟩ := List.append_eq_nil_iff.mp none
    rw [Form.words, Segment.words, ← words_types_append]
    exact .keep _ (.keep _ ((frontTrims noneFront).append (backTrims noneBack)))
  | angle name colons own ih =>
    refine .keep _ ?_
    cases colons with
    | false => exact .keep _ (ih none)
    | true => exact .colons (.keep _ (ih none))
  | moreSegments front back frontTrims backTrims =>
    obtain ⟨noneFront, noneBack⟩ := List.append_eq_nil_iff.mp none
    exact .keep _ ((frontTrims noneFront).append (backTrims noneBack))
  | path front back frontTrims backTrims =>
    obtain ⟨noneFront, noneBack⟩ := List.append_eq_nil_iff.mp none
    rw [Form.words, words_toExpr_none]
    exact (frontTrims noneFront).append (backTrims noneBack)
  | qualified own front back ownTrims frontTrims backTrims =>
    simp only [List.append_eq_nil_iff] at none
    obtain ⟨noneOwn, noneFront, noneBack⟩ := none
    rw [Form.words, words_toExpr_subject]
    exact .keep _ ((ownTrims noneOwn).append (.keep _ (.keep _
      ((frontTrims noneFront).append (backTrims noneBack)))))
  | ofTrait own middle front back ownTrims middleTrims frontTrims backTrims =>
    simp only [List.append_eq_nil_iff] at none
    obtain ⟨noneOwn, ⟨noSubject, noneMiddle⟩, noneFront, noneBack⟩ := none
    have inner := middleTrims noneMiddle
    rw [Form.words, words_toExpr_of_subjectOf_nil noSubject] at inner
    rw [Form.words, words_toExpr_trait]
    exact .keep _ ((ownTrims noneOwn).append (.keep _ (inner.append (.keep _ (.keep _
      ((frontTrims noneFront).append (backTrims noneBack)))))))

/-- No opening angle bracket is read that is not rendered, but for the one of each lost subject and those inside it. -/
theorem angles_le (derives : Derives form words lost) :
    BareToken.angles form.words + lost.length ≤ BareToken.angles words := by
  induction derives with
  | inferred | unit | noTypes | noOutput | noSegments | plain | noArguments | lifetimeArgument | constant
  | lifetimeBound => exact Nat.le_refl _
  | pathType own ih | pathBound own ih | typeArgument own ih | lastBound own ih => exact ih
  | group own ih | slice own ih | array length own ih | groupBound own ih | pointer isMutable own ih
  | implTrait own ih | traitObject own ih | lastType own ih | someOutput own ih | lastArgument own ih
  | binding name own ih | constraint name own ih =>
    simpa [Form.words, TypeExpr.words, Argument.words, outputWords, wordsAll, Argument.wordsAll, BareToken.join] using ih
  | reference duration isMutable own ih =>
    cases duration <;> cases isMutable <;> simpa [Form.words, TypeExpr.words] using ih
  | angle name colons own ih => cases colons <;> simp [Form.words, Segment.words] at ih ⊢ <;> omega
  | tuple first rest firstLess restLess =>
    rw [Form.words, words_tuple]
    simp [Form.words] at firstLess restLess ⊢
    omega
  | moreTypes first rest firstLess restLess | moreArguments first rest firstLess restLess
  | moreBounds first rest firstLess restLess | moreSegments first rest firstLess restLess
  | function first rest firstLess restLess | call name first rest firstLess restLess =>
    simp [Form.words, TypeExpr.words, Segment.words, wordsAll, Argument.wordsAll, Segment.wordsAfter,
      BareToken.angles_join_cons] at firstLess restLess ⊢
    omega
  | path front back frontLess backLess =>
    rw [Form.words, words_toExpr_none]
    simp [Form.words] at frontLess backLess ⊢
    omega
  | qualified own front back ownLess frontLess backLess =>
    rw [Form.words, words_toExpr_subject]
    simp [Form.words] at ownLess frontLess backLess ⊢
    omega
  | @ofTrait subject trait _ _ _ _ _ _ _ _ _ _ own middle front back ownLess middleLess frontLess backLess =>
    have less := angles_chainWords_le trait
    rw [Form.words, words_toExpr_trait]
    simp [Form.words] at ownLess middleLess frontLess backLess ⊢
    omega

/-- The tokens are those of the rendering, up to double colons and commas, exactly if no subject is lost. -/
theorem trims_iff (derives : Derives form words lost) : Trims words form.words ↔ lost = [] := by
  refine ⟨fun trims => ?_, derives.trims⟩
  have less := derives.angles_le
  rw [trims.angles_eq] at less
  exact List.length_eq_zero_iff.mp (by omega)

theorem startsAngle {found : Path} (derives : Derives (.path found) words lost) (subject : subjectOf found ≠ []) :
    ∃ rest, words = .symbol .lessThan :: rest := by
  cases derives with
  | path front back => exact absurd rfl subject
  | qualified | ofTrait => exact ⟨_, rfl⟩

theorem isInfix_of_lost (derives : Derives form words lost) (some : lost ≠ []) :
    [.name "as", .symbol .lessThan] <:+: words := by
  have either {front back : List TypeExpr} (some : front ++ back ≠ []) : front ≠ [] ∨ back ≠ [] := by
    by_contra neither
    simp_all
  have both {mark tokens others : List BareToken} {front back : List TypeExpr} (left : front ≠ [] → mark <:+: tokens)
      (right : back ≠ [] → mark <:+: others) (some : front ++ back ≠ []) : mark <:+: tokens ++ others :=
    (either some).elim (fun some => List.infix_append_of_infix_left (left some))
      fun some => List.infix_append_of_infix_right (right some)
  induction derives with
  | inferred | unit | noTypes | noOutput | noSegments | plain | noArguments | lifetimeArgument | constant
  | lifetimeBound => exact absurd rfl some
  | pathType own ih | pathBound own ih | typeArgument own ih | lastBound own ih => exact ih some
  | group own ih | slice own ih | array length own ih | groupBound own ih =>
    exact List.infix_cons (List.infix_append_of_infix_left (ih some))
  | implTrait own ih | traitObject own ih | someOutput own ih => exact List.infix_cons (ih some)
  | pointer isMutable own ih | binding name own ih | constraint name own ih =>
    exact List.infix_cons (List.infix_cons (ih some))
  | lastType own ih | lastArgument own ih => exact List.infix_append_of_infix_left (ih some)
  | reference duration isMutable own ih =>
    exact List.infix_cons (List.infix_append_of_infix_right (List.infix_append_of_infix_right (ih some)))
  | angle name colons own ih =>
    exact List.infix_cons (List.infix_append_of_infix_right (List.infix_cons (ih some)))
  | tuple first rest firstInfix restInfix =>
    rcases either some with some | some
    · exact List.infix_cons (List.infix_append_of_infix_left (firstInfix some))
    · exact List.infix_cons (List.infix_append_of_infix_right (List.infix_cons (restInfix some)))
  | moreTypes first rest firstInfix restInfix | moreArguments first rest firstInfix restInfix
  | moreBounds first rest firstInfix restInfix =>
    rcases either some with some | some
    · exact List.infix_append_of_infix_left (firstInfix some)
    · exact List.infix_append_of_infix_right (List.infix_cons (restInfix some))
  | function front back frontInfix backInfix | call name front back frontInfix backInfix =>
    exact List.infix_cons (List.infix_cons (both frontInfix backInfix some))
  | moreSegments front back frontInfix backInfix => exact List.infix_cons (both frontInfix backInfix some)
  | path front back frontInfix backInfix => exact both frontInfix backInfix some
  | qualified own front back ownInfix frontInfix backInfix =>
    refine List.infix_cons ?_
    rcases either some with some | some
    · exact List.infix_append_of_infix_left (ownInfix some)
    · exact List.infix_append_of_infix_right (List.infix_cons (List.infix_cons (both frontInfix backInfix some)))
  | @ofTrait _ trait _ _ _ _ _ _ _ _ _ _ own middle front back ownInfix middleInfix frontInfix backInfix =>
    refine List.infix_cons ?_
    rcases either some with some | some
    · exact List.infix_append_of_infix_left (ownInfix some)
    · refine List.infix_append_of_infix_right ?_
      rcases either some with some | some
      · by_cases subject : subjectOf trait = []
        · rw [subject] at some
          exact List.infix_cons (List.infix_append_of_infix_left (middleInfix some))
        · obtain ⟨rest, rfl⟩ := middle.startsAngle subject
          exact ⟨[], _, rfl⟩
      · exact List.infix_cons (List.infix_append_of_infix_right
          (List.infix_cons (List.infix_cons (both frontInfix backInfix some))))

end Derives

end TypeExpr

end CowView
