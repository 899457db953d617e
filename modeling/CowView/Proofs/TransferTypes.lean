import CowView.Proofs.Transfer

/-!
Transfers of the type parser. A transfer carries over what each function of the parser reads
(`TypeExpr.Parser.carried`), also if the second run is given more steps.
-/

namespace CowView

open TokenStream Text

theorem Lifetime.render_eq_of_ofMarked? {text : String} {found : Lifetime} (marked : ofMarked? text = some found) :
    found.render = text := by
  unfold ofMarked? at marked
  split at marked
  next first rest shown =>
    split at marked
    next mark =>
      cases marked
      apply String.toList_injective
      rw [render, String.toList_append, ← mark, String.toList_ofList, shown]
      rfl
    · cases marked
  · cases marked

/-! ### Taking something -/

theorem clean_delivering {tokens : List Token} (own : ∀ token ∈ tokens, token.bare.Lexed ∧ token.kind ≠ .comment)
    (after : Position) (docs : String) : (delivering tokens after docs).Clean where
  finished := ⟨after, rfl⟩
  token lexeme member := by
    obtain ⟨token, known, rfl⟩ := List.mem_map.mp member
    exact ⟨token, rfl, (own token known).1.marked, fun last => absurd last (own token known).1.kind_ne⟩
  last := by
    refine List.pairwise_of_forall_mem_list fun lexeme member _ _ last => ?_
    obtain ⟨token, known, rfl⟩ := List.mem_map.mp member
    obtain ⟨other, same, ended⟩ := last
    cases same
    exact absurd ended (own token known).1.kind_ne

theorem TakesSome.map {α β : Type} {action : Reading α} (takes : TakesSome action) (change : α → β) :
    TakesSome (action >>= fun value => return change value) := by
  intro tokens after docs value own read
  obtain ⟨found, between, run, last⟩ := bind_eq_ok read
  cases last
  exact takes tokens after docs found own run

namespace TypeExpr.Parser

theorem takesSome_type (steps : Nat) : TakesSome (type steps) := by
  intro tokens after docs value own read
  have clean := clean_delivering own after docs
  have plain : (delivering tokens after docs).IsPlain := by
    intro token member
    obtain ⟨other, known, same⟩ := List.mem_map.mp member
    cases same
    exact (own _ known).2
  have alike : Alike [] (delivering tokens after docs) (delivering tokens after docs) :=
    ⟨clean, clean, by rw [List.append_nil], rfl, .inr ⟨plain, plain⟩⟩
  -- with enough steps the same is read, and then there is less left
  let enough := 8 * (delivering tokens after docs).extent + 4
  have follows := (following_self stops_nil steps enough).type _ _ alike value _ read
  have ended := (ending enough).type _ (Nat.le_refl _) _ clean.sane (Nat.le_refl _)
  cases run : type enough (delivering tokens after docs) with
  | ok found left =>
    rw [run] at follows ended
    have words := follows.2.words
    have less : left.extent + 1 ≤ (delivering tokens after docs).extent := ended.2
    rw [List.append_nil] at words
    rw [follows.2.right.extent_eq, words, ← clean.extent_eq] at less
    omega
  | error fault left =>
    rw [run] at follows ended
    have same : fault = .outOfSteps := follows
    rw [same] at ended
    exact ended.1.elim

end TypeExpr.Parser

/-! ### The functions of the parser -/

namespace TypeExpr.Parser

variable (transfer : Transfer) {steps less : Nat}

theorem carries_lifetime : transfer.Carries (fun one two : Lifetime => one = two ∧ transfer.rel one.render one.render)
    lifetime lifetime := by
  refine transfer.ensured (by decide) fun value own => ?_
  split
  next found marked =>
    refine transfer.given ⟨rfl, ?_⟩
    rwa [Lifetime.render_eq_of_ofMarked? marked]
  · exact transfer.throws

theorem carries_constant : transfer.Carries (fun one two : String => one = two ∧ transfer.rel one one)
    constant constant := by
  refine transfer.looked (fun front placed same => ?_) fun front => ?_
  · have kinds : placed.kind = front.kind := congrArg BareToken.kind same
    rw [kinds]
    split
    · exact .inl rfl
    · exact .inl rfl
    · exact .inr fun _ _ _ read => by cases read
  · have taken {kind : TokenKind} (same : front.kind = kind) (read : kind.IsRead) :
        transfer.CarriesAt front.bare (fun one two : String => one = two ∧ transfer.rel one one)
          (do return (← next).value) (do return (← next).value) :=
      transfer.moved same read (fun placed same => by
        rw [show placed.value = front.value from congrArg BareToken.value same]
        exact ⟨rfl, rfl⟩) fun own => transfer.given ⟨rfl, own⟩
    split
    next kind => exact taken kind (by decide)
    next kind => exact taken kind (by decide)
    · exact transfer.located transfer.throws _

structure Carried (steps less : Nat) : Prop where
  type : transfer.Carries (Fits transfer.toTextRelation) (type steps) (type less)
  tupleOrGroup : transfer.Carries (Fits transfer.toTextRelation) (tupleOrGroup steps) (tupleOrGroup less)
  types : ∀ closer, closer.IsRead →
    transfer.Carries (List.Forall₂ (Fits transfer.toTextRelation)) (types closer steps) (types closer less)
  output : transfer.Carries (Option.Rel (Fits transfer.toTextRelation)) (output steps) (output less)
  pathOrMacro : transfer.Carries (Fits transfer.toTextRelation) (pathOrMacro steps) (pathOrMacro less)
  path : transfer.Carries (Path.Fits transfer.toTextRelation) (path steps) (path less)
  segments : transfer.Carries (List.Forall₂ (Segment.Fits transfer.toTextRelation)) (segments steps) (segments less)
  segment : transfer.Carries (Segment.Fits transfer.toTextRelation) (segment steps) (segment less)
  angleArguments :
    transfer.Carries (List.Forall₂ (Argument.Fits transfer.toTextRelation)) (angleArguments steps) (angleArguments less)
  arguments : transfer.Carries (List.Forall₂ (Argument.Fits transfer.toTextRelation)) (arguments steps) (arguments less)
  argument : transfer.Carries (Argument.Fits transfer.toTextRelation) (argument steps) (argument less)
  bounds : transfer.Carries (List.Forall₂ (Fits transfer.toTextRelation)) (bounds steps) (bounds less)
  bound : transfer.Carries (Fits transfer.toTextRelation) (bound steps) (bound less)

variable {transfer} (inner : Carried transfer steps less)

include inner

theorem carries_typeStep : transfer.Carries (Fits transfer.toTextRelation) (type (steps + 1)) (type (less + 1)) := by
  rw [type, type]
  refine transfer.looked (fun front placed same => ?_) fun front => ?_
  · have kinds : placed.kind = front.kind := congrArg BareToken.kind same
    have values : placed.value = front.value := congrArg BareToken.value same
    rw [kinds, values]
    split
    all_goals first | exact .inl rfl | exact .inr fun _ _ _ read => by cases read
  split
  next kind => exact transfer.passed kind (by decide) inner.tupleOrGroup
  next kind =>
    refine transfer.passed kind (by decide) (transfer.followed inner.type fun element element' fits => ?_)
    refine transfer.tested (by decide) ?_ ?_
    · refine transfer.followed (carries_constant transfer) fun length length' same => ?_
      obtain ⟨rfl, own⟩ := same
      exact transfer.ensured (by decide) fun _ _ => transfer.given (fits.array own)
    · exact transfer.ensured (by decide) fun _ _ => transfer.given fits.slice
  next kind =>
    have element (duration : Option Lifetime) (own : ∀ name ∈ duration, transfer.rel name.render name.render) :
        transfer.Carries (Fits transfer.toTextRelation) (do
          let isMutable ← nextIs .identifier (some "mut")
          return TypeExpr.reference duration isMutable (← type steps)) (do
          let isMutable ← nextIs .identifier (some "mut")
          return TypeExpr.reference duration isMutable (← type less)) :=
      transfer.test (by decide) fun _ => transfer.followed inner.type fun _ _ fits => transfer.given (fits.reference own)
    refine transfer.passed kind (by decide) (transfer.glanced (by decide) (fun _ _ => transfer.located ?_ _)
      (element none (by simp)))
    have marked : transfer.Carries (fun one two : Option Lifetime =>
        one = two ∧ ∀ name ∈ one, transfer.rel name.render name.render) (some <$> lifetime) (some <$> lifetime) :=
      transfer.mapped (carries_lifetime transfer) fun found _ same => ⟨congrArg some same.1, by simpa using same.2⟩
    refine transfer.followed marked ?_
    rintro duration _ ⟨rfl, own⟩
    exact element duration own
  next kind =>
    refine transfer.passed kind (by decide) (transfer.tested (by decide) ?_ (transfer.ensured (by decide) fun _ _ => ?_))
    all_goals exact transfer.followed inner.type fun _ _ fits => transfer.given fits.pointer
  next kind => exact transfer.passed kind (by decide) (transfer.given fits_never)
  next kind => exact transfer.located inner.pathOrMacro _
  next kind =>
    split
    · exact transfer.passed kind (by decide) (transfer.given fits_inferred)
    · exact transfer.passed kind (by decide) (transfer.ensured (by decide) fun _ _ =>
        transfer.followed (inner.types _ (by decide)) fun _ _ all => transfer.followed inner.output fun _ _ last =>
          transfer.given (Fits.function all last))
    · exact transfer.passed kind (by decide) (transfer.followed inner.bounds fun _ _ all =>
        transfer.given (Fits.implTrait all))
    · exact transfer.passed kind (by decide) (transfer.followed inner.bounds fun _ _ all =>
        transfer.given (Fits.traitObject all))
    · exact transfer.located inner.pathOrMacro _
  · exact transfer.located transfer.throws _

theorem carries_tupleOrGroup :
    transfer.Carries (Fits transfer.toTextRelation) (tupleOrGroup (steps + 1)) (tupleOrGroup (less + 1)) := by
  rw [tupleOrGroup, tupleOrGroup]
  refine transfer.tested (by decide) (transfer.given (Fits.tuple .nil)) ?_
  refine transfer.followed inner.type fun first first' fits => ?_
  refine transfer.tested (by decide) (transfer.given fits.group) ?_
  exact transfer.ensured (by decide) fun _ _ => transfer.followed (inner.types _ (by decide)) fun _ _ all =>
    transfer.given (Fits.tuple (.cons fits all))

theorem carries_types {closer : TokenKind} (read : closer.IsRead) :
    transfer.Carries (List.Forall₂ (Fits transfer.toTextRelation)) (types closer (steps + 1))
      (types closer (less + 1)) := by
  rw [types, types]
  refine transfer.tested read (transfer.given .nil) ?_
  refine transfer.followed inner.type fun first first' fits => ?_
  refine transfer.tested (by decide) ?_ ?_
  · exact transfer.followed (inner.types _ read) fun _ _ all => transfer.given (.cons fits all)
  · exact transfer.ensured read fun _ _ => transfer.given (.cons fits .nil)

theorem carries_output :
    transfer.Carries (Option.Rel (Fits transfer.toTextRelation)) (output (steps + 1)) (output (less + 1)) := by
  rw [output, output]
  exact transfer.tested (by decide) (transfer.followed inner.type fun _ _ fits => transfer.given (.some fits))
    (transfer.given .none)

theorem carries_pathOrMacro :
    transfer.Carries (Fits transfer.toTextRelation) (pathOrMacro (steps + 1)) (pathOrMacro (less + 1)) := by
  rw [pathOrMacro, pathOrMacro]
  refine transfer.followed inner.path fun found found' fits => ?_
  exact transfer.glanced (by decide) (fun _ _ => transfer.located (transfer.group fits.toExpr.2) _)
    (transfer.given fits.toExpr)

theorem carries_path : transfer.Carries (Path.Fits transfer.toTextRelation) (path (steps + 1)) (path (less + 1)) := by
  rw [path, path]
  refine transfer.tested (by decide) ?_ ?_
  · refine transfer.followed inner.type fun subject subject' own => ?_
    have remaining (result result' : Segment → List Segment → Reading Path)
        (gives : ∀ first first' rest rest', Segment.Fits transfer.toTextRelation first first' →
          List.Forall₂ (Segment.Fits transfer.toTextRelation) rest rest' →
          transfer.Carries (Path.Fits transfer.toTextRelation) (result first rest) (result' first' rest')) :
        transfer.Carries (Path.Fits transfer.toTextRelation) (do
          let _ ← ensure .greaterThan
          let _ ← ensure .doubleColon
          let first ← segment steps
          let rest ← segments steps
          result first rest) (do
          let _ ← ensure .greaterThan
          let _ ← ensure .doubleColon
          let first ← segment less
          let rest ← segments less
          result' first rest) := by
      refine transfer.ensured (by decide) fun _ _ => transfer.ensured (by decide) fun _ _ => ?_
      refine transfer.followed inner.segment fun first first' head => ?_
      exact transfer.followed inner.segments fun rest rest' tail => gives first first' rest rest' head tail
    refine transfer.tested (by decide) ?_ (remaining _ _ fun _ _ _ _ head tail =>
      transfer.given ⟨.some ⟨own, rfl⟩, head, tail⟩)
    refine transfer.followed (transfer.mapped inner.path fun _ _ fits => fits.segments) fun trait trait' all =>
      remaining _ _ fun first first' rest rest' head tail => ?_
    cases all with
    | nil => exact transfer.given ⟨.some ⟨own, rfl⟩, head, tail⟩
    | cons name others =>
      refine transfer.given ⟨.some ⟨own, ?_⟩, name, List.rel_append others (.cons head tail)⟩
      simp [others.length_eq]
  · exact transfer.followed inner.segment fun _ _ head => transfer.followed inner.segments fun _ _ tail =>
      transfer.given ⟨.none, head, tail⟩

theorem carries_segments : transfer.Carries (List.Forall₂ (Segment.Fits transfer.toTextRelation))
    (segments (steps + 1)) (segments (less + 1)) := by
  rw [segments, segments]
  exact transfer.tested (by decide) (transfer.followed inner.segment fun _ _ head =>
    transfer.followed inner.segments fun _ _ tail => transfer.given (.cons head tail)) (transfer.given .nil)

theorem carries_segment :
    transfer.Carries (Segment.Fits transfer.toTextRelation) (segment (steps + 1)) (segment (less + 1)) := by
  rw [segment, segment]
  refine transfer.ensured (by decide) fun name own => ?_
  have angle : transfer.Carries (Segment.Fits transfer.toTextRelation) (do
      let found ← angleArguments steps
      return Segment.angle name found) (do
      let found ← angleArguments less
      return Segment.angle name found) :=
    transfer.followed inner.angleArguments fun _ _ all => transfer.given (Segment.fits_angle own all)
  refine transfer.glanced (by decide) (fun _ _ => transfer.located angle _) ?_
  refine transfer.glanced (by decide) (fun front kind => transfer.glimpsed kind angle own) ?_
  refine transfer.tested (by decide) ?_ (transfer.given own)
  exact transfer.followed (inner.types _ (by decide)) fun _ _ all => transfer.followed inner.output fun _ _ last =>
    transfer.given (Segment.fits_call own all last)

theorem carries_arguments : transfer.Carries (List.Forall₂ (Argument.Fits transfer.toTextRelation))
    (arguments (steps + 1)) (arguments (less + 1)) := by
  rw [arguments, arguments]
  refine transfer.tested (by decide) (transfer.given .nil) ?_
  refine transfer.followed inner.argument fun first first' fits => ?_
  refine transfer.tested (by decide) ?_ ?_
  · exact transfer.followed inner.arguments fun _ _ all => transfer.given (.cons fits all)
  · exact transfer.ensured (by decide) fun _ _ => transfer.given (.cons fits .nil)

theorem carries_argument :
    transfer.Carries (Argument.Fits transfer.toTextRelation) (argument (steps + 1)) (argument (less + 1)) := by
  have bare : transfer.Carries (Argument.Fits transfer.toTextRelation) (do return .type (← type steps))
      (do return .type (← type less)) :=
    transfer.followed inner.type fun _ _ fits => transfer.given (Argument.fits_type fits)
  rw [argument, argument]
  refine transfer.looked (fun front placed same => ?_) fun front => ?_
  · rw [show placed.kind = front.kind from congrArg BareToken.kind same]
    exact .inl rfl
  split
  · refine transfer.located (transfer.followed (carries_lifetime transfer) ?_) _
    rintro found _ ⟨rfl, own⟩
    exact transfer.given (Argument.fits_type (fits_lifetime own))
  next kind =>
    refine transfer.moved kind (by decide) (fun placed same => ?_) fun own =>
      transfer.given (Argument.fits_type (fits_constant own))
    rw [show placed.value = front.value from congrArg BareToken.value same]
    exact ⟨rfl, rfl⟩
  next kind =>
    have bound (value : String) (own : transfer.rel value value) : transfer.Carries (Argument.Fits transfer.toTextRelation)
        (do return .binding value (← type steps)) (do return .binding value (← type less)) :=
      transfer.followed inner.type fun _ _ fits => transfer.given (Argument.fits_binding own fits)
    have more (value : String) (own : transfer.rel value value) : transfer.Carries (Argument.Fits transfer.toTextRelation)
        (do return .constraint value (← bounds steps)) (do return .constraint value (← bounds less)) :=
      transfer.followed inner.bounds fun _ _ all => transfer.given (Argument.fits_constraint own all)
    have named : front.bare.kind = .identifier := kind
    exact transfer.named named bound more bare ((takesSome_type less).map _)
  · exact transfer.located bare _

theorem carries_bounds :
    transfer.Carries (List.Forall₂ (Fits transfer.toTextRelation)) (bounds (steps + 1)) (bounds (less + 1)) := by
  rw [bounds, bounds]
  refine transfer.followed inner.bound fun first first' fits => ?_
  exact transfer.tested (by decide) (transfer.followed inner.bounds fun _ _ all => transfer.given (.cons fits all))
    (transfer.given (.cons fits .nil))

theorem carries_bound : transfer.Carries (Fits transfer.toTextRelation) (bound (steps + 1)) (bound (less + 1)) := by
  rw [bound, bound]
  refine transfer.glanced (by decide) (fun _ _ => transfer.located ?_ _) (transfer.tested (by decide) ?_ ?_)
  · refine transfer.followed (carries_lifetime transfer) ?_
    rintro found _ ⟨rfl, own⟩
    exact transfer.given (fits_lifetime own)
  · exact transfer.followed inner.path fun _ _ fits => transfer.ensured (by decide) fun _ _ =>
      transfer.given fits.toExpr.group
  · exact transfer.followed inner.path fun _ _ fits => transfer.given fits.toExpr

omit inner

/-- Every transfer carries over what the parser reads, by induction on the steps of the first run. -/
theorem carried (transfer : Transfer) {steps less : Nat} (enough : steps ≤ less) : Carried transfer steps less := by
  induction steps generalizing less with
  | zero => constructor <;> intros <;> exact transfer.throws
  | succ steps ih =>
    obtain ⟨less, rfl⟩ := Nat.exists_eq_succ_of_ne_zero (Nat.ne_zero_of_lt enough)
    have inner := ih (Nat.le_of_succ_le_succ enough)
    exact {
      type := carries_typeStep inner
      tupleOrGroup := carries_tupleOrGroup inner
      types := fun _ read => carries_types inner read
      output := carries_output inner
      pathOrMacro := carries_pathOrMacro inner
      path := carries_path inner
      segments := carries_segments inner
      segment := carries_segment inner
      angleArguments := by
        rw [angleArguments, angleArguments]
        exact transfer.ensured (by decide) fun _ _ => inner.arguments
      arguments := carries_arguments inner
      argument := carries_argument inner
      bounds := carries_bounds inner
      bound := carries_bound inner }

end TypeExpr.Parser

end CowView
