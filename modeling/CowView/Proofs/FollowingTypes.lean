import CowView.Proofs.Following
import CowView.Proofs.MacroGroup

/-!
Types that are read twice. Whatever the type parser reads off one stream it reads off every stream that is
alike (`TypeExpr.Parser.following_self`), also where the second stream goes on with words that do not continue a
type. Only the name of an argument is read before a word that may follow a type, and what is read there is
lost at the end of the input.
-/

namespace CowView

open TokenStream

variable {rest : List BareToken} {steps less : Nat}

namespace TypeExpr.Parser

/-! ### Failing at the end -/

theorem type_failsAtEnd (steps : Nat) : FailsAtEnd (type steps) := by
  cases steps with
  | zero => exact .throw
  | succ steps =>
    rw [type]
    refine .looked fun token kind => ?_
    rw [kind]
    exact .throw

theorem segment_failsAtEnd (steps : Nat) : FailsAtEnd (segment steps) := by
  cases steps with
  | zero => exact .throw
  | succ steps =>
    rw [segment]
    exact (FailsAtEnd.ensure (by decide)).bind

theorem path_failsAtEnd (steps : Nat) : FailsAtEnd (path steps) := by
  cases steps with
  | zero => exact .throw
  | succ steps =>
    rw [path]
    exact .nextIs (by decide) (segment_failsAtEnd steps).bind

theorem argument_failsAtEnd (steps : Nat) : FailsAtEnd (argument steps) := by
  cases steps with
  | zero => exact .throw
  | succ steps =>
    rw [argument]
    refine .looked fun token kind => ?_
    rw [kind]
    exact (type_failsAtEnd steps).bind

/-! ### Parts without calls -/

theorem follows_lifetime (stops : Stops rest) : Follows rest Eq lifetime lifetime := by
  refine .ensured stops (by decide) fun value => ?_
  split
  · exact .pure rfl
  · exact .throw

theorem follows_constant (stops : Stops rest) : Follows rest Eq constant constant := by
  refine .looked stops (fun token kind => ?_) fun front front' same marked => ?_
  · rw [kind]
    exact .throw
  · have kinds : front.kind = front'.kind := congrArg BareToken.kind same
    rw [← kinds]
    split
    next kind => exact .moved (by rw [kind]; decide) same (.pure (congrArg BareToken.value same))
    next kind => exact .moved (by rw [kind]; decide) same (.pure (congrArg BareToken.value same))
    · exact Follows.throw.located _ _

theorem skipped_eq_of_isPlain {stream : TokenStream} (plain : stream.IsPlain) : stream.skipped = stream := by
  obtain ⟨pending, ending, docs⟩ := stream
  cases pending with
  | nil => rfl
  | cons lexeme behind =>
    cases lexeme with
    | fault fault => rfl
    | token token =>
      have kind : token.kind ≠ .comment := plain token (by simp)
      simp [skipped, dropComments, Token.isComment, kind]

theorem next_plain (stops : Stops rest) {first second : TokenStream} (alike : Alike rest first second)
    (plain : first.IsPlain) (plain' : second.IsPlain) : ∃ front front',
      first.front? = some front ∧ second.front? = some front' ∧ front.kind ≠ .comment ∧
        (front.bare = front'.bare ∨ front.kind = .endOfInput) := by
  obtain ⟨front, front', shown, shown', -, solid, same⟩ := alike.front? stops
  rw [skipped_eq_of_isPlain plain] at shown
  rw [skipped_eq_of_isPlain plain'] at shown'
  refine ⟨front, front', shown, shown', solid, same.imp id fun ended => ?_⟩
  exact congrArg BareToken.kind ended.2.1

theorem readWithin_follows (stops : Stops rest) (awaited : List TokenKind) (values : List String)
    {first second left : TokenStream} {found : List String} (alike : Alike rest first second)
    (plain : first.IsPlain) (plain' : second.IsPlain)
    (read : TokenGroup.readWithin steps awaited values first = .ok (some found) left) :
    Matches rest Eq (some found) left (TokenGroup.readWithin less awaited values second) := by
  induction steps generalizing less awaited values first second with
  | zero => cases read
  | succ steps ih =>
    cases less with
    | zero => exact rfl
    | succ less =>
      cases awaited with
      | nil =>
        cases read
        exact ⟨rfl, alike⟩
      | cons closer outer =>
        obtain ⟨front, front', shown, shown', solid, same⟩ := next_plain stops alike plain plain'
        rw [TokenGroup.readWithin_succ, bind_apply, next_eq_ok_iff.mpr ⟨shown, rfl⟩] at read
        rw [TokenGroup.readWithin_succ, bind_apply, next_eq_ok_iff.mpr ⟨shown', rfl⟩]
        dsimp only at read ⊢
        split at read
        · cases read
        next more =>
          have same : front.bare = front'.bare := same.resolve_right more
          have kinds : front.kind = front'.kind := congrArg BareToken.kind same
          have spelled : front.value = front'.value := congrArg BareToken.value same
          rw [← kinds, ← spelled, if_neg more]
          exact ih _ _ (alike.advanced shown shown' ⟨more, solid⟩ same) plain.advanced plain'.advanced read

theorem macroGroup_follows (stops : Stops rest) {front front' : Token} (kind : front.kind = .bang)
    (same : front.bare = front'.bare) (path : String) :
    FollowsAt rest front front' Eq (macroGroup path) (macroGroup path) := by
  intro first second shown shown' alike value left read
  have kinds : front.kind = front'.kind := congrArg BareToken.kind same
  have solid : front.kind.IsSolid := by
    rw [kind]
    decide
  obtain ⟨plain, plain'⟩ : first.IsPlain ∧ second.IsPlain := by
    refine alike.groups.resolve_left fun quiet => ?_
    have solid' : front'.kind.IsSolid := by rwa [← kinds]
    refine quiet front'.bare ?_ (kinds.symm.trans kind)
    rw [words_eq_cons shown' solid']
    exact List.mem_cons_self
  obtain ⟨-, opening, closer, values, -, -, ahead, closes, group, rfl⟩ := macroGroup_eq_ok_iff.mp read
  rw [skipped_eq_of_isPlain plain] at ahead group
  have onward := alike.advanced shown shown' solid same
  obtain ⟨bracket, bracket', known, known', solid, same⟩ := next_plain stops onward plain.advanced plain'.advanced
  cases ahead.symm.trans known
  have more := (TokenGroup.ne_of_closer? closes).1
  have same : opening.bare = bracket'.bare := same.resolve_right more
  have kinds' : opening.kind = bracket'.kind := congrArg BareToken.kind same
  have spelled : opening.value = bracket'.value := congrArg BareToken.value same
  have again : Matches rest Eq (some values) left (TokenGroup.readWithin
      (second.advanced.advanced.pending.length + 2) [closer] [opening.value] second.advanced.advanced) :=
    readWithin_follows stops _ _ (onward.advanced known known' ⟨more, solid⟩ same) plain.advanced.advanced
      plain'.advanced.advanced group
  have still : second.skipped = second := skipped_eq_of_isPlain plain'
  have own' : second.skipped.front? = some front' := by rwa [still]
  have ahead' : second.skipped.advanced.front? = some bracket' := by rwa [still]
  rw [macroGroup_apply own' (kinds.symm.trans kind) ahead' (kinds' ▸ closes), still, ← spelled, bind_apply]
  cases run : TokenGroup.readWithin (second.advanced.advanced.pending.length + 2) [closer] [opening.value]
      second.advanced.advanced with
  | ok found behind =>
    rw [run] at again
    obtain ⟨rfl, alike⟩ := again
    exact ⟨rfl, alike⟩
  | error fault behind => rwa [run] at again

/-! ### Types -/

structure Following (rest : List BareToken) (steps less : Nat) : Prop where
  type : Follows rest Eq (type steps) (type less)
  tupleOrGroup : Follows rest Eq (tupleOrGroup steps) (tupleOrGroup less)
  types : ∀ closer, closer.IsSolid → Follows rest Eq (types closer steps) (types closer less)
  output : Follows rest Eq (output steps) (output less)
  pathOrMacro : Follows rest Eq (pathOrMacro steps) (pathOrMacro less)
  path : Follows rest Eq (path steps) (path less)
  segments : Follows rest Eq (segments steps) (segments less)
  segment : Follows rest Eq (segment steps) (segment less)
  angleArguments : Follows rest Eq (angleArguments steps) (angleArguments less)
  arguments : Follows rest Eq (arguments steps) (arguments less)
  argument : FollowsInside rest Eq (argument steps) (argument less)
  bounds : Follows rest Eq (bounds steps) (bounds less)
  bound : Follows rest Eq (bound steps) (bound less)

variable (stops : Stops rest) (following : Following rest steps less)

include stops following

/-- The part of a type that starts with a name. -/
theorem follows_named {front front' : Token} (kind : front.kind = .identifier)
    (same : front.bare = front'.bare) (value : String) :
    FollowsAt rest front front' Eq (match value with
      | "_" => do
        let _ ← next
        return .inferred
      | "fn" => do
        let _ ← next
        let _ ← ensure .openParen
        let inputs ← types .closeParen steps
        return .function inputs (← output steps)
      | "impl" => do
        let _ ← next
        return .implTrait (← bounds steps)
      | "dyn" => do
        let _ ← next
        return .traitObject (← bounds steps)
      | _ => pathOrMacro steps) (match value with
      | "_" => do
        let _ ← next
        return .inferred
      | "fn" => do
        let _ ← next
        let _ ← ensure .openParen
        let inputs ← types .closeParen less
        return .function inputs (← output less)
      | "impl" => do
        let _ ← next
        return .implTrait (← bounds less)
      | "dyn" => do
        let _ ← next
        return .traitObject (← bounds less)
      | _ => pathOrMacro less) := by
  have solid : front.kind.IsSolid := by
    rw [kind]
    decide
  split
  · exact .moved solid same (.pure rfl)
  · exact .moved solid same (.ensured stops (by decide) fun _ =>
      (following.types _ (by decide)).after fun _ => following.output.after fun _ => .pure rfl)
  · exact .moved solid same (following.bounds.after fun _ => .pure rfl)
  · exact .moved solid same (following.bounds.after fun _ => .pure rfl)
  · exact following.pathOrMacro.located _ _

theorem follows_typeStep : Follows rest Eq (type (steps + 1)) (type (less + 1)) := by
  rw [type, type]
  refine .looked stops (fun token kind => ?_) fun front front' same marked => ?_
  · rw [kind]
    exact .throw
  have kinds : front.kind = front'.kind := congrArg BareToken.kind same
  have values : front.value = front'.value := congrArg BareToken.value same
  rw [← kinds, ← values]
  split
  next kind => exact .moved (by rw [kind]; decide) same following.tupleOrGroup
  next kind =>
    refine .moved (by rw [kind]; decide) same (following.type.after fun element => ?_)
    refine .tested stops (by decide) (.inr (FailsAtEnd.ensure (by decide)).bind) ?_ ?_
    · exact (follows_constant stops).after fun _ => .ensured stops (by decide) fun _ => .pure rfl
    · exact .ensured stops (by decide) fun _ => .pure rfl
  next kind =>
    have element (duration : Option Lifetime) : Follows rest Eq (do
        let isMutable ← nextIs .identifier (some "mut")
        return TypeExpr.reference duration isMutable (← type steps)) (do
        let isMutable ← nextIs .identifier (some "mut")
        return TypeExpr.reference duration isMutable (← type less)) :=
      .test stops (by decide) (.inr (type_failsAtEnd _).bind) fun _ =>
        following.type.after fun _ => .pure rfl
    refine .moved (by rw [kind]; decide) same ?_
    refine .glanced stops (.inr (by decide)) (.inr (.nextIs (by decide) (type_failsAtEnd _).bind))
      (fun _ _ _ _ _ => Follows.located ?_ _ _) (element none)
    exact Follows.after ((follows_lifetime stops).map _) element
  next kind =>
    refine .moved (by rw [kind]; decide) same ?_
    refine .tested stops (by decide) (.inr (FailsAtEnd.ensure (by decide)).bind) ?_ ?_
    · exact following.type.after fun _ => .pure rfl
    · exact .ensured stops (by decide) fun _ => following.type.after fun _ => .pure rfl
  next kind => exact .moved (by rw [kind]; decide) same (.pure rfl)
  next kind => exact following.pathOrMacro.located _ _
  next kind => exact follows_named stops following kind same front.value
  · exact Follows.throw.located _ _

theorem follows_tupleOrGroup : Follows rest Eq (tupleOrGroup (steps + 1)) (tupleOrGroup (less + 1)) := by
  rw [tupleOrGroup, tupleOrGroup]
  refine .tested stops (by decide) (.inr (type_failsAtEnd _).bind) (.pure rfl) ?_
  refine following.type.after fun first => ?_
  refine .tested stops (by decide) (.inr (FailsAtEnd.ensure (by decide)).bind) (.pure rfl) ?_
  exact .ensured stops (by decide) fun _ => (following.types _ (by decide)).after fun _ => .pure rfl

theorem follows_types {closer : TokenKind} (solid : closer.IsSolid) :
    Follows rest Eq (types closer (steps + 1)) (types closer (less + 1)) := by
  rw [types, types]
  refine .tested stops solid (.inr (type_failsAtEnd _).bind) (.pure rfl) ?_
  refine following.type.after fun first => ?_
  refine .tested stops (by decide) (.inr (FailsAtEnd.ensure solid).bind) ?_ ?_
  · exact (following.types _ solid).after fun _ => .pure rfl
  · exact .ensured stops solid fun _ => .pure rfl

theorem follows_output : Follows rest Eq (output (steps + 1)) (output (less + 1)) := by
  rw [output, output]
  exact .tested stops (by decide) (.inl (stops.fits (by decide) _))
    (following.type.after fun _ => .pure rfl) (.pure rfl)

theorem follows_pathOrMacro : Follows rest Eq (pathOrMacro (steps + 1)) (pathOrMacro (less + 1)) := by
  rw [pathOrMacro, pathOrMacro]
  refine following.path.after fun found => ?_
  exact .glanced stops (.inr (by decide)) (.inl (stops.fits (by decide) _))
    (fun _ _ same _ kind => macroGroup_follows stops kind same _) (.pure rfl)

theorem follows_path : Follows rest Eq (path (steps + 1)) (path (less + 1)) := by
  rw [path, path]
  refine .tested stops (by decide) (.inl (stops.fits (by decide) _)) ?_ ?_
  · refine following.type.after fun subject => ?_
    have remaining (result : Segment → List Segment → Reading Path)
        (follows : ∀ first segments, Follows rest Eq (result first segments) (result first segments)) :
        Follows rest Eq (do
          let _ ← ensure .greaterThan
          let _ ← ensure .doubleColon
          let first ← segment steps
          let rest ← segments steps
          result first rest) (do
          let _ ← ensure .greaterThan
          let _ ← ensure .doubleColon
          let first ← segment less
          let rest ← segments less
          result first rest) :=
      .ensured stops (by decide) fun _ => .ensured stops (by decide) fun _ =>
        following.segment.after fun first => following.segments.after fun rest => follows first rest
    refine .tested stops (by decide) (.inr (FailsAtEnd.ensure (by decide)).bind) ?_ (remaining _ fun _ _ => .pure rfl)
    refine Follows.after (following.path.map _) fun trait => remaining _ fun _ _ => ?_
    split <;> exact .pure rfl
  · exact following.segment.after fun _ => following.segments.after fun _ => .pure rfl

theorem follows_segments : Follows rest Eq (segments (steps + 1)) (segments (less + 1)) := by
  rw [segments, segments]
  exact .tested stops (by decide) (.inl (stops.fits (by decide) _))
    (following.segment.after fun _ => following.segments.after fun _ => .pure rfl) (.pure rfl)

theorem follows_segment : Follows rest Eq (segment (steps + 1)) (segment (less + 1)) := by
  rw [segment, segment]
  refine .ensured stops (by decide) fun name => ?_
  have angle : Follows rest Eq (do
      let found ← angleArguments steps
      return Segment.angle name found) (do
      let found ← angleArguments less
      return Segment.angle name found) := following.angleArguments.after fun _ => .pure rfl
  refine .glanced stops (.inr (by decide)) (.inl (stops.fits (by decide) _))
    (fun _ _ _ _ _ => angle.located _ _) ?_
  refine .glanced stops (.inr (by decide)) (.inl (stops.fits (by decide) _))
    (fun front front' same marked kind => ?_) ?_
  · refine .moved (by rw [kind]; decide) same ?_
    refine .glanced stops (.inr (by decide)) (.inl (stops.fits (by decide) _))
      (fun _ _ _ _ _ => angle.located _ _) ?_
    exact .returned same (by rw [kind]; decide) (by rw [kind]; decide) marked (.pure rfl)
  · refine .tested stops (by decide) (.inl (stops.fits (by decide) _)) ?_ (.pure rfl)
    exact (following.types _ (by decide)).after fun _ => following.output.after fun _ => .pure rfl

theorem follows_angleArguments :
    Follows rest Eq (angleArguments (steps + 1)) (angleArguments (less + 1)) := by
  rw [angleArguments, angleArguments]
  exact .ensured stops (by decide) fun _ => following.arguments

theorem follows_arguments : Follows rest Eq (arguments (steps + 1)) (arguments (less + 1)) := by
  rw [arguments, arguments]
  refine .tested stops (by decide) (.inr (argument_failsAtEnd _).bind) (.pure rfl) ?_
  refine following.argument.before (fun _ => .nextIs (by decide) (FailsAtEnd.ensure (by decide)).bind) fun first => ?_
  refine .tested stops (by decide) (.inr (FailsAtEnd.ensure (by decide)).bind) ?_ ?_
  · exact following.arguments.after fun _ => .pure rfl
  · exact .ensured stops (by decide) fun _ => .pure rfl

theorem follows_bounds : Follows rest Eq (bounds (steps + 1)) (bounds (less + 1)) := by
  rw [bounds, bounds]
  refine following.bound.after fun first => ?_
  exact .tested stops (by decide) (.inl (stops.fits (by decide) _))
    (following.bounds.after fun _ => .pure rfl) (.pure rfl)

theorem follows_bound : Follows rest Eq (bound (steps + 1)) (bound (less + 1)) := by
  rw [bound, bound]
  refine .glanced stops (.inr (by decide)) (.inr (.nextIs (by decide) (path_failsAtEnd _).bind))
    (fun _ _ _ _ _ => Follows.located ?_ _ _) ?_
  · exact (follows_lifetime stops).after fun _ => .pure rfl
  · refine .tested stops (by decide) (.inl (stops.fits (by decide) _)) ?_ ?_
    · exact following.path.after fun _ => .ensured stops (by decide) fun _ => .pure rfl
    · exact following.path.after fun _ => .pure rfl

/-- A type that is read off a single word leaves none. -/
def TypeFinishes (steps : Nat) : Prop :=
  ∀ stream value left, Alike [] stream stream → stream.extent = 1 → type steps stream = .ok value left →
    left.Clean ∧ left.extent = 0

/-- Behind the name of an argument the first stream may be used up, where the second one goes on with a
sign that makes the argument another one. -/
theorem follows_argument (finishes : rest = [] ∨ TypeFinishes steps) :
    FollowsInside rest Eq (argument (steps + 1)) (argument (less + 1)) := by
  intro first second alike value left read
  obtain ⟨front, front', shown, shown', marked, -, same⟩ := alike.front? stops
  rcases same with same | ⟨ended, -⟩
  swap
  · exact absurd read (argument_failsAtEnd _ _ alike.left ended _ _)
  have kinds : front.kind = front'.kind := congrArg BareToken.kind same
  have values : front.value = front'.value := congrArg BareToken.value same
  have onward := alike.skipped stops
  rw [argument, bind_apply, current_eq_ok_iff.mpr ⟨shown, rfl⟩] at read
  rw [argument, bind_apply, current_eq_ok_iff.mpr ⟨shown', rfl⟩]
  dsimp only at read ⊢
  by_cases kind : front.kind = .identifier
  · have solid : front.kind.IsSolid := by
      rw [kind]
      decide
    rw [kind] at read
    rw [← kinds, kind]
    dsimp only at read ⊢
    rw [bind_apply, next_eq_ok_iff.mpr ⟨shown, rfl⟩] at read
    rw [bind_apply, next_eq_ok_iff.mpr ⟨shown', rfl⟩]
    have behind := onward.advanced shown shown' solid same
    dsimp only at read ⊢
    by_cases ended : rest ≠ [] ∧ first.skipped.advanced.extent = 0
    · -- neither sign follows the name on the first stream, and the type that is read off it uses the stream up
      right
      have lone := behind.self
      have once := lone.skipped stops_nil
      have twice := once.skipped stops_nil
      rw [bind_apply, FailsAtEnd.nextIs_eq (by decide) lone.left ended.2] at read
      dsimp only at read
      rw [if_neg (by decide), bind_apply, FailsAtEnd.nextIs_eq (by decide) once.left
        (by rw [extent_skipped, ended.2])] at read
      dsimp only at read
      rw [if_neg (by decide)] at read
      obtain ⟨_, between, back, read⟩ := bind_eq_ok read
      cases back
      obtain ⟨found, between, run, read⟩ := bind_eq_ok read
      cases read
      refine finishes.resolve_left ended.1 _ _ _ (twice.unget solid (by rw [kind]; decide) marked rfl) ?_ run
      rw [extent_unget _ _ solid, extent_skipped, extent_skipped, ended.2]
    · -- what follows the name is the same on both streams
      left
      have more (wanted : TokenKind) {stream : TokenStream}
          (same : stream.extent = first.skipped.advanced.extent) : stream.extent ≠ 0 ∨
            ∀ word ∈ rest.head?, word.fits wanted none = false := by
        by_cases none : rest = []
        · rw [none]
          exact .inr (by simp)
        · exact .inl fun zero => ended ⟨none, same.symm.trans zero⟩
      refine FollowsOn.test stops (by decide) ((more _ rfl).imp id .inl) (fun found => ?_) behind value left read
      cases found with
      | true => exact (following.type.after fun _ => .pure (by rw [values])) _ _
      | false =>
        rw [if_neg (by decide), if_neg (by decide), if_neg (by decide), if_neg (by decide)]
        refine FollowsOn.test stops (by decide) ((more _ (extent_skipped _)).imp id .inl) fun found => ?_
        cases found with
        | true => exact (following.bounds.after fun _ => .pure (by rw [values])) _ _
        | false =>
          refine (Follows.returned same solid (by rw [kind]; decide) marked ?_) _ _
          exact following.type.after fun _ => .pure rfl
  · left
    refine (?_ : FollowsAt rest front front' Eq _ _) _ _ shown shown' onward value left read
    rw [← kinds]
    split
    · exact ((follows_lifetime stops).after fun _ => .pure rfl).located _ _
    next number => exact .moved (by rw [number]; decide) same (.pure (by rw [values]))
    next identifier => exact absurd identifier kind
    · exact (following.type.after fun _ => .pure rfl).located _ _

omit following

theorem following_of (finishes : rest = [] ∨ ∀ steps, TypeFinishes steps) (steps less : Nat) :
    Following rest steps less := by
  induction steps generalizing less with
  | zero => constructor <;> intros <;> first | exact .throw | exact fun _ _ _ _ _ read => by cases read
  | succ steps ih =>
    cases less with
    | zero => constructor <;> intros <;> first | exact .dry | exact fun _ _ _ _ _ _ => .inl rfl
    | succ less => exact {
        type := follows_typeStep stops (ih less)
        tupleOrGroup := follows_tupleOrGroup stops (ih less)
        types := fun _ solid => follows_types stops (ih less) solid
        output := follows_output stops (ih less)
        pathOrMacro := follows_pathOrMacro stops (ih less)
        path := follows_path stops (ih less)
        segments := follows_segments stops (ih less)
        segment := follows_segment stops (ih less)
        angleArguments := follows_angleArguments stops (ih less)
        arguments := follows_arguments stops (ih less)
        argument := follows_argument stops (ih less) (finishes.imp id fun all => all steps)
        bounds := follows_bounds stops (ih less)
        bound := follows_bound stops (ih less) }

omit stops

/-- With enough steps the type parser takes the word, and with any other number it does the same. -/
theorem typeFinishes (steps : Nat) : TypeFinishes steps := by
  intro stream value left alike one read
  have follows := (following_of stops_nil (.inl rfl) steps 12).type _ _ alike value left read
  have ended := (ending 12).type 1 (by decide) stream alike.left.sane (Nat.le_of_eq one)
  cases run : type 12 stream with
  | ok value' left' =>
    rw [run] at follows ended
    have words := follows.2.words
    have small : left'.extent + 1 ≤ 1 := ended.2
    rw [List.append_nil] at words
    refine ⟨follows.2.left, ?_⟩
    rw [follows.2.left.extent_eq, ← words, ← follows.2.right.extent_eq]
    omega
  | error fault left' =>
    rw [run] at follows ended
    have same : fault = .outOfSteps := follows
    rw [same] at ended
    exact ended.1.elim

/-- The parser reads off a stream what it reads off every stream that is alike. -/
theorem following_self (stops : Stops rest) (steps less : Nat) : Following rest steps less :=
  following_of stops (.inr typeFinishes) steps less

end TypeExpr.Parser

theorem follows_type (stops : Stops rest) : Follows rest Eq TypeExpr.parse TypeExpr.parse :=
  .get fun _ _ => (TypeExpr.Parser.following_self stops _ _).type

theorem follows_bounds (stops : Stops rest) : Follows rest Eq TypeExpr.parseBounds TypeExpr.parseBounds :=
  .get fun _ _ => (TypeExpr.Parser.following_self stops _ _).bounds

end CowView
