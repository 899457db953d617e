import CowView.Declaration.Annotation
import CowView.Proofs.Reading

/-!
What actions give on tokens of a sort. `Gives` is a triple for streams whose tokens are all of a sort: an
action leaves such a stream behind, and its result is as said. Types, bounds and annotations are read
without a look at the result (`keeps_type`, `keeps_annotations`).
-/

namespace CowView

open TokenStream

structure TokenStream.Holds (stream : TokenStream) (sort : Token → Prop) : Prop where
  token : ∀ token, Lexeme.token token ∈ stream.pending → sort token
  docs : stream.docs = "" ∨ ∃ token, sort token ∧ token.kind = .comment ∧ stream.docs = DocComment.body token.value

def Gives {α : Type} (sort : Token → Prop) (action : Reading α) (result : α → Prop) : Prop :=
  ∀ stream left value, stream.Holds sort → action stream = .ok value left →
    left.Holds sort ∧ result value

def Keeps {α : Type} (sort : Token → Prop) (action : Reading α) : Prop :=
  Gives sort action fun _ => True

section

variable {sort : Token → Prop} {α β : Type} {kind : TokenKind} {wanted : Option String}

namespace TokenStream.Holds

variable {stream : TokenStream}

theorem advanced (holds : stream.Holds sort) : stream.advanced.Holds sort where
  token token member := holds.token token (List.mem_of_mem_tail member)
  docs := holds.docs

/-- The documentation that is kept is the old one, or comes from a comment that was dropped. -/
theorem dropComments_docs (lexemes : List Lexeme) (docs : String) : (dropComments docs lexemes).2 = docs ∨
    ∃ token, Lexeme.token token ∈ lexemes ∧ token.kind = .comment ∧
      (dropComments docs lexemes).2 = DocComment.body token.value := by
  induction lexemes generalizing docs with
  | nil => exact .inl rfl
  | cons lexeme rest ih =>
    cases lexeme with
    | fault fault => exact .inl rfl
    | token token =>
      unfold dropComments
      split
      next comment =>
        rcases ih (if DocComment.isDoc token.value then DocComment.body token.value else docs) with same | ⟨other, member, found⟩
        · rw [same]
          split
          · exact .inr ⟨token, by simp, by simpa [Token.isComment] using comment, rfl⟩
          · exact .inl rfl
        · exact .inr ⟨other, by simp [member], found⟩
      · exact .inl rfl

theorem skipped (holds : stream.Holds sort) : stream.skipped.Holds sort where
  token token member := holds.token token (dropComments_subset _ _ member)
  docs := by
    rcases dropComments_docs stream.pending stream.docs with same | ⟨token, member, comment, same⟩
    · exact holds.docs.imp same.trans fun ⟨token, own, comment, kept⟩ => ⟨token, own, comment, same.trans kept⟩
    · exact .inr ⟨token, holds.token token member, comment, same⟩

theorem front? {token : Token} (holds : stream.Holds sort) (ends : ∀ position, sort (.endAt position))
    (shown : stream.front? = some token) : sort token := by
  unfold TokenStream.front? at shown
  split at shown
  next first rest pending =>
    cases shown
    exact holds.token token (by rw [pending]; exact List.mem_cons_self)
  next position _ _ =>
    cases shown
    exact ends position
  · cases shown

end TokenStream.Holds

/-! ### Rules -/

namespace Gives

variable {action : Reading α} {next : α → Reading β} {between : α → Prop} {result : β → Prop}

theorem pure {value : β} (holds : result value) : Gives sort (pure value) result := by
  intro stream left found sorted read
  cases read
  exact ⟨sorted, holds⟩

theorem throw {fault : Fault} : Gives sort (throw fault) result := by
  intro stream left found sorted read
  cases read

theorem bind (first : Gives sort action between) (later : ∀ found, between found → Gives sort (next found) result) :
    Gives sort (action >>= next) result := by
  intro stream left value sorted read
  obtain ⟨found, behind, one, two⟩ := bind_eq_ok read
  obtain ⟨sorted, holds⟩ := first _ _ _ sorted one
  exact later found holds _ _ _ sorted two

theorem mono {wider : β → Prop} {whole : Reading β} (gives : Gives sort whole result)
    (wide : ∀ found, result found → wider found) : Gives sort whole wider :=
  fun _ _ _ sorted read => (gives _ _ _ sorted read).imp_right (wide _)

theorem keeps {whole : Reading β} (gives : Gives sort whole result) : Keeps sort whole :=
  gives.mono fun _ _ => trivial

theorem map {change : α → β} (first : Gives sort action between)
    (holds : ∀ found, between found → result (change found)) : Gives sort (change <$> action) result := by
  rw [map_eq_pure_bind]
  exact first.bind fun found known => pure (holds found known)

theorem ite {condition : Prop} [Decidable condition] {yes no : Reading β}
    (first : condition → Gives sort yes result) (second : ¬ condition → Gives sort no result) :
    Gives sort (if condition then yes else no) result := by
  split
  next holds => exact first holds
  next fails => exact second fails

theorem get {next : TokenStream → Reading β} (later : ∀ stream, Gives sort (next stream) result) :
    Gives sort (get >>= next) result :=
  fun stream left value sorted read => later stream stream left value sorted read

end Gives

theorem Keeps.after {action : Reading α} {next : α → Reading β} {result : β → Prop}
    (first : Keeps sort action) (later : ∀ found, Gives sort (next found) result) :
    Gives sort (action >>= next) result :=
  first.bind fun found _ => later found

theorem keeps_nextIs : Keeps sort (nextIs kind wanted) := by
  intro stream left value sorted read
  obtain ⟨token, shown, rfl, rfl⟩ := nextIs_eq_ok_iff.mp read
  refine ⟨?_, trivial⟩
  split
  · exact sorted.skipped.advanced
  · exact sorted.skipped

theorem keeps_peekedIs : Keeps sort (peekedIs kind wanted) := by
  intro stream left value sorted read
  obtain ⟨token, shown, rfl, rfl⟩ := peekedIs_eq_ok_iff.mp read
  exact ⟨sorted.skipped, trivial⟩

theorem keeps_lastDocs : Keeps sort (lastDocs true) := by
  intro stream left value sorted read
  cases read
  exact ⟨⟨sorted.token, .inl rfl⟩, trivial⟩

theorem Gives.test {yes no : Reading β} {result : β → Prop} (first : Gives sort yes result)
    (second : Gives sort no result) :
    Gives sort (nextIs kind wanted >>= fun found => if found = true then yes else no) result :=
  keeps_nextIs.bind fun _ _ => .ite (fun _ => first) fun _ => second

theorem Gives.glance {yes no : Reading β} {result : β → Prop} (first : Gives sort yes result)
    (second : Gives sort no result) :
    Gives sort (peekedIs kind wanted >>= fun found => if found = true then yes else no) result :=
  keeps_peekedIs.bind fun _ _ => .ite (fun _ => first) fun _ => second

section

variable (ends : ∀ position, sort (.endAt position))

include ends

theorem gives_next : Gives sort TokenStream.next sort := by
  intro stream left token sorted read
  obtain ⟨shown, rfl⟩ := next_eq_ok_iff.mp read
  exact ⟨sorted.advanced, sorted.front? ends shown⟩

theorem gives_peek : Gives sort TokenStream.peek sort := by
  intro stream left token sorted read
  obtain ⟨shown, rfl⟩ := peek_eq_ok_iff.mp read
  exact ⟨sorted, sorted.front? ends shown⟩

theorem gives_current : Gives sort TokenStream.current sort := by
  intro stream left token sorted read
  obtain ⟨shown, rfl⟩ := current_eq_ok_iff.mp read
  exact ⟨sorted.skipped, sorted.skipped.front? ends shown⟩

theorem gives_ensure : Gives sort (ensure kind wanted) fun found =>
    ∃ token, sort token ∧ token.kind = kind ∧ found = token.value := by
  intro stream left value sorted read
  obtain ⟨token, shown, fit, rfl, rfl⟩ := ensure_eq_ok_iff.mp read
  refine ⟨sorted.skipped.advanced, token, sorted.skipped.front? ends shown, ?_, rfl⟩
  simp only [fits, Bool.and_eq_true, decide_eq_true_eq] at fit
  exact fit.1

theorem keeps_ensure : Keeps sort (ensure kind wanted) := (gives_ensure ends).keeps

end

theorem keeps_unget {token : Token} (own : sort token) : Keeps sort (unget token) := by
  intro stream left value sorted read
  cases read
  refine ⟨⟨fun other member => ?_, sorted.docs⟩, trivial⟩
  rcases List.mem_cons.mp member with same | member
  · cases same
    exact own
  · exact sorted.token other member

/-! ### Types and annotations -/

def LifetimeOf (sort : Token → Prop) (duration : Lifetime) : Prop :=
  ∃ token, sort token ∧ token.kind = .lifetime ∧ Lifetime.ofMarked? token.value = some duration

def TypeOf (sort : Token → Prop) (type : TypeExpr) : Prop :=
  ∃ stream left, stream.Holds sort ∧ TypeExpr.parse stream = .ok type left

section

variable (ends : ∀ position, sort (.endAt position))

namespace TypeExpr.Parser

/-- The functions of the parser leave tokens of the sort, within a number of steps. -/
structure Keeping (sort : Token → Prop) (steps : Nat) : Prop where
  type : Keeps sort (type steps)
  tupleOrGroup : Keeps sort (tupleOrGroup steps)
  types : ∀ closer, Keeps sort (types closer steps)
  output : Keeps sort (output steps)
  pathOrMacro : Keeps sort (pathOrMacro steps)
  path : Keeps sort (path steps)
  segments : Keeps sort (segments steps)
  segment : Keeps sort (segment steps)
  angleArguments : Keeps sort (angleArguments steps)
  arguments : Keeps sort (arguments steps)
  argument : Keeps sort (argument steps)
  bounds : Keeps sort (bounds steps)
  bound : Keeps sort (bound steps)

variable {steps : Nat}

include ends

theorem gives_lifetime : Gives sort lifetime (LifetimeOf sort) := by
  refine (gives_ensure ends).bind fun found taken => ?_
  obtain ⟨token, own, kind, rfl⟩ := taken
  split
  next marked => exact .pure ⟨token, own, kind, marked⟩
  · exact .throw

theorem keeps_lifetime : Keeps sort lifetime := (gives_lifetime ends).keeps

theorem keeps_constant : Keeps sort constant := by
  refine (gives_current ends).bind fun token _ => ?_
  split
  · exact (gives_next ends).keeps.after fun _ => .pure trivial
  · exact (gives_next ends).keeps.after fun _ => .pure trivial
  · exact .throw

theorem keeps_readWithin (steps : Nat) (awaited : List TokenKind) (values : List String) :
    Keeps sort (TokenGroup.readWithin steps awaited values) := by
  induction steps generalizing awaited values with
  | zero =>
    cases awaited <;> exact .throw
  | succ steps ih =>
    cases awaited with
    | nil => exact .pure trivial
    | cons closer outer =>
      refine (gives_next ends).keeps.after fun token => ?_
      split
      · exact .pure trivial
      · exact ih _ _
      · exact ih _ _

theorem keeps_macroGroup (path : String) : Keeps sort (macroGroup path) := by
  refine (keeps_ensure ends).after fun _ => (gives_next ends).keeps.after fun opening => ?_
  split
  · exact .throw
  · refine .get fun stream => (keeps_readWithin ends _ _ _).after fun values => ?_
    split
    · exact .pure trivial
    · exact .throw

/-- The part of a type that starts with a name. -/
theorem keeps_named (keeping : Keeping sort steps) (value : String) : Keeps sort (match value with
    | "_" => do
      let _ ← next
      return .inferred
    | "fn" => do
      let _ ← next
      let _ ← ensure .openParen
      let inputs ← types .closeParen steps
      return .function inputs (← output steps)
    | "impl" => do
      let _ ← next
      return .implTrait (← bounds steps)
    | "dyn" => do
      let _ ← next
      return .traitObject (← bounds steps)
    | _ => pathOrMacro steps) := by
  have step := (gives_next ends).keeps
  split
  · exact step.after fun _ => .pure trivial
  · exact step.after fun _ => (keeps_ensure ends).after fun _ =>
      (keeping.types _).after fun _ => keeping.output.after fun _ => .pure trivial
  · exact step.after fun _ => keeping.bounds.after fun _ => .pure trivial
  · exact step.after fun _ => keeping.bounds.after fun _ => .pure trivial
  · exact keeping.pathOrMacro

theorem keeps_typeStep (keeping : Keeping sort steps) : Keeps sort (type (steps + 1)) := by
  have step := (gives_next ends).keeps
  rw [type]
  refine (gives_current ends).bind fun token _ => ?_
  split
  · exact step.after fun _ => keeping.tupleOrGroup
  · refine step.after fun _ => keeping.type.after fun _ => .test ?_ ?_
    · exact (keeps_constant ends).after fun _ => (keeps_ensure ends).after fun _ => .pure trivial
    · exact (keeps_ensure ends).after fun _ => .pure trivial
  · have element (duration : Option Lifetime) : Keeps sort (do
        let isMutable ← nextIs .identifier (some "mut")
        return TypeExpr.reference duration isMutable (← type steps)) :=
      keeps_nextIs.after fun _ => keeping.type.after fun _ => .pure trivial
    refine step.after fun _ => .glance ?_ (element none)
    exact Keeps.after (.map (keeps_lifetime ends) fun _ _ => trivial) element
  · refine step.after fun _ => .test ?_ ?_
    · exact keeping.type.after fun _ => .pure trivial
    · exact (keeps_ensure ends).after fun _ => keeping.type.after fun _ => .pure trivial
  · exact step.after fun _ => .pure trivial
  · exact keeping.pathOrMacro
  · exact keeps_named ends keeping token.value
  · exact .throw

theorem keeps_tupleOrGroup (keeping : Keeping sort steps) : Keeps sort (tupleOrGroup (steps + 1)) := by
  rw [tupleOrGroup]
  refine .test (.pure trivial) (keeping.type.after fun _ => .test (.pure trivial) ?_)
  exact (keeps_ensure ends).after fun _ => (keeping.types _).after fun _ => .pure trivial

theorem keeps_types (keeping : Keeping sort steps) (closer : TokenKind) :
    Keeps sort (types closer (steps + 1)) := by
  rw [types]
  refine .test (.pure trivial) (keeping.type.after fun _ => .test ?_ ?_)
  · exact (keeping.types _).after fun _ => .pure trivial
  · exact (keeps_ensure ends).after fun _ => .pure trivial

theorem keeps_pathOrMacro (keeping : Keeping sort steps) : Keeps sort (pathOrMacro (steps + 1)) := by
  rw [pathOrMacro]
  exact keeping.path.after fun _ => .glance (keeps_macroGroup ends _) (.pure trivial)

theorem keeps_path (keeping : Keeping sort steps) : Keeps sort (path (steps + 1)) := by
  rw [path]
  refine .test (keeping.type.after fun subject => ?_) ?_
  · have remaining (result : Segment → List Segment → Reading Path)
        (keeps : ∀ first rest, Keeps sort (result first rest)) : Keeps sort (do
          let _ ← ensure .greaterThan
          let _ ← ensure .doubleColon
          let first ← segment steps
          let rest ← segments steps
          result first rest) :=
      (keeps_ensure ends).after fun _ => (keeps_ensure ends).after fun _ =>
        keeping.segment.after fun first => keeping.segments.after fun rest => keeps first rest
    refine .test ?_ (remaining _ fun _ _ => .pure trivial)
    refine Keeps.after (.map keeping.path fun _ _ => trivial) fun trait => remaining _ fun _ _ => ?_
    split <;> exact .pure trivial
  · exact keeping.segment.after fun _ => keeping.segments.after fun _ => .pure trivial

theorem keeps_segment (keeping : Keeping sort steps) : Keeps sort (segment (steps + 1)) := by
  rw [segment]
  have angle (name : String) : Keeps sort (do
      let found ← angleArguments steps
      return Segment.angle name found) := keeping.angleArguments.after fun _ => .pure trivial
  refine (keeps_ensure ends).after fun name => .glance (angle name) (.glance ?_ (.test ?_ ?_))
  · refine (gives_next ends).bind fun colons own => .glance (angle name) ?_
    exact (keeps_unget own).after fun _ => .pure trivial
  · exact (keeping.types _).after fun _ => keeping.output.after fun _ => .pure trivial
  · exact .pure trivial

theorem keeps_argument (keeping : Keeping sort steps) : Keeps sort (argument (steps + 1)) := by
  rw [argument]
  refine (gives_current ends).bind fun token _ => ?_
  split
  · exact (keeps_lifetime ends).after fun _ => .pure trivial
  · exact (gives_next ends).keeps.after fun _ => .pure trivial
  · refine (gives_next ends).bind fun name own => .test ?_ (.test ?_ ?_)
    · exact keeping.type.after fun _ => .pure trivial
    · exact keeping.bounds.after fun _ => .pure trivial
    · exact (keeps_unget own).after fun _ => keeping.type.after fun _ => .pure trivial
  · exact keeping.type.after fun _ => .pure trivial

theorem keeps_bound (keeping : Keeping sort steps) : Keeps sort (bound (steps + 1)) := by
  rw [bound]
  refine .glance ?_ (.test ?_ ?_)
  · exact (keeps_lifetime ends).after fun _ => .pure trivial
  · exact keeping.path.after fun _ => (keeps_ensure ends).after fun _ => .pure trivial
  · exact keeping.path.after fun _ => .pure trivial

theorem keeping (steps : Nat) : Keeping sort steps := by
  induction steps with
  | zero => constructor <;> intros <;> exact .throw
  | succ steps ih => exact {
      type := keeps_typeStep ends ih
      tupleOrGroup := keeps_tupleOrGroup ends ih
      types := keeps_types ends ih
      output := by
        rw [output]
        exact .test (ih.type.after fun _ => .pure trivial) (.pure trivial)
      pathOrMacro := keeps_pathOrMacro ends ih
      path := keeps_path ends ih
      segments := by
        rw [segments]
        exact .test (ih.segment.after fun _ => ih.segments.after fun _ => .pure trivial) (.pure trivial)
      segment := keeps_segment ends ih
      angleArguments := by
        rw [angleArguments]
        exact (keeps_ensure ends).after fun _ => ih.arguments
      arguments := by
        rw [arguments]
        refine .test (.pure trivial) (ih.argument.after fun _ => .test ?_ ?_)
        · exact ih.arguments.after fun _ => .pure trivial
        · exact (keeps_ensure ends).after fun _ => .pure trivial
      argument := keeps_argument ends ih
      bounds := by
        rw [bounds]
        exact ih.bound.after fun _ => .test (ih.bounds.after fun _ => .pure trivial) (.pure trivial)
      bound := keeps_bound ends ih }

end TypeExpr.Parser

include ends

theorem keeps_type : Keeps sort TypeExpr.parse :=
  .get fun _ => (TypeExpr.Parser.keeping ends _).type

theorem gives_type : Gives sort TypeExpr.parse (TypeOf sort) :=
  fun stream left type sorted read => ⟨(keeps_type ends stream left type sorted read).1, stream, left, sorted, read⟩

theorem keeps_bounds : Keeps sort TypeExpr.parseBounds :=
  .get fun _ => (TypeExpr.Parser.keeping ends _).bounds

namespace Annotation

variable {attribution : Attribution}

theorem keeps_failHere {problem : AnnotationProblem} :
    Keeps sort (failHere attribution problem : Reading β) :=
  (gives_peek ends).keeps.after fun _ => .throw

omit ends in
theorem keeps_orOnSource {action other : Reading β} (first : Keeps sort action)
    (second : ∀ stream left value, other stream ≠ .ok value left) : Keeps sort (orOnSource action other) := by
  intro stream left value sorted read
  unfold orOnSource at read
  split at read
  · exact absurd read (second _ _ _)
  · exact first _ _ _ sorted read

omit ends in
theorem failHere_ne_ok {problem : AnnotationProblem} (stream left : TokenStream) (value : β) :
    failHere attribution problem stream ≠ .ok value left := by
  intro read
  obtain ⟨_, _, _, last⟩ := bind_eq_ok read
  cases last

theorem keeps_item (mark : Annotation) (isFirst : Bool) (token : Token) :
    Keeps sort (item attribution mark isFirst token) := by
  have subject : Keeps sort subject := .glance
    ((TypeExpr.Parser.keeps_lifetime ends).after fun _ => .pure trivial) (keeps_type ends)
  refine (keeps_orOnSource subject fun _ _ _ read => by cases read).after fun found => .test ?_ ?_
  · exact (keeps_orOnSource (keeps_bounds ends) failHere_ne_ok).after fun _ => .pure trivial
  · split
    · exact .ite (fun _ => .pure trivial) fun _ => .throw
    · exact keeps_failHere ends

theorem keeps_items (steps : Nat) (mark : Annotation) (isFirst : Bool) :
    Keeps sort (items attribution steps mark isFirst) := by
  induction steps generalizing mark isFirst with
  | zero => exact .throw
  | succ steps ih =>
    refine .test (.pure trivial) ((gives_peek ends).keeps.after fun token => .ite (fun _ => .throw) fun _ => ?_)
    refine (keeps_item ends _ _ _).after fun _ => .test (ih _ _) (.test (.pure trivial) ?_)
    exact keeps_failHere ends

theorem keeps_parse : Keeps sort (parse attribution) := by
  refine (gives_next ends).keeps.after fun start => keeps_peekedIs.after fun found => ?_
  have named : Keeps sort (do
      let name ← ensure .identifier
      if name ≠ keyword then
        throw (fault attribution (.unknownName name) start)
      let mark : Annotation := ⟨none, [], start.position⟩
      if ← nextIs .openParen then
        items attribution ((← get).pending.length + 1) mark true
      else
        return mark) := by
    refine (keeps_ensure ends).after fun name => .ite (fun _ => .throw) fun _ => .test ?_ (.pure trivial)
    exact .get fun _ => keeps_items ends _ _ _
  exact .ite (fun _ => (keeps_failHere ends).after fun _ => named) fun _ => named

theorem keeps_parseAll : Keeps sort (parseAll attribution) := by
  have further (steps : Nat) (found : Option Annotation) :
      Keeps sort (parseAllFrom attribution steps found) := by
    induction steps generalizing found with
    | zero => exact .throw
    | succ steps ih =>
      refine .glance ((gives_peek ends).keeps.after fun token => (keeps_parse ends).after fun mark => ?_)
        (.pure trivial)
      exact .ite (fun _ => .throw) fun _ => ih _
  exact .get fun _ => further _ _

end Annotation

end

end

end CowView
