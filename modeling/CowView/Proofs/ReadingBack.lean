import CowView.Proofs.Completeness
import CowView.Proofs.FollowingFields
import CowView.Proofs.UnitGrammar

/-!
Declarations are read back from the words that were written. `Moves` is a triple over the words that are
left: the action goes from some words to others with a result as said, unless it is out of steps. Where types
and bounds end is known from their own texts: what follows them in a unit never continues them, so the parser
stops there as it does at the end of the text.
-/

namespace CowView

open TokenStream

variable {words start finish rest : List BareToken} {word : BareToken} {kind : TokenKind} {wanted : Option String}

/-! ### Streams of words -/

/-- The stream goes on with these words. There are no comments, and no documentation is kept. -/
structure TokenStream.Shows (stream : TokenStream) (words : List BareToken) : Prop where
  clean : stream.Clean
  plain : stream.IsPlain
  docs : stream.docs = ""
  words : stream.words = words

namespace TokenStream.Shows

variable {stream : TokenStream}

theorem skipped (shows_ : stream.Shows words) : stream.skipped = stream := TypeExpr.Parser.skipped_eq_of_isPlain shows_.plain

theorem front? (shows_ : stream.Shows words) : ∃ token, stream.front? = some token ∧ token.bare = BareToken.ahead words := by
  obtain ⟨token, shown, -, -, same⟩ := shows_.clean.front?
  rw [shows_.skipped] at shown same
  exact ⟨token, shown, by rw [same, shows_.words]⟩

theorem cons (shows_ : stream.Shows (word :: words)) : ∃ token, stream.front? = some token ∧ token.bare = word ∧
    stream.advanced.Shows words := by
  obtain ⟨token, shown, same⟩ := shows_.front?
  have plain : token.kind ≠ .comment := by
    apply front?_skipped
    rw [shows_.skipped]
    exact shown
  have more : token.kind ≠ .endOfInput := by
    intro last
    have none := shows_.clean.words_eq_nil shown last
    rw [shows_.words] at none
    cases none
  have whole := words_eq_cons shown ⟨more, plain⟩
  rw [shows_.words] at whole
  exact ⟨token, shown, same, shows_.clean.advanced, shows_.plain.advanced, shows_.docs, (List.cons.inj whole).2.symm⟩

end TokenStream.Shows

theorem InWords.shows {text : String} (written : InWords text words) : (TokenStream.ofText text).Shows words := by
  obtain ⟨tokens, lexes, same, solid⟩ := written
  have loud : ∀ token ∈ tokens, token.bare.isSilent = false := by
    intro token member
    have kind : token.bare.kind ≠ .comment := solid _ (by rw [← same]; exact List.mem_map_of_mem member)
    simp [BareToken.isSilent, kind]
  refine ⟨lexes.clean, fun token member => ?_, rfl, ?_⟩
  · obtain ⟨position, own⟩ := lexes.ofText
    rw [own] at member
    obtain ⟨other, known, same'⟩ := List.mem_map.mp member
    cases same'
    exact solid token.bare (by rw [← same]; exact List.mem_map_of_mem known)
  · rw [lexes.words, ← same, List.filter_eq_self.mpr fun token member => by simp [loud token member]]

/-! ### The triple -/

section

variable {α β : Type}

def Comes (good : α → Prop) (finish : List BareToken) : EStateM.Result Fault TokenStream α → Prop
  | .ok value left => good value ∧ left.Shows finish
  | .error fault _ => fault = .outOfSteps

def Moves (action : Reading α) (start : List BareToken) (good : α → Prop) (finish : List BareToken) : Prop :=
  ∀ stream, stream.Shows start → Comes good finish (action stream)

namespace Moves

variable {action : Reading α} {next : α → Reading β} {good : α → Prop} {fine : β → Prop} {value : α}

theorem pure {value : β} (holds : fine value) : Moves (pure value) words fine words :=
  fun _ shows_ => ⟨holds, shows_⟩

theorem dry : Moves (throw Fault.outOfSteps : Reading β) start fine finish := fun _ _ => rfl

theorem bind {between : List BareToken} (first : Moves action start good between)
    (later : ∀ value, good value → Moves (next value) between fine finish) :
    Moves (action >>= next) start fine finish := by
  intro stream shows_
  have came := first stream shows_
  rw [bind_apply]
  cases run : action stream with
  | ok found left =>
    rw [run] at came
    exact later found came.1 left came.2
  | error fault left => rwa [run] at came

theorem after {between : List BareToken} (first : Moves action start (value = ·) between)
    (later : Moves (next value) between fine finish) : Moves (action >>= next) start fine finish :=
  first.bind fun found same => by
    cases same
    exact later

theorem mono {wide : α → Prop} (moves : Moves action start good finish) (wider : ∀ value, good value → wide value) :
    Moves action start wide finish := by
  intro stream shows_
  have came := moves stream shows_
  cases run : action stream with
  | ok value left =>
    rw [run] at came
    exact ⟨wider value came.1, came.2⟩
  | error fault left => rwa [run] at came

theorem get {next : TokenStream → Reading β} (later : ∀ stream, Moves (next stream) start fine finish) :
    Moves (get >>= next) start fine finish :=
  fun stream => later stream stream

theorem taken {next : Bool → Reading β} (fit : word.fits kind wanted = true)
    (later : Moves (next true) words fine finish) :
    Moves (nextIs kind wanted >>= next) (word :: words) fine finish := by
  intro stream shows_
  obtain ⟨token, shown, rfl, behind⟩ := shows_.cons
  have read : nextIs kind wanted stream = .ok true stream.advanced := by
    refine nextIs_eq_ok_iff.mpr ⟨token, ?_, fit.symm, ?_⟩
    · rw [shows_.skipped, shown]
    · rw [shows_.skipped]
      rfl
  rw [bind_apply, read]
  exact later _ behind

theorem passed {next : Bool → Reading β} (other : (BareToken.ahead words).fits kind wanted = false)
    (later : Moves (next false) words fine finish) : Moves (nextIs kind wanted >>= next) words fine finish := by
  intro stream shows_
  obtain ⟨token, shown, same⟩ := shows_.front?
  rw [← same] at other
  have read : nextIs kind wanted stream = .ok false stream := by
    refine nextIs_eq_ok_iff.mpr ⟨token, ?_, other.symm, ?_⟩
    · rw [shows_.skipped, shown]
    · exact shows_.skipped.symm
  rw [bind_apply, read]
  exact later _ shows_

/-- A test that takes nothing. -/
theorem seen {next : Bool → Reading β} (found : Bool) (fit : (BareToken.ahead words).fits kind wanted = found)
    (later : Moves (next found) words fine finish) : Moves (peekedIs kind wanted >>= next) words fine finish := by
  intro stream shows_
  obtain ⟨token, shown, same⟩ := shows_.front?
  rw [← same] at fit
  have read : peekedIs kind wanted stream = .ok found stream := by
    refine peekedIs_eq_ok_iff.mpr ⟨token, ?_, fit.symm, shows_.skipped.symm⟩
    rw [shows_.skipped, shown]
  rw [bind_apply, read]
  exact later _ shows_

theorem ensured {next : String → Reading β} (fit : word.fits kind wanted = true)
    (later : Moves (next word.value) words fine finish) :
    Moves (ensure kind wanted >>= next) (word :: words) fine finish := by
  intro stream shows_
  obtain ⟨token, shown, rfl, behind⟩ := shows_.cons
  have read : ensure kind wanted false stream = .ok token.value stream.advanced := by
    refine ensure_eq_ok_iff.mpr ⟨token, ?_, fit, rfl, ?_⟩
    · rw [shows_.skipped, shown]
    · rw [shows_.skipped]
  rw [bind_apply, read]
  exact later _ behind

theorem moved {next : Token → Reading β} (later : ∀ token : Token, token.bare = word → Moves (next token) words fine finish) :
    Moves (TokenStream.next >>= next) (word :: words) fine finish := by
  intro stream shows_
  obtain ⟨token, shown, same, behind⟩ := shows_.cons
  rw [bind_apply, next_eq_ok_iff.mpr ⟨shown, rfl⟩]
  exact later token same _ behind

theorem looked {next : Token → Reading β}
    (later : ∀ token : Token, token.bare = BareToken.ahead words → Moves (next token) words fine finish) :
    Moves (peek >>= next) words fine finish := by
  intro stream shows_
  obtain ⟨token, shown, same⟩ := shows_.front?
  rw [bind_apply, peek_eq_ok_iff.mpr ⟨shown, rfl⟩]
  exact later token same _ shows_

theorem lastDocs {next : String → Reading β} (later : Moves (next "") words fine finish) :
    Moves (lastDocs true >>= next) words fine finish := by
  intro stream shows_
  have read : TokenStream.lastDocs true stream = .ok stream.docs { stream with docs := "" } := rfl
  rw [shows_.docs] at read
  rw [bind_apply, read]
  refine later _ ⟨?_, shows_.plain, rfl, shows_.words⟩
  exact ⟨shows_.clean.finished, shows_.clean.token, shows_.clean.last⟩

end Moves

theorem moves_ensure (fit : word.fits kind wanted = true) :
    Moves (ensure kind wanted) (word :: words) (word.value = ·) words := by
  have moves : Moves (ensure kind wanted >>= pure) (word :: words) (word.value = ·) words := .ensured fit (.pure rfl)
  rwa [bind_pure] at moves

theorem moves_nextIs (fit : word.fits kind wanted = true) :
    Moves (nextIs kind wanted) (word :: words) (true = ·) words := by
  have moves : Moves (nextIs kind wanted >>= pure) (word :: words) (true = ·) words := .taken fit (.pure rfl)
  rwa [bind_pure] at moves

theorem moves_nextIs_other (other : (BareToken.ahead words).fits kind wanted = false) :
    Moves (nextIs kind wanted) words (false = ·) words := by
  have moves : Moves (nextIs kind wanted >>= pure) words (false = ·) words := .passed other (.pure rfl)
  rwa [bind_pure] at moves

theorem moves_peekedIs (found : Bool) (fit : (BareToken.ahead words).fits kind wanted = found) :
    Moves (peekedIs kind wanted) words (found = ·) words := by
  have moves : Moves (peekedIs kind wanted >>= pure) words (found = ·) words := .seen found fit (.pure rfl)
  rwa [bind_pure] at moves

theorem moves_peek : Moves peek words (fun token => token.bare = BareToken.ahead words) words := by
  have moves : Moves (peek >>= pure) words (fun token => token.bare = BareToken.ahead words) words :=
    .looked fun _ same => .pure same
  rwa [bind_pure] at moves

theorem moves_lastDocs : Moves (lastDocs true) words ("" = ·) words := by
  have moves : Moves (lastDocs true >>= pure) words ("" = ·) words := .lastDocs (.pure rfl)
  rwa [bind_pure] at moves

/-! ### Types and bounds -/

theorem Wording.moves {action : Reading α} {value : α} (wording : Wording action value words)
    (follows : Follows rest Eq action action) (keeps : Keeps (fun token => token.kind ≠ .comment) action) :
    Moves action (words ++ rest) (value = ·) rest := by
  intro stream shows_
  obtain ⟨text, left, written, read, done⟩ := wording
  have own := written.shows
  have alike : Alike rest (TokenStream.ofText text) stream := by
    refine ⟨own.clean, shows_.clean, ?_, ?_, .inr ⟨own.plain, shows_.plain⟩⟩
    · rw [own.words, shows_.words]
    · rw [own.docs, shows_.docs]
  have step := follows _ _ alike value left read
  cases run : action stream with
  | ok found behind =>
    rw [run] at step
    obtain ⟨same, alike⟩ := step
    have plain := (keeps _ _ _ ⟨shows_.plain, .inl shows_.docs⟩ run).1
    refine ⟨same, alike.right, plain.token, plain.docs.resolve_right ?_, ?_⟩
    · rintro ⟨token, own, comment, -⟩
      exact own comment
    · rw [alike.words, done, List.nil_append]
  | error fault behind => rwa [run] at step

theorem moves_type {type : TypeExpr} (wording : Wording TypeExpr.parse type words) (stops : Stops rest) :
    Moves TypeExpr.parse (words ++ rest) (type = ·) rest :=
  wording.moves (follows_type stops) (keeps_type fun _ same => by cases same)

theorem moves_bounds {bounds : List TypeExpr} (wording : Wording TypeExpr.parseBounds bounds words)
    (stops : Stops rest) : Moves TypeExpr.parseBounds (words ++ rest) (bounds = ·) rest :=
  wording.moves (follows_bounds stops) (keeps_bounds fun _ same => by cases same)

theorem moves_lifetime (duration : Lifetime) :
    Moves TypeExpr.Parser.lifetime (.lifetime duration :: rest) (duration = ·) rest := by
  refine .ensured rfl ?_
  rw [BareToken.lifetime, Lifetime.ofMarked?_render]
  exact .pure rfl

/-! ### First words -/

theorem BareToken.fits_eq_false (other : word.kind ≠ kind) : word.fits kind wanted = false := by
  simp [fits, other]

def BareToken.StartsIn (kinds : List TokenKind) (words : List BareToken) : Prop :=
  ∃ first more, words = first :: more ∧ first.kind ∈ kinds

namespace BareToken.StartsIn

variable {kinds wider : List TokenKind}

theorem append (starts : StartsIn kinds words) : StartsIn kinds (words ++ rest) := by
  obtain ⟨first, more, rfl, own⟩ := starts
  exact ⟨first, more ++ rest, rfl, own⟩

theorem mono (starts : StartsIn kinds words) (wide : kinds ⊆ wider) : StartsIn wider words := by
  obtain ⟨first, more, same, own⟩ := starts
  exact ⟨first, more, same, wide own⟩

theorem ne_nil (starts : StartsIn kinds words) : words ≠ [] := by
  obtain ⟨first, more, rfl, -⟩ := starts
  exact List.cons_ne_nil _ _

theorem kind_ahead (starts : StartsIn kinds words) : (ahead words).kind ∈ kinds := by
  obtain ⟨first, more, rfl, own⟩ := starts
  exact own

theorem ahead_ne (starts : StartsIn kinds words) (other : kind ∉ kinds) : (ahead words).kind ≠ kind := by
  intro same
  rw [← same] at other
  exact other starts.kind_ahead

theorem fits_eq_false (starts : StartsIn kinds words) (other : kind ∉ kinds) :
    (ahead words).fits kind wanted = false :=
  BareToken.fits_eq_false (starts.ahead_ne other)

theorem stops (starts : StartsIn kinds words)
    (ending : ∀ kind ∈ kinds, kind.IsSolid ∧ kind ∉ TokenKind.extending) : Stops words := by
  obtain ⟨first, more, rfl, own⟩ := starts
  intro word member
  cases member
  exact ending _ own

end BareToken.StartsIn

theorem startsIn_symbol (kind : TokenKind) : BareToken.StartsIn [kind] (.symbol kind :: rest) :=
  ⟨_, _, rfl, by simp [BareToken.symbol]⟩

theorem startsIn_name (name : String) : BareToken.StartsIn [.identifier] (.name name :: rest) :=
  ⟨_, _, rfl, by simp [BareToken.name]⟩

def TokenKind.typeStarts : List TokenKind := [openParen, openSquare, ampersand, star, bang, lessThan, identifier]

theorem Wording.startsIn {type : TypeExpr} (wording : Wording TypeExpr.parse type words) :
    BareToken.StartsIn TokenKind.typeStarts words := by
  obtain ⟨text, left, written, read, -⟩ := wording
  obtain ⟨token, shown, same⟩ := written.shows.front?
  have start : token.kind ∈ TokenKind.typeStarts := by
    change TypeExpr.Parser.type (8 * (_ + 1) + 7 + 1) _ = _ at read
    rw [TypeExpr.Parser.type, bind_apply, current_eq_ok_iff.mpr ⟨by rw [written.shows.skipped, shown], rfl⟩] at read
    cases kind : token.kind
    all_goals
      first
        | decide
        | simp only [kind] at read
          cases read
  cases words with
  | nil =>
    have kind : token.kind = .endOfInput := congrArg BareToken.kind same
    rw [kind] at start
    exact absurd start (by decide)
  | cons first more =>
    have kind : token.kind = first.kind := congrArg BareToken.kind same
    exact ⟨first, more, rfl, by rw [← kind]; exact start⟩

end

/-! ### Parameters -/

theorem publicName_eq {role name : String} {isMember : Bool} (shown : PublicName isMember name) :
    publicName role name isMember = .ok name := by
  have free : nameProblem? role name isMember = none := by
    unfold nameProblem?
    rw [if_neg shown.shown, if_neg shown.free, if_neg]
    simpa using shown.unreserved
  rw [publicName, free]

theorem Parameter.Written.startsIn {parameter : Parameter} (written : parameter.Written words) :
    BareToken.StartsIn [.identifier, .lifetime] words := by
  cases written <;> exact ⟨_, _, rfl, by simp [BareToken.name, BareToken.lifetime]⟩

namespace Declaration.Parser

theorem moves_introduced {role name : String} {isMember : Bool} (shown : PublicName isMember name) :
    Moves (introduced role isMember) (.name name :: rest) (name = ·) rest := by
  refine .ensured rfl ?_
  rw [show (BareToken.name name).value = name from rfl, publicName_eq shown]
  exact .pure rfl

theorem moves_ensureDistinct {names : List String} (distinct : names.Nodup) (problem : String → DeclarationProblem) :
    Moves (ensureDistinct names problem) words (() = ·) words := by
  unfold ensureDistinct
  rw [(firstRepeated?_eq_none [] names).mpr ⟨distinct, by simp⟩]
  exact .pure rfl

theorem moves_parameterBounds {bounds : List TypeExpr} (wording : Wording TypeExpr.parseBounds bounds words)
    (stops : Stops rest) : Moves parameterBounds (.symbol .colon :: (words ++ rest)) (bounds = ·) rest :=
  .taken rfl (moves_bounds wording stops)

theorem moves_noBounds (other : (BareToken.ahead words).kind ≠ .colon) :
    Moves parameterBounds words ([] = ·) words :=
  .passed (BareToken.fits_eq_false other) (.pure rfl)

theorem moves_parameter {parameter : Parameter} (written : parameter.Written words)
    (named : parameter.WellNamed fun _ => True) (free : ∀ bounds, parameter ≠ .type "const" bounds)
    (ends : BareToken.StartsIn [.comma, .greaterThan] rest) :
    Moves Parser.parameter (words ++ rest) (parameter = ·) rest := by
  have stops : Stops rest := ends.stops (by decide)
  have other : (BareToken.ahead rest).kind ≠ .colon := ends.ahead_ne (by decide)
  cases written with
  | type name =>
    have different : BareToken.name name ≠ .name "const" := fun same => free [] (by cases same; rfl)
    refine .seen false rfl (.passed (BareToken.fits_name_of_ne different) ?_)
    exact (moves_introduced named.1).after ((moves_noBounds other).after (.pure rfl))
  | boundedType name right =>
    have different : BareToken.name name ≠ .name "const" := fun same => free _ (by cases same; rfl)
    refine .seen false rfl (.passed (BareToken.fits_name_of_ne different) ?_)
    exact (moves_introduced named.1).after ((moves_parameterBounds right stops).after (.pure rfl))
  | lifetime duration =>
    refine .seen true rfl ((moves_lifetime duration).after ?_)
    exact (moves_noBounds other).after (.pure rfl)
  | boundedLifetime duration right =>
    refine .seen true rfl ((moves_lifetime duration).after ?_)
    exact (moves_parameterBounds right stops).after (.pure rfl)
  | constant name right =>
    refine .seen false rfl (.taken rfl (.ensured rfl (.ensured rfl ?_)))
    exact (moves_type right stops).after (.pure rfl)

theorem moves_parameters {parameters : List Parameter} (written : Listed Parameter.Written parameters words)
    (named : ∀ parameter ∈ parameters, parameter.WellNamed fun _ => True)
    (free : ∀ parameter ∈ parameters, ∀ bounds, parameter ≠ .type "const" bounds) (steps : Nat) :
    Moves (Parser.parameters steps) (words ++ .symbol .greaterThan :: rest) (parameters = ·) rest := by
  induction written generalizing steps with
  | nil =>
    cases steps with
    | zero => exact .dry
    | succ steps => exact .taken rfl (.pure rfl)
  | last one =>
    cases steps with
    | zero => exact .dry
    | succ steps =>
      refine .passed (one.startsIn.append.fits_eq_false (by decide)) ?_
      refine (moves_parameter one (named _ (by simp)) (free _ (by simp)) ((startsIn_symbol _).mono (by simp))).after ?_
      exact .passed rfl (.ensured rfl (.pure rfl))
  | cons one later ih =>
    cases steps with
    | zero => exact .dry
    | succ steps =>
      rw [List.append_assoc]
      refine .passed (one.startsIn.append.fits_eq_false (by decide)) ?_
      refine (moves_parameter one (named _ (by simp)) (free _ (by simp)) ((startsIn_symbol _).mono (by simp))).after ?_
      refine .taken rfl ((ih (fun parameter member => ?_) (fun parameter member => ?_) steps).after (.pure rfl))
      · exact named parameter (by simp [member])
      · exact free parameter (by simp [member])

theorem moves_generics {parameters : List Parameter} (written : Parameter.WrittenAll parameters words)
    (named : ∀ parameter ∈ parameters, parameter.WellNamed fun _ => True)
    (free : ∀ parameter ∈ parameters, ∀ bounds, parameter ≠ .type "const" bounds)
    (distinct : (parameters.map Parameter.name).Nodup) (other : (BareToken.ahead rest).kind ≠ .lessThan) :
    Moves generics (words ++ rest) (parameters = ·) rest := by
  cases written with
  | none => exact .passed (BareToken.fits_eq_false other) (.pure rfl)
  | listed all =>
    rw [List.cons_append, List.append_assoc]
    refine .taken rfl (.get fun stream => (moves_parameters all named free _).after ?_)
    exact (moves_ensureDistinct distinct _).after (.pure rfl)

end Declaration.Parser

/-! ### Annotations -/

namespace Annotation

variable {attribution : Attribution}

theorem moves_orOnSource {α : Type} {action other : Reading α} {start finish : List BareToken} {good : α → Prop}
    (moves : Moves action start good finish) : Moves (orOnSource action other) start good finish := by
  intro stream shows_
  have came := moves stream shows_
  unfold orOnSource
  cases run : action stream with
  | ok value left => rwa [run] at came
  | error fault left =>
    rw [run] at came
    have dry : fault = .outOfSteps := came
    rw [dry]
    exact rfl

theorem wording_tag (strategy : Strategy) : Wording TypeExpr.parse (.named strategy.tag) [.name strategy.tag] := by
  have lexes : Lexes strategy.tag [⟨.identifier, strategy.tag, ⟨0, 1, 1⟩⟩] := by
    refine ⟨⟨strategy.tag.length, 1, strategy.tag.length + 1⟩, ?_⟩
    cases strategy <;> decide +kernel
  refine ⟨strategy.tag, ⟨[], .finished ⟨strategy.tag.length, 1, strategy.tag.length + 1⟩, ""⟩, ?_, ?_, rfl⟩
  · exact ⟨_, lexes, rfl, by simp [BareToken.name]⟩
  · cases strategy <;> rfl

/-- The left side of an item is read up to the colon, the comma or the parenthesis behind it. -/
theorem moves_subject {subject : TypeExpr} (wording : Wording TypeExpr.parse subject words)
    (ends : BareToken.StartsIn [.colon, .comma, .closeParen] rest) :
    Moves Annotation.subject (words ++ rest) (subject = ·) rest := by
  refine .seen false (wording.startsIn.append.fits_eq_false (by decide)) ?_
  exact moves_type wording (ends.stops (by decide))

theorem moves_lifetimeSubject (duration : Lifetime) :
    Moves Annotation.subject (.lifetime duration :: rest) (TypeExpr.lifetime duration = ·) rest :=
  .seen true rfl ((moves_lifetime duration).after (.pure rfl))

def adding (mark : Annotation) : Item → Annotation
  | .strategy strategy => { mark with strategy := some strategy.tag }
  | .clause clause => { mark with clauses := mark.clauses ++ [clause] }

theorem Item.Written.startsIn {item : Item} (written : item.Written words) :
    BareToken.StartsIn (.lifetime :: TokenKind.typeStarts) words := by
  cases written with
  | strategy strategy => exact (startsIn_name _).mono (by decide)
  | typeClause left right => exact left.startsIn.append.mono (by decide)
  | lifetimeClause duration right => exact ⟨_, _, rfl, by simp [BareToken.lifetime]⟩

theorem moves_item {entry : Item} (written : entry.Written words) {mark : Annotation} {isFirst : Bool} (token : Token)
    (first : ∀ strategy, entry = .strategy strategy → isFirst = true)
    (ends : BareToken.StartsIn [.comma, .closeParen] rest) :
    Moves (item attribution mark isFirst token) (words ++ rest) (mark.adding entry = ·) rest := by
  cases written with
  | strategy strategy =>
    refine (moves_orOnSource (moves_subject (wording_tag strategy) (ends.mono (by decide)))).after ?_
    refine .passed (ends.fits_eq_false (by decide)) ?_
    rw [first strategy rfl]
    exact .pure rfl
  | typeClause left right =>
    rw [List.append_assoc]
    refine (moves_orOnSource (moves_subject left ((startsIn_symbol _).mono (by decide)))).after (.taken rfl ?_)
    exact (moves_orOnSource (moves_bounds right (ends.stops (by decide)))).after (.pure rfl)
  | lifetimeClause duration right =>
    refine (moves_orOnSource (moves_lifetimeSubject duration)).after (.taken rfl ?_)
    exact (moves_orOnSource (moves_bounds right (ends.stops (by decide)))).after (.pure rfl)

theorem moves_round {item : Item} (one : item.Written words) {mark : Annotation} {isFirst : Bool} {steps : Nat}
    {good : Annotation → Prop} {finish : List BareToken} (first : ∀ strategy, item = .strategy strategy → isFirst = true)
    (ends : BareToken.StartsIn [.comma, .closeParen] rest)
    (further : Moves (do
      if ← nextIs .comma then
        items attribution steps (mark.adding item) false
      else if ← nextIs .closeParen then
        return mark.adding item
      else
        failHere attribution .separatorExpected) rest good finish) :
    Moves (items attribution (steps + 1) mark isFirst) (words ++ rest) good finish := by
  have starts : BareToken.StartsIn (.lifetime :: TokenKind.typeStarts) (words ++ rest) := one.startsIn.append
  refine .passed (starts.fits_eq_false (by decide)) (.looked fun token same => ?_)
  have kind : token.kind = (BareToken.ahead (words ++ rest)).kind := congrArg BareToken.kind same
  have more : token.kind ≠ .endOfInput := by
    rw [kind]
    exact starts.ahead_ne (by decide)
  rw [if_neg more]
  exact (moves_item one token first ends).after further

theorem moves_items {listed : List Item} (written : Listed Item.Written listed words) (mark : Annotation)
    (isFirst : Bool) (first : ∀ strategy, .strategy strategy ∈ listed.head? → isFirst = true)
    (later : ∀ strategy, .strategy strategy ∉ listed.tail) (steps : Nat) :
    Moves (items attribution steps mark isFirst) (words ++ .symbol .closeParen :: rest)
      (listed.foldl adding mark = ·) rest := by
  induction written generalizing steps mark isFirst with
  | nil =>
    cases steps with
    | zero => exact .dry
    | succ steps => exact .taken rfl (.pure rfl)
  | last one =>
    cases steps with
    | zero => exact .dry
    | succ steps =>
      refine moves_round one (fun strategy same => first strategy (by rw [same]; rfl)) ?_ ?_
      · exact (startsIn_symbol _).mono (by decide)
      · exact .passed rfl (.taken rfl (.pure rfl))
  | cons one _ ih =>
    cases steps with
    | zero => exact .dry
    | succ steps =>
      rw [List.append_assoc]
      refine moves_round one (fun strategy same => first strategy (by rw [same]; rfl)) ?_ (.taken rfl ?_)
      · exact (startsIn_symbol _).mono (by decide)
      · refine ih _ false (fun strategy member => ?_) (fun strategy member => ?_) steps
        · exact absurd (List.mem_of_mem_head? member) (later strategy)
        · exact later strategy (List.mem_of_mem_tail member)

theorem foldl_itemsOf (strategy : Option Strategy) (clauses : List String) (position : Position) :
    (itemsOf strategy clauses).foldl adding ⟨none, [], position⟩ = ⟨strategy.map Strategy.tag, clauses, position⟩ := by
  have all (mark : Annotation) : (clauses.map Item.clause).foldl adding mark =
      { mark with clauses := mark.clauses ++ clauses } := by
    induction clauses generalizing mark with
    | nil => simp
    | cons clause rest ih => simp [ih, adding]
  cases strategy with
  | none => simp [itemsOf, all]
  | some strategy => simp [itemsOf, all, adding]

def Tells (strategy : Option Strategy) (clauses : List String) (found : Option Annotation) : Prop :=
  found.bind (·.strategy) = strategy.map Strategy.tag ∧ (found.map (·.clauses)).getD [] = clauses

/-- One annotation is read, if the parenthesis of a type is not taken for its own. -/
theorem moves_parse {strategy : Option Strategy} {clauses : List String} (written : Written strategy clauses words)
    (shown : words ≠ []) (apart : words = bareWords → (BareToken.ahead rest).kind ≠ .openParen) :
    Moves (parse attribution) (words ++ rest)
      (fun found => found.strategy = strategy.map Strategy.tag ∧ found.clauses = clauses) rest := by
  have known : ¬ (BareToken.name keyword).value ≠ keyword := by simp [BareToken.name]
  cases written with
  | omitted => exact absurd rfl shown
  | bare =>
    refine .moved fun token _ => .seen true rfl (.ensured rfl ?_)
    rw [if_neg known]
    exact .passed (BareToken.fits_eq_false (apart rfl)) (.pure ⟨rfl, rfl⟩)
  | listed all =>
    rw [List.append_assoc, List.cons_append, List.append_assoc]
    refine .moved fun token _ => .seen true rfl (.ensured rfl ?_)
    rw [if_neg known]
    refine .taken rfl (.get fun stream => ?_)
    refine (moves_items all ⟨none, [], token.position⟩ true (fun _ _ => rfl) (fun other member => ?_) _).mono ?_
    · cases strategy <;> simp [itemsOf] at member
      exact absurd (List.mem_of_mem_tail member) (by simp)
    · intro found same
      rw [← same, foldl_itemsOf]
      exact ⟨rfl, rfl⟩

theorem moves_parseAll {strategy : Option Strategy} {clauses : List String} (written : Written strategy clauses words)
    (other : (BareToken.ahead rest).kind ≠ .atSign)
    (apart : words = bareWords → (BareToken.ahead rest).kind ≠ .openParen) :
    Moves (parseAll attribution) (words ++ rest) (Tells strategy clauses) rest := by
  have done {steps : Nat} {found : Option Annotation} (told : Tells strategy clauses found) :
      Moves (parseAllFrom attribution steps found) rest (Tells strategy clauses) rest := by
    cases steps with
    | zero => exact .dry
    | succ steps => exact .seen false (BareToken.fits_eq_false other) (.pure told)
  refine .get fun stream => ?_
  by_cases shown : words = []
  · subst shown
    cases written with
    | omitted => exact done ⟨rfl, rfl⟩
  · have starts : BareToken.StartsIn [.atSign] (words ++ rest) := by
      cases written with
      | omitted => exact absurd rfl shown
      | bare | listed => exact startsIn_symbol _
    have sign : (BareToken.ahead (words ++ rest)).fits .atSign none = true := by
      simpa [BareToken.fits] using starts.kind_ahead
    refine .seen true sign (.looked fun token _ => (moves_parse written shown apart).bind fun mark told => ?_)
    rw [if_neg (by simp)]
    exact done ⟨told.1, told.2⟩

end Annotation

/-! ### Fields and variants -/

open Annotation (moves_parseAll)

/-- Looking ahead changes no words. -/
theorem moves_lookaheadFieldName : Moves lookaheadFieldName words (fun _ => True) words := by
  intro stream shows_
  rcases lookaheadFieldName_cases shows_.clean with ⟨name, ends, known, run⟩ | ⟨left, run⟩
  · rw [run]
    refine ⟨trivial, shows_.clean.extended known, shows_.plain.extended known, shows_.docs, ?_⟩
    rw [words_extended _ known, shows_.words]
  · rw [run]
    exact rfl

theorem Annotation.Written.startsIn {strategy : Option Strategy} {clauses : List String} {mark : List BareToken}
    (written : Annotation.Written strategy clauses mark) {kinds : List TokenKind}
    (starts : BareToken.StartsIn kinds words) : BareToken.StartsIn (.atSign :: kinds) (mark ++ words) := by
  cases written with
  | omitted => exact starts.mono (by simp)
  | bare | listed => exact (startsIn_symbol _).mono (by simp)

theorem Field.WrittenNamed.startsIn {field : Field} (written : field.WrittenNamed words) :
    BareToken.StartsIn [.atSign, .identifier] words := by
  obtain ⟨name, mark, type, ⟨strategy, marked, -⟩, -, -, rfl⟩ := written
  exact marked.startsIn (startsIn_name _)

theorem Field.WrittenTuple.startsIn {apart : Prop} {field : Field} (written : field.WrittenTuple apart words) :
    BareToken.StartsIn (.atSign :: TokenKind.typeStarts) words := by
  obtain ⟨mark, type, ⟨strategy, marked, -⟩, -, wording, -, rfl⟩ := written
  exact marked.startsIn wording.startsIn

theorem Variant.Written.startsIn {apart : Prop} {variant : Variant} (written : variant.Written apart words) :
    BareToken.StartsIn [.identifier] words := by
  obtain ⟨list, body, -, -, -, rfl⟩ := written
  exact startsIn_name _

theorem Series.startsIn {α : Type} {item : α → List BareToken → Prop} {values : List α} {kinds : List TokenKind}
    (written : Series item values words) (each : ∀ value words, item value words → BareToken.StartsIn kinds words)
    (closer : TokenKind) : BareToken.StartsIn (closer :: kinds) (words ++ .symbol closer :: rest) := by
  cases written with
  | nil => exact (startsIn_symbol _).mono (by simp)
  | next one later => exact (each _ _ one).append.append.mono (by simp)
  | parted one later => exact (each _ _ one).append.append.mono (by simp)

def BareToken.Unbracketed (words : List BareToken) : Prop :=
  (ahead words).kind ∉ [TokenKind.openBrace, .openParen]

theorem BareToken.Unbracketed.of_mem {kinds : List TokenKind} (member : (ahead words).kind ∈ kinds)
    (other : ∀ kind ∈ kinds, kind ∉ [TokenKind.openBrace, .openParen]) : Unbracketed words :=
  other _ member

namespace Declaration.Parser

theorem moves_field {owner : String} {field : Field} {strategy : Option Strategy} {found : Option Annotation}
    (told : Annotation.Tells strategy field.clauses found) (own : field.strategy = strategy.getD .regular)
    (docs : field.docs = "") :
    Moves (Parser.field owner field.name field.index field.type found "") words (field = ·) words := by
  have tag : Strategy.ofTag? ((found.bind (·.strategy)).getD Strategy.regular.tag) = some field.strategy := by
    rw [told.1, own]
    cases strategy with
    | none => rfl
    | some strategy => exact Strategy.ofTag?_tag strategy
  unfold Parser.field
  dsimp only
  rw [tag]
  refine .pure ?_
  rw [told.2, ← docs]

theorem moves_namedField {owner : String} {field : Field} (written : field.WrittenNamed words)
    (named : ∀ name, field.name = some name → PublicName true name) (stops : Stops rest) :
    Moves (namedField owner field.index) (words ++ rest) (field = ·) rest := by
  obtain ⟨name, mark, type, ⟨strategy, marked, own, docs⟩, known, wording, rfl⟩ := written
  rw [List.append_assoc]
  have remaining (label : Option String) : Moves (do
      let docsBefore ← lastDocs
      let mark ← Annotation.parseAll ⟨some owner, label⟩
      let docsAfter ← lastDocs
      let docs := if docsAfter.isEmpty then docsBefore else docsAfter
      let name ← introduced "field" true
      let _ ← ensure .colon
      Parser.field owner (some name) field.index (← TypeExpr.parse) mark docs)
      (mark ++ (.name name :: .symbol .colon :: type ++ rest)) (field = ·) rest := by
    refine .lastDocs ((moves_parseAll marked ?_ fun _ => ?_).bind fun found told => .lastDocs ?_)
    · exact (startsIn_name _).ahead_ne (by decide)
    · exact (startsIn_name _).ahead_ne (by decide)
    · refine (moves_introduced (named name known)).after (.ensured rfl ((moves_type wording stops).after ?_))
      rw [← known]
      exact moves_field told own docs
  by_cases sign : (BareToken.ahead (mark ++ (.name name :: .symbol .colon :: type ++ rest))).fits .atSign none = true
  · exact .seen true sign (moves_lookaheadFieldName.bind fun label _ => remaining label)
  · exact .seen false (by simpa using sign) (remaining none)

theorem moves_tupleField {owner : String} {field : Field} (written : field.WrittenTuple True words)
    (stops : Stops rest) : Moves (tupleField owner field.index) (words ++ rest) (field = ·) rest := by
  obtain ⟨mark, type, ⟨strategy, marked, own, docs⟩, known, wording, apart, rfl⟩ := written
  rw [List.append_assoc]
  have remaining : Moves (do
      let docs ← lastDocs
      let mark ← Annotation.parseAll ⟨some owner, some (toString field.index)⟩
      Parser.field owner none field.index (← TypeExpr.parse) mark docs) (mark ++ (type ++ rest)) (field = ·) rest := by
    refine .lastDocs ((moves_parseAll marked ?_ fun bare => ?_).bind fun found told => ?_)
    · exact wording.startsIn.append.ahead_ne (by decide)
    · rw [BareToken.ahead_append wording.startsIn.ne_nil]
      exact apart trivial bare
    · refine (moves_type wording stops).after ?_
      rw [← known]
      exact moves_field told own docs
  exact .seen _ rfl remaining

/-- Named fields are read up to the brace. What follows a field never continues its type. -/
theorem moves_namedFields {owner : String} {fields : List Field} (written : Series Field.WrittenNamed fields words)
    (named : ∀ field ∈ fields, ∀ name, field.name = some name → PublicName true name) (steps index : Nat)
    (counted : fields.map (·.index) = List.range' index fields.length) :
    Moves (namedFields owner steps index) (words ++ .symbol .closeBrace :: rest) (fields = ·) rest := by
  have startsIn {fields : List Field} {words : List BareToken} (written : Series Field.WrittenNamed fields words) :
      BareToken.StartsIn [.closeBrace, .atSign, .identifier] (words ++ .symbol .closeBrace :: rest) :=
    written.startsIn (fun _ _ => Field.WrittenNamed.startsIn) .closeBrace
  induction written generalizing steps index with
  | nil =>
    cases steps with
    | zero => exact .dry
    | succ steps => exact .taken rfl (.pure rfl)
  | next one later ih =>
    cases steps with
    | zero => exact .dry
    | succ steps =>
      obtain ⟨rfl, behind⟩ := List.cons.inj counted
      rw [List.append_assoc]
      refine .passed (one.startsIn.append.fits_eq_false (by decide)) ?_
      refine (moves_namedField one (named _ (by simp)) ((startsIn later).stops (by decide))).after ?_
      refine .passed ((startsIn later).fits_eq_false (by decide)) ?_
      exact (ih (fun field member => named field (by simp [member])) steps _ behind).after (.pure rfl)
  | parted one later ih =>
    cases steps with
    | zero => exact .dry
    | succ steps =>
      obtain ⟨rfl, behind⟩ := List.cons.inj counted
      rw [List.append_assoc]
      refine .passed (one.startsIn.append.fits_eq_false (by decide)) ?_
      refine (moves_namedField one (named _ (by simp)) ((startsIn_symbol _).stops (by decide))).after (.taken rfl ?_)
      exact (ih (fun field member => named field (by simp [member])) steps _ behind).after (.pure rfl)

theorem moves_tupleFields {owner : String} {fields : List Field}
    (written : Listed (Field.WrittenTuple True) fields words) (steps index : Nat)
    (counted : fields.map (·.index) = List.range' index fields.length) :
    Moves (tupleFields owner steps index) (words ++ .symbol .closeParen :: rest) (fields = ·) rest := by
  induction written generalizing steps index with
  | nil =>
    cases steps with
    | zero => exact .dry
    | succ steps => exact .taken rfl (.pure rfl)
  | last one =>
    cases steps with
    | zero => exact .dry
    | succ steps =>
      obtain ⟨rfl, -⟩ := List.cons.inj counted
      refine .passed (one.startsIn.append.fits_eq_false (by decide)) ?_
      refine (moves_tupleField one ((startsIn_symbol _).stops (by decide))).after ?_
      exact .passed rfl (.ensured rfl (.pure rfl))
  | cons one later ih =>
    cases steps with
    | zero => exact .dry
    | succ steps =>
      obtain ⟨rfl, behind⟩ := List.cons.inj counted
      rw [List.append_assoc]
      refine .passed (one.startsIn.append.fits_eq_false (by decide)) ?_
      refine (moves_tupleField one ((startsIn_symbol _).stops (by decide))).after (.taken rfl ?_)
      exact (ih steps _ behind).after (.pure rfl)

theorem moves_fieldList {owner : String} {list : FieldList} (written : list.Written True words)
    (named : list.WellNamed fun _ => True) (ends : BareToken.Unbracketed rest) :
    Moves (fieldList owner) (words ++ rest) (list = ·) rest := by
  have counted := named.counted
  rw [List.range_eq_range'] at counted
  cases written with
  | @named fields _ all =>
    obtain ⟨shown, distinct⟩ := named.named
    have introduced (field : Field) (member : field ∈ fields) (name : String) (own : field.name = some name) :
        PublicName true name := by
      obtain ⟨other, same, shown, -⟩ := shown field member
      cases same.symm.trans own
      exact shown
    rw [List.cons_append, List.append_assoc]
    refine .taken rfl (.get fun stream => (moves_namedFields all introduced _ 0 counted).after ?_)
    exact (moves_ensureDistinct distinct _).after (.pure rfl)
  | tuple all =>
    rw [List.cons_append, List.append_assoc]
    refine .passed rfl (.taken rfl (.get fun stream => ?_))
    exact (moves_tupleFields all _ 0 counted).after (.pure rfl)
  | unit =>
    have brace : (BareToken.ahead rest).kind ≠ .openBrace := fun same => ends (by simp [same])
    have paren : (BareToken.ahead rest).kind ≠ .openParen := fun same => ends (by simp [same])
    exact .passed (BareToken.fits_eq_false brace) (.passed (BareToken.fits_eq_false paren) (.pure rfl))

theorem wellNamed_of_ofVariant {list : FieldList}
    (named : list.ofVariant.WellNamed fun _ => True) : list.WellNamed fun _ => True := by
  unfold FieldList.ofVariant at named
  split at named
  next empty =>
    obtain ⟨fields, style⟩ := list
    obtain rfl : fields = [] := by simpa using empty
    refine ⟨rfl, ?_⟩
    cases style <;> simp
  · exact named

theorem moves_variant {owner : String} {variant : Variant} (written : variant.Written True words)
    (named : variant.WellNamed fun _ => True) (ends : BareToken.Unbracketed rest) :
    Moves (Parser.variant owner) (words ++ rest) (variant = ·) rest := by
  obtain ⟨list, body, written, same, docs, rfl⟩ := written
  have fields : list.WellNamed fun _ => True := by
    apply wellNamed_of_ofVariant
    rw [← same]
    exact named.fields
  refine .seen true rfl (.lastDocs ((moves_introduced named.shown).after ?_))
  refine (moves_fieldList written fields ends).after (.pure ?_)
  rw [← same, ← docs]

theorem moves_variants {owner : String} {variants : List Variant} (written : Series (Variant.Written True) variants words)
    (named : ∀ variant ∈ variants, variant.WellNamed fun _ => True) (steps : Nat) :
    Moves (Parser.variants owner steps) (words ++ .symbol .closeBrace :: rest) (variants = ·) rest := by
  have startsIn {variants : List Variant} {words : List BareToken} (written : Series (Variant.Written True) variants words) :
      BareToken.StartsIn [.closeBrace, .identifier] (words ++ .symbol .closeBrace :: rest) :=
    written.startsIn (fun _ _ => Variant.Written.startsIn) .closeBrace
  induction written generalizing steps with
  | nil =>
    cases steps with
    | zero => exact .dry
    | succ steps => exact .taken rfl (.pure rfl)
  | next one later ih =>
    cases steps with
    | zero => exact .dry
    | succ steps =>
      rw [List.append_assoc]
      refine .passed (one.startsIn.append.fits_eq_false (by decide)) ?_
      refine (moves_variant one (named _ (by simp)) (.of_mem (startsIn later).kind_ahead (by decide))).after ?_
      refine .passed ((startsIn later).fits_eq_false (by decide)) ?_
      exact (ih (fun variant member => named variant (by simp [member])) steps).after (.pure rfl)
  | parted one later ih =>
    cases steps with
    | zero => exact .dry
    | succ steps =>
      rw [List.append_assoc]
      refine .passed (one.startsIn.append.fits_eq_false (by decide)) ?_
      refine (moves_variant one (named _ (by simp)) (.of_mem (startsIn_symbol _).kind_ahead (by decide))).after ?_
      exact .taken rfl ((ih (fun variant member => named variant (by simp [member])) steps).after (.pure rfl))

theorem moves_union {owner : String} {variants : List Variant} (written : Series (Variant.Written True) variants words)
    (named : ∀ variant ∈ variants, variant.WellNamed fun _ => True) (distinct : (variants.map (·.name)).Nodup) :
    Moves (union owner) (.symbol .openBrace :: (words ++ .symbol .closeBrace :: rest)) (variants = ·) rest := by
  refine .ensured rfl (.get fun stream => (moves_variants written named _).after ?_)
  exact (moves_ensureDistinct distinct _).after (.pure rfl)

theorem moves_consume (count : Nat) (other : (BareToken.ahead rest).kind ≠ kind) :
    Moves (consume kind) (List.replicate count (.symbol kind) ++ rest) (() = ·) rest := by
  have within (steps : Nat) :
      Moves (consumeWithin kind steps) (List.replicate count (.symbol kind) ++ rest) (() = ·) rest := by
    induction steps generalizing count with
    | zero => exact .dry
    | succ steps ih =>
      cases count with
      | zero => exact .passed (BareToken.fits_eq_false other) (.pure rfl)
      | succ count => exact .taken (by simp [BareToken.fits, BareToken.symbol]) (ih count)
  exact .get fun stream => within _

theorem moves_qualifiedName (first : String) (parts : List String) (other : (BareToken.ahead rest).kind ≠ .dot) :
    Moves (TokenStream.qualifiedName .dot)
      (.name first :: (parts.flatMap fun part => [.symbol .dot, .name part]) ++ rest)
      (Text.join "." (first :: parts) = ·) rest := by
  have further (steps : Nat) (name : String) : Moves (qualifiedNameFrom .dot steps name)
      ((parts.flatMap fun part => [.symbol .dot, .name part]) ++ rest) (Text.join "." (name :: parts) = ·) rest := by
    induction parts generalizing steps name with
    | nil =>
      cases steps with
      | zero => exact .dry
      | succ steps => exact .passed (BareToken.fits_eq_false other) (.pure rfl)
    | cons part parts ih =>
      cases steps with
      | zero => exact .dry
      | succ steps =>
        have joined : Text.join "." ((name ++ "." ++ part) :: parts) = Text.join "." (name :: part :: parts) := by
          cases parts with
          | nil => rfl
          | cons second parts => simp [Text.join, String.append_assoc]
        have later := ih steps (name ++ "." ++ part)
        rw [joined] at later
        exact .taken rfl (.ensured rfl later)
  exact .ensured rfl (.get fun stream => further _ _)

end Declaration.Parser

end CowView
