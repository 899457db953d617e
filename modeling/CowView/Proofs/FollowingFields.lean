import CowView.Declaration.Parser
import CowView.Proofs.FollowingTypes
import CowView.Proofs.Naming

/-!
Declarations that are read twice, off streams with the same words. Two things can differ between the runs:
the places of tokens, and the label that is looked up ahead of a field with annotations, since comments are
looked at there. Both only show up in faults.
-/

namespace CowView

open TokenStream

variable {kind : TokenKind} {wanted : Option String} {α : Type}

/-! ### Tests -/

theorem Alike.shown {first second : TokenStream} (alike : Alike [] first second) : ∃ front front',
    first.skipped.front? = some front ∧ second.skipped.front? = some front' ∧ front.bare = front'.bare := by
  obtain ⟨front, front', shown, shown', -, -, same⟩ := alike.front? stops_nil
  refine ⟨front, front', shown, shown', same.resolve_right ?_⟩
  rintro ⟨-, -, word, member, -⟩
  cases member

theorem follows_peekedIs : Follows [] Eq (peekedIs kind wanted) (peekedIs kind wanted) := by
  intro first second alike value left read
  obtain ⟨front, front', shown, shown', same⟩ := alike.shown
  rw [peekedIs_eq_ok_iff.mpr ⟨front, shown, rfl, rfl⟩] at read
  rw [peekedIs_eq_ok_iff.mpr ⟨front', shown', rfl, rfl⟩]
  cases read
  exact ⟨fits_congr same _ _, alike.skipped stops_nil⟩

theorem follows_nextIs (solid : kind.IsSolid) : Follows [] Eq (nextIs kind wanted) (nextIs kind wanted) := by
  have follows : Follows [] Eq (nextIs kind wanted >>= pure) (nextIs kind wanted >>= pure) :=
    .test stops_nil solid (.inl (by simp)) fun _ => .pure rfl
  rwa [bind_pure] at follows

theorem follows_ensure (solid : kind.IsSolid) : Follows [] Eq (ensure kind wanted) (ensure kind wanted) := by
  have follows : Follows [] Eq (ensure kind wanted >>= pure) (ensure kind wanted >>= pure) :=
    .ensured stops_nil solid fun _ => .pure rfl
  rwa [bind_pure] at follows

theorem follows_lastDocs : Follows [] Eq (lastDocs true) (lastDocs true) := by
  intro first second alike value left read
  cases read
  refine ⟨alike.docs, ?_, ?_, alike.words, rfl, alike.groups⟩
  · exact ⟨alike.left.finished, alike.left.token, alike.left.last⟩
  · exact ⟨alike.right.finished, alike.right.token, alike.right.last⟩

theorem Follows.testedAt {β γ : Type} {fit : β → γ → Prop} {yes no : Reading β} {yes' no' : Reading γ}
    (solid : kind.IsSolid) (first : Follows [] fit yes yes')
    (second : ∀ front front', front.bare = front'.bare → FollowsAt [] front front' fit no no') :
    Follows [] fit (nextIs kind wanted >>= fun found => if found = true then yes else no)
      (nextIs kind wanted >>= fun found => if found = true then yes' else no') := by
  intro stream stream' alike value left read
  obtain ⟨front, front', shown, shown', same⟩ := alike.shown
  rw [bind_apply, nextIs_eq_ok_iff.mpr ⟨front, shown, rfl, rfl⟩] at read
  rw [bind_apply, nextIs_eq_ok_iff.mpr ⟨front', shown', rfl, rfl⟩, ← fits_congr same]
  have skipped := alike.skipped stops_nil
  cases fit : TokenStream.fits kind wanted front with
  | true =>
    rw [fit] at read
    have solid' : front.kind.IsSolid := by
      rw [kind_of_fits fit]
      exact solid
    exact first _ _ (skipped.advanced shown shown' solid' same) value left read
  | false =>
    rw [fit] at read
    exact second front front' same _ _ shown shown' skipped value left read

/-! ### Looking ahead -/

def KeepsAhead (lexemes : List Lexeme) (stream : TokenStream) :
    EStateM.Result Fault TokenStream (Option String × List Token) → Prop
  | .ok found left => left.ending = stream.ending ∧ left.docs = stream.docs ∧
      ∃ ends : List Token, (∀ token ∈ ends, token.bare = .last) ∧
        found.2.reverse.map Lexeme.token ++ left.pending = lexemes ++ ends.map Lexeme.token
  | .error fault _ => fault = .outOfSteps

theorem lookaheadFrom_keeps (steps : Nat) (depth : Int) (seen : List Token) (stream : TokenStream)
    (clean : stream.Clean) : KeepsAhead (seen.reverse.map Lexeme.token ++ stream.pending) stream
      (lookaheadFrom steps depth seen stream) := by
  induction steps generalizing depth seen stream with
  | zero => exact rfl
  | succ steps ih =>
    -- One token is taken; the names and the parentheses only decide whether that was the last one.
    obtain ⟨token, ends, read, known, whole⟩ : ∃ (token : Token) (ends : List Token),
        next stream = .ok token stream.advanced ∧ (∀ token ∈ ends, token.bare = .last) ∧
        Lexeme.token token :: stream.advanced.pending = stream.pending ++ ends.map Lexeme.token := by
      obtain ⟨pending, ending, docs⟩ := stream
      cases pending with
      | nil =>
        obtain ⟨position, finished⟩ := clean.finished
        cases finished
        refine ⟨.endAt position, [.endAt position], rfl, ?_, rfl⟩
        intro token member
        rw [List.mem_singleton.mp member]
        rfl
      | cons lexeme rest =>
        obtain ⟨token, rfl, -⟩ := clean.token lexeme (by simp)
        exact ⟨token, [], rfl, by simp, by simp [advanced]⟩
    rw [lookaheadFrom, bind_apply, read]
    have done (name : Option String) : KeepsAhead (seen.reverse.map Lexeme.token ++ stream.pending) stream
        (.ok (name, token :: seen) stream.advanced) := by
      refine ⟨rfl, rfl, ends, known, ?_⟩
      rw [List.append_assoc, ← whole]
      simp
    have further (depth : Int) : KeepsAhead (seen.reverse.map Lexeme.token ++ stream.pending) stream
        (lookaheadFrom steps depth (token :: seen) stream.advanced) := by
      have later := ih depth (token :: seen) stream.advanced clean.advanced
      cases run : lookaheadFrom steps depth (token :: seen) stream.advanced with
      | ok found left =>
        rw [run] at later
        obtain ⟨ending, docs, ends', known', whole'⟩ := later
        refine ⟨ending, docs, ends ++ ends', ?_, ?_⟩
        · intro token member
          rcases List.mem_append.mp member with member | member
          · exact known token member
          · exact known' token member
        · rw [whole', List.map_append, ← List.append_assoc, List.append_assoc _ _ (ends.map _), ← whole]
          simp
      | error fault left => rwa [run] at later
    dsimp only
    cases kind : token.kind with
    | endOfInput => exact done none
    | identifier =>
      split
      · exact done (some token.value)
      · exact further _
    | _ => exact further _

/-- Tokens of the end behind the others change nothing. -/
theorem TokenStream.Clean.extended {stream : TokenStream} (clean : stream.Clean) {ends : List Token}
    (known : ∀ token ∈ ends, token.bare = .last) :
    Clean { stream with pending := stream.pending ++ ends.map Lexeme.token } where
  finished := clean.finished
  token lexeme member := by
    rcases List.mem_append.mp member with member | member
    · exact clean.token lexeme member
    · obtain ⟨token, own, rfl⟩ := List.mem_map.mp member
      have last : token.kind = .endOfInput := congrArg BareToken.kind (known token own)
      have empty : token.value = "" := congrArg BareToken.value (known token own)
      refine ⟨token, rfl, fun lifetime => ?_, fun _ => empty⟩
      cases last.symm.trans lifetime
  last := by
    refine List.pairwise_append.mpr ⟨clean.last, ?_, fun _ _ behind member _ => ?_⟩
    · refine List.pairwise_of_forall_mem_list fun _ _ behind member _ => ?_
      obtain ⟨token, own, rfl⟩ := List.mem_map.mp member
      exact ⟨token, rfl, congrArg BareToken.kind (known token own)⟩
    · obtain ⟨token, own, rfl⟩ := List.mem_map.mp member
      exact ⟨token, rfl, congrArg BareToken.kind (known token own)⟩

theorem words_extended (stream : TokenStream) {ends : List Token} (known : ∀ token ∈ ends, token.bare = .last) :
    words { stream with pending := stream.pending ++ ends.map Lexeme.token } = stream.words := by
  have none : (ends.map Lexeme.token).filterMap Lexeme.word? = [] := by
    refine List.filterMap_eq_nil_iff.mpr fun lexeme member => ?_
    obtain ⟨token, own, rfl⟩ := List.mem_map.mp member
    have last : token.kind = .endOfInput := congrArg BareToken.kind (known token own)
    simp [Lexeme.word?, last]
  unfold words
  rw [List.filterMap_append, none, List.append_nil]

theorem TokenStream.IsPlain.extended {stream : TokenStream} (plain : stream.IsPlain) {ends : List Token}
    (known : ∀ token ∈ ends, token.bare = .last) :
    IsPlain { stream with pending := stream.pending ++ ends.map Lexeme.token } := by
  intro token member
  rcases List.mem_append.mp member with member | member
  · exact plain token member
  · obtain ⟨other, own, same⟩ := List.mem_map.mp member
    cases same
    exact fun comment => by cases comment.symm.trans (congrArg BareToken.kind (known token own))

/-- Looking ahead leaves the stream as it was, but for tokens of the end. -/
theorem lookaheadFieldName_cases {stream : TokenStream} (clean : stream.Clean) :
    (∃ (name : Option String) (ends : List Token), (∀ token ∈ ends, token.bare = .last) ∧ lookaheadFieldName stream =
      .ok name { stream with pending := stream.pending ++ ends.map Lexeme.token }) ∨
    ∃ left, lookaheadFieldName stream = .error .outOfSteps left := by
  have kept := lookaheadFrom_keeps (stream.pending.length + 1) 0 [] stream clean
  have unfolded : lookaheadFieldName stream = (lookaheadFrom (stream.pending.length + 1) 0 [] >>= fun found => do
      found.2.forM unget
      return found.1) stream := rfl
  rw [unfolded, bind_apply]
  cases run : lookaheadFrom (stream.pending.length + 1) 0 [] stream with
  | ok found left =>
    rw [run] at kept
    obtain ⟨ending, docs, ends, known, whole⟩ := kept
    left
    refine ⟨found.1, ends, known, ?_⟩
    dsimp only
    rw [bind_apply, forM_unget, whole, ending, docs]
    rfl
  | error fault left =>
    rw [run] at kept
    exact .inr ⟨left, by rw [show fault = .outOfSteps from kept]⟩

theorem follows_lookaheadFieldName : Follows [] (fun _ _ => True) lookaheadFieldName lookaheadFieldName := by
  intro first second alike value left read
  rcases lookaheadFieldName_cases alike.left with ⟨name, ends, known, run⟩ | ⟨behind, run⟩
  swap
  · rw [run] at read
    cases read
  rw [run] at read
  cases read
  rcases lookaheadFieldName_cases alike.right with ⟨name', ends', known', run'⟩ | ⟨behind, run'⟩
  · rw [run']
    refine ⟨trivial, alike.left.extended known, alike.right.extended known', ?_, alike.docs, ?_⟩
    · rw [words_extended _ known, words_extended _ known', alike.words]
    · rw [words_extended _ known']
      exact alike.groups.imp id fun plain => ⟨plain.1.extended known, plain.2.extended known'⟩
  · rw [run']
    exact rfl

/-! ### Annotations -/

namespace Annotation

def TellsSame (mark mark' : Annotation) : Prop := mark.strategy = mark'.strategy ∧ mark.clauses = mark'.clauses

def BothTell (found found' : Option Annotation) : Prop :=
  found.bind (·.strategy) = found'.bind (·.strategy) ∧ found.map (·.clauses) = found'.map (·.clauses)

variable {attribution attribution' : Attribution}

theorem follows_orOnSource {action action' other other' : Reading α} (first : Follows [] Eq action action')
    (second : ∀ stream left value, other stream ≠ .ok value left) :
    Follows [] Eq (orOnSource action other) (orOnSource action' other') := by
  intro stream stream' alike value left read
  have run : action stream = .ok value left := by
    unfold orOnSource at read
    split at read
    · exact absurd read (second _ _ _)
    · exact read
  have step := first stream stream' alike value left run
  unfold orOnSource
  cases run' : action' stream' with
  | ok value' left' => rwa [run'] at step
  | error fault left' =>
    rw [run'] at step
    have same : fault = .outOfSteps := step
    rw [same]
    exact rfl

theorem follows_subject : Follows [] Eq subject subject := by
  refine .glanced stops_nil (.inl rfl) (.inl (by simp)) (fun _ _ _ _ _ => Follows.located ?_ _ _) ?_
  · exact (TypeExpr.Parser.follows_lifetime stops_nil).after fun _ => .pure rfl
  · exact follows_type stops_nil

theorem follows_item {mark mark' : Annotation} (same : mark.TellsSame mark') (isFirst : Bool) (token token' : Token) :
    Follows [] TellsSame (item attribution mark isFirst token) (item attribution' mark' isFirst token') := by
  refine (follows_orOnSource follows_subject fun _ _ _ read => by cases read).after fun found => ?_
  refine .tested stops_nil (by decide) (.inl (by simp)) ?_ ?_
  · refine (follows_orOnSource (follows_bounds stops_nil) failHere_ne_ok).after fun capabilities => .pure ?_
    exact ⟨same.1, by rw [same.2]⟩
  · split
    · exact .ite (.pure ⟨rfl, same.2⟩) .throw
    · exact .fails failHere_ne_ok

theorem follows_items (steps less : Nat) {mark mark' : Annotation} (same : mark.TellsSame mark') (isFirst : Bool) :
    Follows [] TellsSame (items attribution steps mark isFirst) (items attribution' less mark' isFirst) := by
  induction steps generalizing less mark mark' isFirst with
  | zero => exact .throw
  | succ steps ih =>
    cases less with
    | zero => exact .dry
    | succ less =>
      refine .testedAt (by decide) (.pure same) fun front front' alike => .peeked ?_
      have kinds : front.kind = front'.kind := congrArg BareToken.kind alike
      refine Follows.located ?_ _ _
      rw [← kinds]
      refine .ite .throw ((follows_item same isFirst _ _).bind fun _ _ same => ?_)
      refine .tested stops_nil (by decide) (.inl (by simp)) (ih less same false) ?_
      exact .tested stops_nil (by decide) (.inl (by simp)) (.pure same) (.fails failHere_ne_ok)

theorem follows_parse {front front' : Token} (solid : front.kind.IsSolid) (same : front.bare = front'.bare) :
    FollowsAt [] front front' TellsSame (parse attribution) (parse attribution') := by
  have named : Follows [] TellsSame (do
      let name ← ensure .identifier
      if name ≠ keyword then
        throw (fault attribution (.unknownName name) front)
      let mark : Annotation := ⟨none, [], front.position⟩
      if ← nextIs .openParen then
        items attribution ((← get).pending.length + 1) mark true
      else
        return mark) (do
      let name ← ensure .identifier
      if name ≠ keyword then
        throw (fault attribution' (.unknownName name) front')
      let mark : Annotation := ⟨none, [], front'.position⟩
      if ← nextIs .openParen then
        items attribution' ((← get).pending.length + 1) mark true
      else
        return mark) := by
    refine .ensured stops_nil (by decide) fun name => .ite .throw ?_
    refine .tested stops_nil (by decide) (.inl (by simp)) (.get fun _ _ => ?_) (.pure ⟨rfl, rfl⟩)
    refine follows_items _ _ ?_ true
    exact ⟨rfl, rfl⟩
  refine .moved solid same (follows_peekedIs.after fun found => .ite ?_ named)
  refine .fails fun stream left value read => ?_
  obtain ⟨_, _, failed, -⟩ := bind_eq_ok read
  exact failHere_ne_ok _ _ _ failed

theorem follows_parseAllFrom (steps less : Nat) {found found' : Option Annotation} (same : BothTell found found') :
    Follows [] BothTell (parseAllFrom attribution steps found) (parseAllFrom attribution' less found') := by
  induction steps generalizing less found found' with
  | zero => exact .throw
  | succ steps ih =>
    cases less with
    | zero => exact .dry
    | succ less =>
      refine .glanced stops_nil (.inl rfl) (.inl (by simp)) (fun front front' alike _ kind => ?_) (.pure same)
      refine .peeked ((follows_parse (by rw [kind]; decide) alike).bind fun mark mark' told => ?_)
      have both : found.isSome = found'.isSome := by
        simpa using congrArg Option.isSome same.2
      rw [both]
      refine .ite .throw (ih less ⟨?_, ?_⟩)
      · exact told.1
      · simp [told.2]

theorem follows_parseAll : Follows [] BothTell (parseAll attribution) (parseAll attribution') :=
  .get fun _ _ => follows_parseAllFrom _ _ ⟨rfl, rfl⟩

end Annotation

/-! ### Parameters, fields and variants -/

namespace Declaration.Parser

theorem follows_introduced (role : String) (isMember : Bool) :
    Follows [] Eq (introduced role isMember) (introduced role isMember) := by
  refine .ensured stops_nil (by decide) fun name => ?_
  split
  · exact .pure rfl
  · exact .throw

theorem follows_ensureDistinct (names : List String) (problem : String → DeclarationProblem) :
    Follows [] Eq (ensureDistinct names problem) (ensureDistinct names problem) := by
  unfold ensureDistinct
  split
  · exact .throw
  · exact .pure rfl

theorem follows_parameterBounds : Follows [] Eq parameterBounds parameterBounds :=
  .tested stops_nil (by decide) (.inl (by simp)) (follows_bounds stops_nil) (.pure rfl)

theorem follows_parameter : Follows [] Eq parameter parameter := by
  refine .glanced stops_nil (.inl rfl) (.inl (by simp)) (fun _ _ _ _ _ => Follows.located ?_ _ _) ?_
  · exact (TypeExpr.Parser.follows_lifetime stops_nil).after fun _ =>
      follows_parameterBounds.after fun _ => .pure rfl
  · refine .tested stops_nil (by decide) (.inl (by simp)) ?_ ?_
    · exact .ensured stops_nil (by decide) fun _ => .ensured stops_nil (by decide) fun _ =>
        (follows_type stops_nil).after fun _ => .pure rfl
    · exact (follows_introduced _ _).after fun _ => follows_parameterBounds.after fun _ => .pure rfl

theorem follows_parameters (steps less : Nat) : Follows [] Eq (parameters steps) (parameters less) := by
  induction steps generalizing less with
  | zero => exact .throw
  | succ steps ih =>
    cases less with
    | zero => exact .dry
    | succ less =>
      refine .tested stops_nil (by decide) (.inl (by simp)) (.pure rfl) (follows_parameter.after fun first => ?_)
      refine .tested stops_nil (by decide) (.inl (by simp)) ((ih less).after fun _ => .pure rfl) ?_
      exact .ensured stops_nil (by decide) fun _ => .pure rfl

theorem follows_generics : Follows [] Eq generics generics := by
  refine (follows_nextIs (by decide)).after fun found => .ite (.pure rfl) (.get fun _ _ => ?_)
  exact (follows_parameters _ _).after fun found => (follows_ensureDistinct _ _).after fun _ => .pure rfl

theorem follows_field (owner : String) (name : Option String) (index : Nat) (type : TypeExpr) (docs : String)
    {mark mark' : Option Annotation} (same : Annotation.BothTell mark mark') :
    Follows [] Eq (field owner name index type mark docs) (field owner name index type mark' docs) := by
  unfold field
  rw [same.1, same.2]
  dsimp only
  split
  · exact .pure rfl
  · exact .throw

theorem follows_namedField (owner : String) (index : Nat) :
    Follows [] Eq (namedField owner index) (namedField owner index) := by
  have remaining (label label' : Option String) : Follows [] Eq (do
      let docsBefore ← lastDocs
      let mark ← Annotation.parseAll ⟨some owner, label⟩
      let docsAfter ← lastDocs
      let docs := if docsAfter.isEmpty then docsBefore else docsAfter
      let name ← introduced "field" true
      let _ ← ensure .colon
      field owner (some name) index (← TypeExpr.parse) mark docs) (do
      let docsBefore ← lastDocs
      let mark ← Annotation.parseAll ⟨some owner, label'⟩
      let docsAfter ← lastDocs
      let docs := if docsAfter.isEmpty then docsBefore else docsAfter
      let name ← introduced "field" true
      let _ ← ensure .colon
      field owner (some name) index (← TypeExpr.parse) mark docs) := by
    refine follows_lastDocs.after fun before => Annotation.follows_parseAll.bind fun mark mark' same =>
      follows_lastDocs.after fun docs => (follows_introduced _ _).after fun name => ?_
    exact .ensured stops_nil (by decide) fun _ => (follows_type stops_nil).after fun type =>
      follows_field _ _ _ _ _ same
  refine .glanced stops_nil (.inl rfl) (.inl (by simp)) (fun _ _ _ _ _ => Follows.located ?_ _ _) (remaining _ _)
  exact follows_lookaheadFieldName.bind fun label label' _ => remaining label label'

theorem follows_tupleField (owner : String) (index : Nat) :
    Follows [] Eq (tupleField owner index) (tupleField owner index) :=
  follows_peekedIs.after fun _ => follows_lastDocs.after fun _ => Annotation.follows_parseAll.bind
    fun _ _ same => (follows_type stops_nil).after fun _ => follows_field _ _ _ _ _ same

theorem follows_namedFields (owner : String) (steps less index : Nat) :
    Follows [] Eq (namedFields owner steps index) (namedFields owner less index) := by
  induction steps generalizing less index with
  | zero => exact .throw
  | succ steps ih =>
    cases less with
    | zero => exact .dry
    | succ less =>
      refine .tested stops_nil (by decide) (.inl (by simp)) (.pure rfl) ?_
      exact (follows_namedField _ _).after fun first => (follows_nextIs (by decide)).after fun _ =>
        (ih less _).after fun _ => .pure rfl

theorem follows_tupleFields (owner : String) (steps less index : Nat) :
    Follows [] Eq (tupleFields owner steps index) (tupleFields owner less index) := by
  induction steps generalizing less index with
  | zero => exact .throw
  | succ steps ih =>
    cases less with
    | zero => exact .dry
    | succ less =>
      refine .tested stops_nil (by decide) (.inl (by simp)) (.pure rfl) ?_
      refine (follows_tupleField _ _).after fun first => ?_
      refine .tested stops_nil (by decide) (.inl (by simp)) ((ih less _).after fun _ => .pure rfl) ?_
      exact .ensured stops_nil (by decide) fun _ => .pure rfl

theorem follows_fieldList (owner : String) : Follows [] Eq (fieldList owner) (fieldList owner) := by
  refine .tested stops_nil (by decide) (.inl (by simp)) (.get fun _ _ => ?_) ?_
  · exact (follows_namedFields _ _ _ _).after fun _ => (follows_ensureDistinct _ _).after fun _ => .pure rfl
  · refine .tested stops_nil (by decide) (.inl (by simp)) (.get fun _ _ => ?_) (.pure rfl)
    exact (follows_tupleFields _ _ _ _).after fun _ => .pure rfl

theorem follows_variant (owner : String) : Follows [] Eq (variant owner) (variant owner) :=
  follows_peekedIs.after fun _ => follows_lastDocs.after fun _ => (follows_introduced _ _).after fun _ =>
    (follows_fieldList _).after fun _ => .pure rfl

theorem follows_variants (owner : String) (steps less : Nat) :
    Follows [] Eq (variants owner steps) (variants owner less) := by
  induction steps generalizing less with
  | zero => exact .throw
  | succ steps ih =>
    cases less with
    | zero => exact .dry
    | succ less =>
      refine .tested stops_nil (by decide) (.inl (by simp)) (.pure rfl) ?_
      exact (follows_variant _).after fun first => (follows_nextIs (by decide)).after fun _ =>
        (ih less).after fun _ => .pure rfl

theorem follows_union (owner : String) : Follows [] Eq (union owner) (union owner) :=
  .ensured stops_nil (by decide) fun _ => .get fun _ _ => (follows_variants _ _ _).after fun _ =>
    (follows_ensureDistinct _ _).after fun _ => .pure rfl

theorem follows_consume (solid : kind.IsSolid) : Follows [] Eq (consume kind) (consume kind) := by
  have within (steps less : Nat) : Follows [] Eq (consumeWithin kind steps) (consumeWithin kind less) := by
    induction steps generalizing less with
    | zero => exact .throw
    | succ steps ih =>
      cases less with
      | zero => exact .dry
      | succ less => exact .tested stops_nil solid (.inl (by simp)) (ih less) (.pure rfl)
  exact .get fun _ _ => within _ _

theorem follows_qualifiedName :
    Follows [] Eq (TokenStream.qualifiedName .dot) (TokenStream.qualifiedName .dot) := by
  have further (steps less : Nat) (name : String) :
      Follows [] Eq (qualifiedNameFrom .dot steps name) (qualifiedNameFrom .dot less name) := by
    induction steps generalizing less name with
    | zero => exact .throw
    | succ steps ih =>
      cases less with
      | zero => exact .dry
      | succ less =>
        refine .tested stops_nil (by decide) (.inl (by simp)) ?_ (.pure rfl)
        exact .ensured stops_nil (by decide) fun _ => ih less _
  exact .ensured stops_nil (by decide) fun _ => .get fun _ _ => further _ _ _

end Declaration.Parser

end CowView
