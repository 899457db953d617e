import CowView.Proofs.Enclosure
import CowView.Proofs.Termination

/-!
Faults in the annotations of a named field. The name of the field is looked up ahead of them: it is the first one
outside of parentheses that does not stand directly behind an at sign. If the tokens of the annotations are nested,
whatever is wrong with them is charged to that name, at one of these tokens or at the one right behind them.
-/

namespace CowView

open TokenStream

/-! ### Looking ahead -/

def parenDepth (tokens : List Token) : Int :=
  tokens.countP (·.kind = .openParen) - tokens.countP (·.kind = .closeParen)

def IsOuterName (front : List Token) (token : Token) : Prop := token.kind = .identifier ∧ parenDepth front = 0

def EndsMarked (front : List Token) : Prop := front.getLast?.any (·.kind = .atSign) = true

/-- Every name outside of parentheses stands directly behind an at sign. -/
def NamesMarked (tokens : List Token) : Prop := ∀ (index : Nat) (inside : index < tokens.length),
  IsOuterName (tokens.take index) tokens[index] → EndsMarked (tokens.take index)

instance (front : List Token) (token : Token) : Decidable (IsOuterName front token) :=
  inferInstanceAs (Decidable (_ ∧ _))

instance (front : List Token) : Decidable (EndsMarked front) := inferInstanceAs (Decidable (_ = _))

instance (tokens : List Token) : Decidable (NamesMarked tokens) :=
  inferInstanceAs (Decidable (∀ (index : Nat) (_inside : index < tokens.length), _))

theorem NamesMarked.endsMarked {tokens front back : List Token} {token : Token} (marked : NamesMarked tokens)
    (same : tokens = front ++ token :: back) (outer : IsOuterName front token) : EndsMarked front := by
  subst same
  have own := marked front.length (by simp)
  simp only [List.take_left', List.getElem_append_right, Nat.le_refl, Nat.sub_self, List.getElem_cons_zero] at own
  exact own outer

theorem parenDepth_append (front back : List Token) : parenDepth (front ++ back) = parenDepth front + parenDepth back := by
  simp only [parenDepth, List.countP_append]
  omega

theorem parenDepth_cons (token : Token) (rest : List Token) :
    parenDepth (token :: rest) = parenDepth [token] + parenDepth rest :=
  parenDepth_append [token] rest

theorem parenDepth_single {token : Token} (opens : token.kind ≠ .openParen) (closes : token.kind ≠ .closeParen) :
    parenDepth [token] = 0 := by
  simp [parenDepth, opens, closes]

theorem Nested.parenDepth {tokens : List Token} (nested : Nested tokens) : parenDepth tokens = 0 := by
  induction nested with
  | nil => rfl
  | @single token rest alone more later ih =>
    rw [parenDepth_cons, ih, parenDepth_single]
    · rfl
    · rintro same
      rw [same] at alone
      exact absurd alone (by decide)
    · rintro same
      rw [same] at alone
      exact absurd alone (by decide)
  | @group opening closing inner rest closed inside later ihInside ihLater =>
    have balance : CowView.parenDepth [opening] + CowView.parenDepth [closing] = 0 := by
      unfold CowView.parenDepth
      generalize same : closing.kind = kind at closed
      cases shown : opening.kind <;> rw [shown] at closed <;> cases closed <;> simp [shown, same]
    rw [parenDepth_cons, parenDepth_append, parenDepth_cons closing, ihInside, ihLater]
    omega

theorem Nested.append {front back : List Token} (first : Nested front) (second : Nested back) : Nested (front ++ back) := by
  induction first with
  | nil => exact second
  | single alone more later ih => exact .single alone more ih
  | group closed inside later _ ih =>
    rw [List.cons_append, List.append_assoc, List.cons_append]
    exact .group closed inside ih

theorem Nested.kind_ne {tokens : List Token} (nested : Nested tokens) : ∀ token ∈ tokens, token.kind ≠ .endOfInput := by
  induction nested with
  | nil => simp
  | single alone more later ih => simpa using ⟨more, ih⟩
  | @group opening closing inner rest closed inside later ihInside ihLater =>
    have opens : opening.kind ≠ .endOfInput := fun last => by rw [last] at closed; cases closed
    have closes : closing.kind ≠ .endOfInput := fun last => by
      rw [last] at closed
      exact absurd (TokenGroup.mem_closers closed).1 (by decide)
    simp only [List.mem_cons, List.mem_append]
    rintro token (rfl | member | rfl | member)
    · exact opens
    · exact ihInside token member
    · exact closes
    · exact ihLater token member

namespace TokenStream

variable {stream : TokenStream} {tokens : List Token} {name : Token} {rest : List Lexeme}

/-- The tokens are read ahead up to the first name outside of parentheses that follows no at sign. -/
theorem lookaheadFrom_eq (marked : NamesMarked tokens) (more : ∀ token ∈ tokens, token.kind ≠ .endOfInput)
    (own : IsOuterName tokens name) (shown : tokens ≠ []) (free : ¬ EndsMarked tokens) (back : List Token) :
    ∀ (front : List Token) (steps : Nat) (stream : TokenStream), tokens = front ++ back → back.length < steps →
      stream.pending = back.map .token ++ .token name :: rest →
        lookaheadFrom steps (parenDepth front) front.reverse stream =
          .ok (some name.value, name :: tokens.reverse) { stream with pending := rest } := by
  -- over the tokens that are still to be read: what is kept while reading depends on those that were read
  induction back with
  | nil =>
    intro front steps stream same enough pending
    obtain ⟨less, rfl⟩ := Nat.exists_eq_succ_of_ne_zero (Nat.ne_zero_of_lt enough)
    rw [List.append_nil] at same
    subst same
    have seen : stream.front? = some name := by simp [front?, pending]
    have behind : stream.advanced = { stream with pending := rest } := by simp [advanced, pending]
    rw [lookaheadFrom, bind_apply, next_eq_ok_iff.mpr ⟨seen, rfl⟩, behind]
    dsimp only
    obtain ⟨last, final⟩ := Option.ne_none_iff_exists'.mp (mt List.getLast?_eq_none_iff.mp shown)
    have unmarked : last.kind ≠ .atSign := fun mark => free (by simp [EndsMarked, final, mark])
    rw [own.1, own.2]
    simp [final, unmarked]
    rfl
  | cons token back ih =>
    intro front steps stream same enough pending
    obtain ⟨less, rfl⟩ := Nat.exists_eq_succ_of_ne_zero (Nat.ne_zero_of_lt enough)
    have seen : stream.front? = some token := by simp [front?, pending]
    have behind : stream.advanced = { stream with pending := back.map .token ++ .token name :: rest } := by
      simp [advanced, pending]
    have onward := ih (front ++ [token]) less { stream with pending := back.map .token ++ .token name :: rest }
      (by rw [same, List.append_assoc]; rfl) (by rw [List.length_cons] at enough; omega) rfl
    rw [parenDepth_append, List.reverse_append] at onward
    rw [lookaheadFrom, bind_apply, next_eq_ok_iff.mpr ⟨seen, rfl⟩, behind]
    dsimp only
    have onlyMarked (kind : token.kind = .identifier) :
        ¬ (parenDepth front = 0 ∧ front.reverse.head?.any (·.kind ≠ .atSign) = true) := by
      rintro ⟨outer, unmarked⟩
      have own := marked.endsMarked same ⟨kind, outer⟩
      rw [List.head?_reverse] at unmarked
      cases last : front.getLast? with
      | none => simp [last] at unmarked
      | some mark => simp_all [EndsMarked]
    cases kind : token.kind with
    | endOfInput => exact absurd kind (more token (by simp [same]))
    | openParen =>
      have depth : parenDepth [token] = 1 := by simp [parenDepth, kind]
      rwa [depth] at onward
    | closeParen =>
      have depth : parenDepth [token] = -1 := by simp [parenDepth, kind]
      rwa [depth] at onward
    | identifier =>
      rw [parenDepth_single (by simp [kind]) (by simp [kind]), Int.add_zero] at onward
      have passed := onlyMarked kind
      simp only [Bool.and_eq_true, decide_eq_true_eq]
      rwa [if_neg passed]
    | _ =>
      rw [parenDepth_single (by simp [kind]) (by simp [kind]), Int.add_zero] at onward
      exact onward

/-- The name is found, and all tokens that were read ahead are put back. -/
theorem lookaheadFieldName_eq (marked : NamesMarked tokens) (nested : Nested tokens) (kind : name.kind = .identifier)
    (shown : tokens ≠ []) (free : ¬ EndsMarked tokens) (pending : stream.pending = tokens.map .token ++ .token name :: rest) :
    lookaheadFieldName stream = .ok (some name.value) stream := by
  have enough : tokens.length < stream.pending.length + 1 := by
    rw [pending]
    simp only [List.length_append, List.length_map]
    omega
  have found := lookaheadFrom_eq marked nested.kind_ne ⟨kind, nested.parenDepth⟩ shown free tokens [] _ stream rfl
    enough pending
  change lookaheadFrom _ 0 [] stream = _ at found
  change (lookaheadFrom (stream.pending.length + 1) 0 [] >>= _) stream = _
  rw [bind_apply, found]
  dsimp only
  rw [bind_apply, forM_unget]
  dsimp only
  have whole : (name :: tokens.reverse).reverse.map Lexeme.token ++ rest = stream.pending := by
    rw [pending]
    simp
  rw [whole]
  rfl

end TokenStream

/-! ### Items -/

section

variable {α β : Type} {block : List Token} {rest : List Lexeme} {stream : TokenStream} {attribution : Attribution}

def Charged (block : List Token) (after : Option Lexeme) (attribution : Attribution) (fault : Fault) : Prop :=
  ∃ problem token, fault = Annotation.fault attribution problem token ∧ (token ∈ block ∨ after = some (.token token))

def Accounted (block : List Token) (after : Option Lexeme) (attribution : Attribution) (good : TokenStream → Prop) :
    EStateM.Result Fault TokenStream α → Prop
  | .ok _ left => good left
  | .error fault _ => fault.Refuses → Charged block after attribution fault

/-- In front of nested tokens and their closing bracket the action charges its faults as wanted. -/
def Charges (block : List Token) (attribution : Attribution) (good : Leaving) (action : Reading α) : Prop :=
  ∀ ⦃closing rest stream after⦄, closing.kind ∈ TokenGroup.closers → closing ∈ block →
    rest.head? = some (.token after) → Ahead block (.token closing :: rest) stream →
      Accounted block rest.head? attribution (good closing rest) (action stream)

theorem TokenStream.Near.peeked {after : Token} (near : Near block rest stream) (follows : rest.head? = some (.token after)) :
    ∃ token, peek stream = .ok token stream ∧ (token ∈ block ∨ rest.head? = some (.token token)) := by
  obtain ⟨front, pending, own⟩ := near
  cases front with
  | nil =>
    obtain ⟨others, rfl⟩ := List.head?_eq_some_iff.mp follows
    exact ⟨after, by simp [peek, pending], .inr rfl⟩
  | cons first front => exact ⟨first, by simp [peek, pending], .inl (List.cons_subset.mp own).1⟩

/-- A fault at the next token is charged as wanted. -/
theorem TokenStream.Near.failHere {after : Token} {good : TokenStream → Prop} (near : Near block rest stream)
    (follows : rest.head? = some (.token after)) (problem : AnnotationProblem) :
    Accounted block rest.head? attribution good ( Annotation.failHere attribution problem stream :
      EStateM.Result Fault TokenStream α) := by
  obtain ⟨token, shown, placed⟩ := near.peeked follows
  unfold Annotation.failHere
  rw [bind_apply, shown]
  exact fun _ => ⟨problem, token, rfl, placed⟩

namespace Charges

variable {good : Leaving} {action : Reading α} {next : α → Reading β} {kind : TokenKind} {yes no : Reading β}

theorem pure (value : α) : Charges block attribution (still block) (pure value) :=
  fun _ _ _ _ _ _ _ ahead => ahead

theorem throw {problem : AnnotationProblem} {token : Token} (member : token ∈ block) :
    Charges block attribution good (throw ( Annotation.fault attribution problem token) : Reading α) :=
  fun _ _ _ _ _ _ _ _ _ => ⟨problem, token, rfl, .inl member⟩

theorem failHere (problem : AnnotationProblem) :
    Charges block attribution good ( Annotation.failHere attribution problem : Reading α) :=
  fun closing _ _ _ _ own follows ahead =>
    (ahead.near.prepend [closing] (by simpa using own)).failHere follows problem

theorem bind (first : Charges block attribution (still block) action)
    (later : ∀ found, Charges block attribution good (next found)) : Charges block attribution good (action >>= next) := by
  intro closing rest stream after closes own follows ahead
  have one := first closes own follows ahead
  rw [bind_apply]
  cases run : action stream with
  | ok found left =>
    rw [run] at one
    exact later found closes own follows one
  | error fault left =>
    rw [run] at one
    exact one

theorem peeked {next : Token → Reading β} (later : ∀ token ∈ block, Charges block attribution good (next token)) :
    Charges block attribution good (peek >>= next) := by
  intro closing rest stream after closes own follows ahead
  obtain ⟨shown, front, cases⟩ := ahead.front
  have member : shown ∈ block := by
    rcases cases with ⟨rfl, -⟩ | ⟨member, -⟩
    · exact own
    · exact member
  rw [bind_apply, peek_eq_ok_iff.mpr ⟨front, rfl⟩]
  exact later shown member closes own follows ahead

theorem tested (first : ∀ ⦃closing rest stream token⦄, closing.kind ∈ TokenGroup.closers → closing ∈ block →
      (∃ after, rest.head? = some (.token after)) → Ahead block (.token closing :: rest) stream →
        stream.front? = some token → token.kind = kind →
          Accounted block rest.head? attribution (good closing rest) (yes stream.advanced))
    (second : Charges block attribution good no) :
    Charges block attribution good (nextIs kind >>= fun found => if found = true then yes else no) := by
  intro closing rest stream after closes own follows ahead
  obtain ⟨shown, front, skipped⟩ := ahead.glance closes
  rw [bind_apply, nextIs_eq_ok_iff.mpr ⟨shown, front, rfl, rfl⟩]
  cases fit : fits kind none shown with
  | false => exact second closes own follows skipped
  | true => exact first closes own ⟨after, follows⟩ skipped front (kind_of_fits fit)

theorem single (alone : kind.IsSingle) (first : Charges block attribution good yes)
    (second : Charges block attribution good no) :
    Charges block attribution good (nextIs kind >>= fun found => if found = true then yes else no) := by
  refine tested (fun closing rest stream token closes own follows ahead shown same => ?_) second
  obtain ⟨after, follows⟩ := follows
  exact first closes own follows (ahead.single closes shown (same ▸ alone)).2

theorem closing {value : β} (closer : kind ∈ TokenGroup.closers) (second : Charges block attribution past no) :
    Charges block attribution past
      (nextIs kind >>= fun found => if found = true then Pure.pure value else no) := by
  refine tested (fun closing rest stream token closes own follows ahead shown same => ?_) second
  exact ahead.closed shown (same ▸ closer)

/-- A fault of the text is met by another one, at whatever is next then. -/
theorem orOnSource {action other : Reading α} (first : Encloses block good action)
    (second : ∀ ⦃rest stream after⦄, rest.head? = some (.token after) → Near block rest stream →
      Accounted block rest.head? attribution (fun _ => False) (other stream)) :
    Charges block attribution good ( Annotation.orOnSource action other) := by
  intro closing rest stream after closes own follows ahead
  have one := first closes own ahead
  unfold Annotation.orOnSource
  split
  next line column problem left run =>
    rw [run] at one
    have two := second follows one.2
    cases run' : other left with
    | ok value behind =>
      rw [run'] at two
      exact two.elim
    | error fault behind =>
      rw [run'] at two
      exact two
  next other =>
    cases run : action stream with
    | ok value left =>
      rw [run] at one
      exact one
    | error fault left =>
      rw [run] at one
      intro refuses
      cases fault with
      | source line column problem => exact absurd run (other line column problem left)
      | _ => cases one.1 refuses

end Charges

namespace Annotation

theorem encloses_parse : Encloses block (still block) TypeExpr.parse :=
  fun _ _ stream closes own ahead => (TypeExpr.Parser.enclosing stream.budget).type closes own ahead

theorem encloses_parseBounds : Encloses block (still block) TypeExpr.parseBounds :=
  fun _ _ stream closes own ahead => (TypeExpr.Parser.enclosing stream.budget).bounds closes own ahead

theorem charges_item (mark : Annotation) (isFirst : Bool) {token : Token} (member : token ∈ block) :
    Charges block attribution (still block) (item attribution mark isFirst token) := by
  have subject : Encloses block (still block) subject :=
    encloses_peekedIs.bind fun _ => .ite TypeExpr.Parser.encloses_lifetime.last encloses_parse
  have unreadable : ∀ ⦃rest : List Lexeme⦄ ⦃stream : TokenStream⦄ ⦃after : Token⦄, rest.head? = some (.token after) →
      Near block rest stream → Accounted block rest.head? attribution (fun _ => False)
        ((throw (fault attribution .itemExpected token) : Reading TypeExpr) stream) :=
    fun _ _ _ _ _ _ => ⟨_, token, rfl, .inl member⟩
  refine (Charges.orOnSource subject unreadable).bind fun found => ?_
  refine .single (by decide) ?_ ?_
  · refine (Charges.orOnSource encloses_parseBounds fun _ _ _ follows near => near.failHere follows _).bind fun _ => ?_
    exact .pure _
  · split
    · split
      · exact .pure _
      · exact .throw member
    · exact .failHere _

theorem charges_items (attribution : Attribution) (steps : Nat) (mark : Annotation) (isFirst : Bool) :
    Charges block attribution past (items attribution steps mark isFirst) := by
  induction steps generalizing mark isFirst with
  | zero => exact fun _ _ _ _ _ _ _ _ refuses => refuses.elim
  | succ steps ih =>
    refine .closing (by decide) (.peeked fun token member => ?_)
    split
    · exact .throw member
    · refine (charges_item _ _ member).bind fun found => .single (by decide) (ih _ _) ?_
      exact .closing (by decide) (.failHere _)

/-! ### Annotations in front of a name -/

variable {name : Token} {others : List Lexeme}

def Done (stream : TokenStream) : Prop :=
  ∃ token, stream.skipped.front? = some token ∧ token.kind ∈ [TokenKind.identifier, .colon]

theorem Done.skipped (done : Done stream) : Done stream.skipped := by
  rwa [Done, skipped_skipped]

def IsNamed (tail : List Lexeme) (name : Token) : Prop :=
  ∃ (gap gap' : List Token) (colon : Token) (others : List Lexeme),
    tail = gap.map .token ++ .token name :: (gap'.map .token ++ .token colon :: others) ∧
      (∀ token ∈ gap ++ gap', token.kind = .comment) ∧ name.kind = .identifier ∧ colon.kind = .colon

theorem dropComments_comments {gap : List Token} (comments : ∀ token ∈ gap, token.kind = .comment) {token : Token}
    (solid : token.kind ≠ .comment) (docs : String) :
    (dropComments docs (gap.map .token ++ .token token :: others)).1 = .token token :: others := by
  induction gap generalizing docs with
  | nil =>
    have plain : token.isComment = false := by simpa [Token.isComment] using solid
    simp [dropComments, plain]
  | cons first gap ih =>
    have comment : first.isComment = true := by simpa [Token.isComment] using comments first (by simp)
    simpa [dropComments, comment] using ih (fun token member => comments token (by simp [member])) _

theorem IsNamed.head? {tail : List Lexeme} (named : IsNamed tail name) :
    ∃ after, tail.head? = some (.token after) ∧ after.kind ≠ .atSign := by
  obtain ⟨gap, gap', colon, others, rfl, comments, kind, -⟩ := named
  cases gap with
  | nil => exact ⟨name, rfl, by rw [kind]; decide⟩
  | cons first gap => exact ⟨first, rfl, by rw [comments first (by simp)]; decide⟩

theorem front?_of_pending {first : Token} (pending : stream.pending = .token first :: others) :
    stream.front? = some first ∧ stream.advanced.pending = others := by
  simp [front?, advanced, pending]

theorem ahead_named {tail : List Lexeme} (ahead : Ahead block tail stream) (named : IsNamed tail name) :
    ∃ shown, stream.skipped.front? = some shown ∧
      ((shown.kind = .identifier ∧ Done stream.skipped.advanced ∧ Done stream.skipped) ∨
        (shown ∈ block ∧ Ahead block tail stream.skipped ∧
          ((shown.kind.IsSingle ∧ Ahead block tail stream.skipped.advanced) ∨
            ∃ kind, shown.kind.closer? = some kind ∧ Opened block kind tail stream.skipped.advanced))) := by
  rcases ahead.dropped with ⟨first, inner, pending, own, nested⟩ | ⟨docs, pending⟩
  · obtain ⟨front, member, cases⟩ := ahead_cons pending own nested
    exact ⟨first, front, .inr ⟨member, ⟨_, pending, own, nested⟩, cases⟩⟩
  · obtain ⟨gap, gap', colon, others, rfl, comments, kind, last⟩ := named
    have before := fun token member => comments token (List.mem_append_left gap' member)
    have behindName := fun token member => comments token (List.mem_append_right gap member)
    rw [dropComments_comments before (by rw [kind]; decide)] at pending
    obtain ⟨front, behind⟩ := front?_of_pending pending
    refine ⟨name, front, .inl ⟨kind, ⟨colon, ?_, by simp [last]⟩, name, ?_, by simp [kind]⟩⟩
    · have dropped : stream.skipped.advanced.skipped.pending = .token colon :: others := by
        rw [← dropComments_comments behindName (by rw [last]; decide) stream.skipped.advanced.docs, ← behind]
        rfl
      exact (front?_of_pending dropped).1
    · rwa [skipped_skipped]

/-- The items of an annotation end at its closing bracket, and what is right behind them comes from the block as well
or follows it. -/
theorem items_opened (attribution : Attribution) {tail : List Lexeme} {after : Token} (follows : tail.head? = some (.token after))
    (opened : Opened block .closeParen tail stream) (steps : Nat) (mark : Annotation) :
    Accounted block tail.head? attribution (Ahead block tail) (items attribution steps mark true stream) := by
  obtain ⟨closing, outer, kind, closes, member, members, nested, inner, pending, insides, inside⟩ := opened
  -- the brackets and what they enclose, so that the token behind them can be told apart
  let group := inner ++ [closing]
  have own : closing ∈ group := by simp [group]
  have ahead : Ahead group (.token closing :: (outer.map .token ++ tail)) stream :=
    ⟨inner, pending, List.subset_append_left _ _, inside⟩
  have next : ∃ after, (outer.map Lexeme.token ++ tail).head? = some (.token after) ∧
      ∀ token, (outer.map Lexeme.token ++ tail).head? = some (.token token) →
        token ∈ block ∨ tail.head? = some (.token token) := by
    cases outer with
    | nil => exact ⟨after, follows, fun token => .inr⟩
    | cons first outer =>
      refine ⟨first, rfl, fun token same => .inl ?_⟩
      cases same
      exact (List.cons_subset.mp members).1
  obtain ⟨after', follows', placed⟩ := next
  have charged := charges_items attribution steps mark true (kind ▸ closes) own follows' ahead
  cases run : items attribution steps mark true stream with
  | ok found left =>
    rw [run] at charged
    exact ⟨outer, charged, members, nested⟩
  | error fault left =>
    rw [run] at charged
    intro refuses
    obtain ⟨problem, token, same, where_⟩ := charged refuses
    refine ⟨problem, token, same, ?_⟩
    rcases where_ with inGroup | behind
    · refine .inl ?_
      rcases List.mem_append.mp inGroup with inInner | last
      · exact insides inInner
      · rwa [List.mem_singleton.mp last]
    · exact placed token behind

theorem ahead_atSign {tail : List Lexeme} {mark : Token} (ahead : Ahead block tail stream) (named : IsNamed tail name)
    (front : stream.front? = some mark) (kind : mark.kind = .atSign) : mark ∈ block ∧ Ahead block tail stream.advanced := by
  obtain ⟨after, follows, other⟩ := named.head?
  obtain ⟨inner, pending, own, nested⟩ := ahead
  cases inner with
  | nil =>
    obtain ⟨others, rfl⟩ := List.head?_eq_some_iff.mp follows
    cases front.symm.trans (front?_of_pending pending).1
    exact absurd kind other
  | cons first inner =>
    obtain ⟨shown, member, cases⟩ := ahead_cons pending own nested
    cases front.symm.trans shown
    rcases cases with ⟨-, behind⟩ | ⟨closer, opens, -⟩
    · exact ⟨member, behind⟩
    · rw [kind] at opens
      cases opens

theorem arguments_accounted {tail : List Lexeme} (state : Ahead block tail stream ∨ Done stream) (named : IsNamed tail name)
    (mark : Annotation) : Accounted block tail.head? attribution (fun left => Ahead block tail left ∨ Done left) ((do
      if ← nextIs .openParen then
        items attribution ((← get).pending.length + 1) mark true
      else
        return mark : Reading Annotation) stream) := by
  obtain ⟨after, follows, -⟩ := named.head?
  have passed {shown : Token} (front : stream.skipped.front? = some shown) (other : shown.kind ≠ .openParen)
      (behind : Ahead block tail stream.skipped ∨ Done stream.skipped) :
      Accounted block tail.head? attribution (fun left => Ahead block tail left ∨ Done left) ((do
        if ← nextIs .openParen then
          items attribution ((← get).pending.length + 1) mark true
        else
          return mark : Reading Annotation) stream) := by
    have missed : fits .openParen none shown = false := by simp [fits, other]
    rw [bind_apply, nextIs_eq_ok_iff.mpr ⟨shown, front, missed.symm, rfl⟩]
    exact behind
  rcases state with ahead | done
  · obtain ⟨shown, front, ⟨kind, -, done⟩ | ⟨-, ahead, cases⟩⟩ := ahead_named ahead named
    · exact passed front (by rw [kind]; decide) (.inr done)
    · by_cases opens : shown.kind = .openParen
      · have fit : fits .openParen none shown = true := by simp [fits, opens]
        rw [opens] at cases
        obtain ⟨alone, -⟩ | ⟨kind, closed, opened⟩ := cases
        · exact absurd alone (by decide)
        · cases closed
          have charged := items_opened attribution follows opened
            (stream.skipped.advanced.pending.length + 1) mark
          rw [bind_apply, nextIs_eq_ok_iff.mpr ⟨shown, front, fit.symm, rfl⟩]
          change Accounted block tail.head? attribution _ (items attribution
            (stream.skipped.advanced.pending.length + 1) mark true stream.skipped.advanced)
          cases run : items attribution (stream.skipped.advanced.pending.length + 1) mark true
              stream.skipped.advanced with
          | ok found left =>
            rw [run] at charged
            exact .inl charged
          | error fault left =>
            rw [run] at charged
            exact charged
      · exact passed front opens (.inl ahead)
  · obtain ⟨shown, front, kind⟩ := id done
    refine passed front ?_ (.inr done.skipped)
    rintro opens
    rw [opens] at kind
    exact absurd kind (by decide)

theorem parse_accounted (attribution : Attribution) {tail : List Lexeme} {mark : Token} (front : stream.front? = some mark)
    (kind : mark.kind = .atSign) (ahead : Ahead block tail stream) (named : IsNamed tail name) :
    Accounted block tail.head? attribution (fun left => Ahead block tail left ∨ Done left)
      ( Annotation.parse attribution stream) := by
  obtain ⟨member, behind⟩ := ahead_atSign ahead named front kind
  obtain ⟨shown, front', cases⟩ := ahead_named behind named
  unfold Annotation.parse
  rw [bind_apply, next_eq_ok_iff.mpr ⟨front, rfl⟩]
  dsimp only
  rw [bind_apply, peekedIs_eq_ok_iff.mpr ⟨shown, front', rfl, rfl⟩]
  by_cases isName : shown.kind = .identifier
  · have fit : fits .identifier none shown = true := by simp [fits, isName]
    have onward : Ahead block tail stream.advanced.skipped.advanced ∨ Done stream.advanced.skipped.advanced := by
      rcases cases with ⟨-, done, -⟩ | ⟨-, -, ⟨-, ahead⟩ | ⟨kind, closed, -⟩⟩
      · exact .inr done
      · exact .inl ahead
      · rw [isName] at closed
        cases closed
    rw [fit]
    dsimp only
    rw [if_neg (by decide), bind_apply, ensure_eq_ok_iff.mpr ⟨shown, by rwa [skipped_skipped], fit, rfl,
      by rw [skipped_skipped]⟩]
    dsimp only
    split
    · exact fun _ => ⟨_, mark, rfl, .inl member⟩
    · exact arguments_accounted onward named _
  · have missed : fits .identifier none shown = false := by simp [fits, isName]
    have inBlock : shown ∈ block := by
      rcases cases with ⟨kind, -⟩ | ⟨member, -⟩
      · exact absurd kind isName
      · exact member
    rw [missed]
    dsimp only
    rw [if_pos (by decide), bind_apply, failHere, bind_apply, peek_eq_ok_iff.mpr ⟨front', rfl⟩]
    exact fun _ => ⟨_, shown, rfl, .inl inBlock⟩

/-- Whatever is wrong with the annotations in front of a name is charged as wanted. -/
theorem parseAllFrom_accounted (attribution : Attribution) {tail : List Lexeme} (named : IsNamed tail name) (steps : Nat) :
    ∀ (found : Option Annotation) (stream : TokenStream), Ahead block tail stream ∨ Done stream →
      Accounted block tail.head? attribution (fun _ => True) (parseAllFrom attribution steps found stream) := by
  induction steps with
  | zero => exact fun _ _ _ refuses => refuses.elim
  | succ steps ih =>
    intro found stream state
    have front : ∃ shown, stream.skipped.front? = some shown ∧
        (shown.kind = .atSign → shown ∈ block ∧ Ahead block tail stream.skipped) := by
      rcases state with ahead | ⟨shown, front, kind⟩
      · obtain ⟨shown, front, ⟨kind, -⟩ | ⟨member, ahead, -⟩⟩ := ahead_named ahead named
        · exact ⟨shown, front, fun mark => absurd (kind.symm.trans mark) (by decide)⟩
        · exact ⟨shown, front, fun _ => ⟨member, ahead⟩⟩
      · refine ⟨shown, front, fun mark => ?_⟩
        rw [mark] at kind
        exact absurd kind (by decide)
    obtain ⟨shown, front, marked⟩ := front
    rw [parseAllFrom, bind_apply, peekedIs_eq_ok_iff.mpr ⟨shown, front, rfl, rfl⟩]
    by_cases mark : shown.kind = .atSign
    · obtain ⟨member, ahead⟩ := marked mark
      have fit : fits .atSign none shown = true := by simp [fits, mark]
      rw [fit]
      dsimp only
      rw [if_pos rfl, bind_apply, peek_eq_ok_iff.mpr ⟨front, rfl⟩]
      dsimp only
      have one := parse_accounted attribution front mark ahead named
      rw [bind_apply]
      cases run : Annotation.parse attribution stream.skipped with
      | ok mark left =>
        rw [run] at one
        dsimp only
        split
        · exact fun _ => ⟨_, shown, rfl, .inl member⟩
        · exact ih _ left one
      | error fault left =>
        rw [run] at one
        exact one
    · have missed : fits .atSign none shown = false := by simp [fits, mark]
      rw [missed]
      exact trivial

end Annotation

/-! ### Fields -/

/-- A name behind the tokens is the first one outside of parentheses that does not stand directly behind an at sign. -/
def LeadsToName (tokens : List Token) : Prop := NamesMarked tokens ∧ ¬ EndsMarked tokens

/-- The next tokens are nested annotations, and behind comments the name of a field with its colon. -/
structure Annotated (block gap : List Token) (name : Token) (stream : TokenStream) : Prop where
  nested : Nested block
  start : ∃ mark ∈ block.head?, mark.kind = .atSign
  comments : ∀ token ∈ gap, token.kind = .comment
  kind : name.kind = .identifier
  pending : ∃ (gap' : List Token) (colon : Token) (others : List Lexeme), (∀ token ∈ gap', token.kind = .comment) ∧
    colon.kind = .colon ∧ stream.pending = block.map .token ++
      (gap.map .token ++ .token name :: (gap'.map .token ++ .token colon :: others))

theorem nested_comments {gap : List Token} (comments : ∀ token ∈ gap, token.kind = .comment) : Nested gap := by
  induction gap with
  | nil => exact .nil
  | cons first gap ih =>
    have kind := comments first (by simp)
    exact .single (by rw [kind]; decide) (by rw [kind]; decide) (ih fun token member => comments token (by simp [member]))

/-- If the annotations of a field cannot be read, the fault is charged to the name of the field, at one of their tokens
or the one right behind them. -/
theorem namedField_charges {gap : List Token} {name : Token} {owner : String} {fault : Fault} {left : TokenStream}
    (sane : stream.Sane) (annotated : Annotated block gap name stream) (leads : LeadsToName (block ++ gap))
    (fails : Annotation.parseAll ⟨some owner, some name.value⟩ { stream with docs := "" } = .error fault left)
    (index : Nat) : Declaration.Parser.namedField owner index stream = .error fault left ∧
      Charged block ((gap ++ [name]).head?.map .token) ⟨some owner, some name.value⟩ fault := by
  obtain ⟨nested, ⟨mark, start, kind⟩, comments, isName, gap', colon, others, comments', last, pending⟩ := annotated
  obtain ⟨rest, rfl⟩ := List.head?_eq_some_iff.mp start
  have front : stream.front? = some mark := ( Annotation.front?_of_pending pending).1
  have still : stream.skipped = stream := skipped_eq_of_front? front (by rw [kind]; decide)
  have looked : lookaheadFieldName stream = .ok (some name.value) stream := by
    have whole : stream.pending = ((mark :: rest) ++ gap).map .token ++
        .token name :: (gap'.map .token ++ .token colon :: others) := by
      rw [pending]
      simp
    exact lookaheadFieldName_eq leads.1 (nested.append (nested_comments comments)) isName (by simp) leads.2 whole
  constructor
  · have fit : fits .atSign none mark = true := by simp [fits, kind]
    unfold Declaration.Parser.namedField
    rw [bind_apply, peekedIs_eq_ok_iff.mpr ⟨mark, by rwa [still], fit.symm, still.symm⟩]
    dsimp only
    rw [if_pos rfl, bind_apply, looked]
    dsimp only
    change ( Annotation.parseAll _ >>= _) { stream with docs := "" } = _
    rw [bind_apply, fails]
  · let tail := gap.map .token ++ .token name :: (gap'.map .token ++ .token colon :: others)
    have named : Annotation.IsNamed tail name :=
      ⟨gap, gap', colon, others, rfl, fun token member => (List.mem_append.mp member).elim (comments token)
        (comments' token), isName, last⟩
    have ahead : Ahead (mark :: rest) tail { stream with docs := "" } := ⟨_, pending, fun _ => id, nested⟩
    have accounted := Annotation.parseAllFrom_accounted ⟨some owner, some name.value⟩ named
      (stream.pending.length + 1) none _ (.inl ahead)
    have ended : Ended false stream.extent ( Annotation.parseAll ⟨some owner, some name.value⟩ { stream with docs := "" }) :=
      Annotation.ends_parseAll _ ⟨sane.fault, sane.stuck, sane.marked⟩ (Nat.le_refl _)
    rw [fails] at ended
    change Accounted _ _ _ _ ( Annotation.parseAll _ { stream with docs := "" }) at accounted
    rw [fails] at accounted
    have heads : tail.head? = (gap ++ [name]).head?.map .token := by
      cases gap <;> rfl
    rw [← heads]
    exact accounted ended.1

end

end CowView
