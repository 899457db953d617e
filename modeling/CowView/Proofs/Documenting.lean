import CowView.Proofs.Naming
import CowView.Proofs.Noting
import CowView.Proofs.Registering
import CowView.Proofs.Soundness

/-!
Which item a doc comment documents. The tokens of a text that is read are laid out as its declarations, variants and
fields are; each of these has the documentation in the last doc comment directly in front of it. Where there is none it
has what was noted last since documentation was given out, wherever that comment stands (`readUnit_documents`).
-/

namespace CowView

open TokenStream

/-! ### Layouts -/

structure Spans {α : Type} (action : Reading α) (tokens : List Token) (value : α) : Prop where
  solid : ∀ last ∈ tokens.getLast?, last.isComment = false
  reads : ∃ (stream left : TokenStream) (comments : List Token), action stream = .ok value left ∧ AllComments comments ∧
    stream.unread = (tokens ++ comments).map .token ++ left.unread

def lastDoc (comments : List Token) : Option String :=
  (comments.filter (DocComment.isDoc ·.value)).getLast?.map (DocComment.body ·.value)

theorem noted_eq_lastDoc {comments : List Token} (all : AllComments comments) (docs : String) :
    noted docs comments = (lastDoc comments).getD docs := by
  induction comments generalizing docs with
  | nil => rfl
  | cons first rest ih =>
    obtain ⟨own, others⟩ := List.forall_mem_cons.mp all
    have step : noted docs (first :: rest) = noted (Slot.commented docs first) rest := by
      rw [noted, List.foldl_cons, Slot.holding, Slot.past_comment own]
      rfl
    rw [step, ih others, lastDoc, lastDoc, List.filter_cons, Slot.commented]
    cases DocComment.isDoc first.value with
    | false => rfl
    | true =>
      simp only [if_true, List.getLast?_cons, Option.map_some, Option.getD_some]
      cases (rest.filter (DocComment.isDoc ·.value)).getLast? <;> rfl

def Marks (kind : TokenKind) (tokens : List Token) : Prop :=
  ∃ (comments : List Token) (mark : Token), tokens = comments ++ [mark] ∧ AllComments comments ∧ mark.kind = kind

inductive NamedLaid (stale : String) : List Token → Field → String → Prop
  | intro {own marks behind colon typed : List Token} {name : Token} {field : Field} {attribution : Attribution}
      {mark : Option Annotation} (before : AllComments own) (marked : Spans ( Annotation.parseAll attribution) marks mark)
      (starts : ∀ first ∈ marks.head?, first.kind = .atSign) (after : AllComments behind)
      (only : marks = [] → behind = []) (word : name.kind = .identifier) (named : field.name = some name.value)
      (separated : Marks .colon colon) (type : Spans TypeExpr.parse typed field.type)
      (docs : field.docs = if (noted "" (marks ++ behind)).isEmpty then (lastDoc own).getD stale else noted "" (marks ++ behind)) :
      NamedLaid stale (own ++ (marks ++ behind) ++ name :: (colon ++ typed)) field (noted "" (colon ++ typed))

inductive TupleLaid (stale : String) : List Token → Field → String → Prop
  | intro {own marks behind typed : List Token} {field : Field} {attribution : Attribution} {mark : Option Annotation}
      (before : AllComments own) (marked : Spans ( Annotation.parseAll attribution) marks mark)
      (starts : ∀ first ∈ marks.head?, first.kind = .atSign) (after : AllComments behind)
      (only : marks = [] → behind = []) (unnamed : field.name = none) (type : Spans TypeExpr.parse typed field.type)
      (docs : field.docs = (lastDoc own).getD stale) :
      TupleLaid stale (own ++ (marks ++ behind) ++ typed) field (noted "" (marks ++ behind ++ typed))

inductive ItemsLaid {β : Type} (Item : String → List Token → β → String → Prop) :
    String → List Token → List β → String → Prop
  | nil {stale : String} {closing : List Token} (closes : Marks .closeBrace closing) :
      ItemsLaid Item stale closing [] (noted stale closing)
  | cons {stale mid after : String} {tokens between rest : List Token} {item : β} {items : List β}
      (first : Item stale tokens item mid) (apart : between = [] ∨ Marks .comma between)
      (later : ItemsLaid Item (noted mid between) rest items after) :
      ItemsLaid Item stale (tokens ++ (between ++ rest)) (item :: items) after

inductive TuplesLaid : String → List Token → List Field → String → Prop
  | nil {stale : String} {closing : List Token} (closes : Marks .closeParen closing) :
      TuplesLaid stale closing [] (noted stale closing)
  | last {stale mid : String} {tokens closing : List Token} {field : Field} (first : TupleLaid stale tokens field mid)
      (closes : Marks .closeParen closing) : TuplesLaid stale (tokens ++ closing) [field] (noted mid closing)
  | cons {stale mid after : String} {tokens between rest : List Token} {field : Field} {fields : List Field}
      (first : TupleLaid stale tokens field mid) (apart : Marks .comma between)
      (later : TuplesLaid (noted mid between) rest fields after) :
      TuplesLaid stale (tokens ++ (between ++ rest)) (field :: fields) after

inductive FieldsLaid (stale : String) : List Token → FieldList → String → Prop
  | named {opening tokens : List Token} {fields : List Field} {after : String} (opens : Marks .openBrace opening)
      (laid : ItemsLaid NamedLaid (noted stale opening) tokens fields after) :
      FieldsLaid stale (opening ++ tokens) ⟨fields, .named⟩ after
  | tuple {opening tokens : List Token} {fields : List Field} {after : String} (opens : Marks .openParen opening)
      (laid : TuplesLaid (noted stale opening) tokens fields after) :
      FieldsLaid stale (opening ++ tokens) ⟨fields, .tuple⟩ after
  | unit : FieldsLaid stale [] ⟨[], .unit⟩ stale

inductive VariantLaid (stale : String) : List Token → Variant → String → Prop
  | intro {own tokens : List Token} {name : Token} {fields : FieldList} {after : String} (before : AllComments own)
      (word : name.kind = .identifier) (laid : FieldsLaid "" tokens fields after) :
      VariantLaid stale (own ++ name :: tokens) ⟨name.value, fields.ofVariant, (lastDoc own).getD stale⟩ after

inductive BodyLaid (stale : String) : List Token → Body → String → Prop
  | record {tokens : List Token} {fields : FieldList} {after : String} (laid : FieldsLaid stale tokens fields after) :
      BodyLaid stale tokens (.record fields) after
  | union {opening tokens : List Token} {variants : List Variant} {after : String} (opens : Marks .openBrace opening)
      (laid : ItemsLaid VariantLaid (noted stale opening) tokens variants after) :
      BodyLaid stale (opening ++ tokens) (.union variants) after

inductive DeclarationLaid (stale : String) : List Token → Declaration → String → Prop
  | intro {own apart header tokens : List Token} {keyword name : Token} {declaration : Declaration} {after : String}
      (before : AllComments own) (starts : keyword.kind = .identifier)
      (kind : keyword.value = declaration.body.keyword) (between : AllComments apart) (word : name.kind = .identifier)
      (named : declaration.name = name.value)
      (parameters : Spans Declaration.Parser.generics header declaration.parameters)
      (laid : BodyLaid (noted "" (apart ++ name :: header)) tokens declaration.body after)
      (docs : declaration.docs = (lastDoc own).getD stale) :
      DeclarationLaid stale (own ++ keyword :: (apart ++ name :: header) ++ tokens) declaration after

inductive UnitLaid : String → List Token → List Declaration → String → Prop
  | nil {stale : String} : UnitLaid stale [] [] stale
  | separator {stale after : String} {mark rest : List Token} {declarations : List Declaration}
      (semicolon : Marks .semicolon mark) (later : UnitLaid (noted stale mark) rest declarations after) :
      UnitLaid stale (mark ++ rest) declarations after
  | cons {stale mid after : String} {tokens rest : List Token} {declaration : Declaration}
      {declarations : List Declaration} (first : DeclarationLaid stale tokens declaration mid)
      (later : UnitLaid mid rest declarations after) :
      UnitLaid stale (tokens ++ rest) (declaration :: declarations) after

/-! ### Annotations and parameters -/

section

variable {α β : Type} {lexemes : List Lexeme} {docs : String} {place : Place} {kind : TokenKind}

namespace Notes

variable {before after : TokenStream → Prop}

theorem peeked {token : Token} {next : Token → Reading β} (later : Notes (Before lexemes docs place token) after (next token)) :
    Notes (Before lexemes docs place token) after (TokenStream.peek >>= next) := by
  rintro stream value left ⟨stands, shown⟩ read
  obtain ⟨found, _, one, two⟩ := bind_eq_ok read
  obtain ⟨front, rfl⟩ := peek_eq_ok_iff.mp one
  obtain rfl : token = found := Option.some.inj (shown.symm.trans front)
  exact later ⟨stands, shown⟩ two

theorem seen {next : Token → Reading β} (later : ∀ token, Notes before after (next token)) :
    Notes before after (TokenStream.peek >>= next) := by
  intro stream value left stands read
  obtain ⟨found, _, one, two⟩ := bind_eq_ok read
  obtain ⟨-, rfl⟩ := peek_eq_ok_iff.mp one
  exact later found stands two

theorem got {next : TokenStream → Reading β} (later : ∀ stream, Notes before after (next stream)) :
    Notes before after (MonadStateOf.get >>= next) := by
  intro stream value left stands read
  exact later stream stands read

theorem never {action : Reading α} (fails : ∀ stream left value, action stream ≠ .ok value left) :
    Notes before after action :=
  fun _ _ _ _ read => absurd read (fails _ _ _)

end Notes

theorem notes_parse : Notes (At lexemes docs .clear) (At lexemes docs .anywhere) TypeExpr.parse :=
  .got fun _ => (TypeExpr.Parser.noting lexemes docs _).type .clear (by decide)

theorem notes_parseBounds : Notes (At lexemes docs .clear) (At lexemes docs .anywhere) TypeExpr.parseBounds :=
  .got fun _ => (TypeExpr.Parser.noting lexemes docs _).bounds

namespace Annotation

variable {attribution : Attribution}

theorem notes_orOnSource {before after : TokenStream → Prop} {action other : Reading α} (first : Notes before after action)
    (second : ∀ stream left value, other stream ≠ .ok value left) : Notes before after (orOnSource action other) := by
  intro stream value left stands read
  unfold orOnSource at read
  split at read
  · exact absurd read (second _ _ _)
  · exact first stands read

theorem notes_item (mark : Annotation) (isFirst : Bool) (token : Token) :
    Notes (At lexemes docs .clear) (At lexemes docs .anywhere) (item attribution mark isFirst token) := by
  have subject : Notes (At lexemes docs .clear) (At lexemes docs .anywhere) subject :=
    .bind notes_peekedIs fun found => .ite TypeExpr.Parser.notes_lifetime.anywhere.last notes_parse
  refine (notes_orOnSource subject fun _ _ _ read => by cases read).bind fun found => ?_
  refine .tested (by decide) (by decide) (fun _ => rfl) ?_ ?_
  · exact (notes_orOnSource notes_parseBounds failHere_ne_ok).bind fun _ => .pure _
  · split
    · exact .ite (.pure _) .throw
    · exact .never failHere_ne_ok

theorem notes_items (steps : Nat) (mark : Annotation) (isFirst : Bool) :
    Notes (At lexemes docs .clear) (At lexemes docs .clear) (items attribution steps mark isFirst) := by
  induction steps generalizing mark isFirst with
  | zero => exact .throw
  | succ steps ih =>
    rw [items]
    refine .tested (by decide) (by decide) nofun (.pure _) (.seen fun token => .ite .throw ?_)
    refine (notes_item mark isFirst token).bind fun mark => ?_
    refine .tested (by decide) (by decide) (fun _ => rfl) (ih mark false) ?_
    exact .tested (by decide) (by decide) (fun _ => rfl) (.pure _) (.never failHere_ne_ok)

theorem notes_mark {token : Token} (at_ : token.kind = .atSign) :
    Notes (Before lexemes docs place token) (At lexemes docs .clear) (parse attribution) := by
  unfold parse
  refine .moved (by rw [at_]; decide) (by rw [at_]; decide) (fun _ => by rw [at_]; rfl) ?_
  refine notes_peekedIs.bind fun found => ?_
  have named : Notes (At lexemes docs .clear) (At lexemes docs .clear) (do
      let name ← ensure .identifier
      if name ≠ keyword then
        throw (fault attribution (.unknownName name) token)
      let mark : Annotation := ⟨none, [], token.position⟩
      if ← nextIs .openParen then
        items attribution ((← get).pending.length + 1) mark true
      else
        return mark) := by
    refine .bind (notes_ensure (by decide) (by decide) nofun) fun name => .ite .throw ?_
    exact .tested (by decide) (by decide) nofun (.got fun _ => notes_items _ _ _) (.pure _)
  cases found with
  | false => exact .never fun stream left value read => failHere_ne_ok _ _ _ (bind_eq_ok read).choose_spec.choose_spec.1
  | true => exact named

theorem notes_parseAllFrom (steps : Nat) (found : Option Annotation) :
    Notes (At lexemes docs .clear) (At lexemes docs .clear) (parseAllFrom attribution steps found) := by
  induction steps generalizing found with
  | zero => exact .throw
  | succ steps ih =>
    rw [parseAllFrom]
    refine .glanced (fun token at_ => .peeked ((notes_mark at_).bind fun mark => .ite .throw (ih _))) (.pure _)

theorem notes_parseAll : Notes (At lexemes docs .clear) (At lexemes docs .clear) (parseAll attribution) :=
  .got fun _ => notes_parseAllFrom _ _

end Annotation

namespace Declaration.Parser

theorem notes_introduced (role : String) (isMember : Bool) :
    Notes (At lexemes docs .clear) (At lexemes docs .clear) (introduced role isMember) := by
  refine .bind (notes_ensure (by decide) (by decide) nofun) fun name => ?_
  split
  · exact .pure _
  · exact .throw

theorem notes_parameterBounds : Notes (At lexemes docs .clear) (At lexemes docs .anywhere) parameterBounds :=
  .tested (by decide) (by decide) nofun notes_parseBounds (Notes.pure _).anywhere

theorem notes_parameter : Notes (At lexemes docs .clear) (At lexemes docs .anywhere) parameter := by
  refine notes_peekedIs.bind fun found => .ite ?_ (.tested (by decide) (by decide) nofun ?_ ?_)
  · exact TypeExpr.Parser.notes_lifetime.bind fun _ => notes_parameterBounds.last
  · refine .bind (notes_ensure (by decide) (by decide) nofun) fun name => ?_
    exact .bind (notes_ensure (by decide) (by decide) nofun) fun _ => notes_parse.last
  · exact (notes_introduced _ _).bind fun _ => notes_parameterBounds.last

theorem notes_parameters (steps : Nat) : Notes (At lexemes docs .clear) (At lexemes docs .clear) (parameters steps) := by
  induction steps with
  | zero => exact .throw
  | succ steps ih =>
    rw [parameters]
    refine .tested (by decide) (by decide) nofun (.pure _) (notes_parameter.bind fun first => ?_)
    refine .tested (by decide) (by decide) (fun _ => rfl) ih.last ?_
    exact .bind (notes_ensure (by decide) (by decide) fun _ => rfl) fun _ => .pure _

theorem notes_ensureDistinct {before : TokenStream → Prop} (names : List String)
    (problem : String → DeclarationProblem) : Notes before before (ensureDistinct names problem) := by
  unfold ensureDistinct
  split
  · exact .throw
  · exact .pure _

theorem notes_generics : Notes (At lexemes docs .clear) (At lexemes docs .clear) generics := by
  refine (notes_nextIs (by decide) (by decide)).bind fun found => .ite (.pure _) (.got fun stream => ?_)
  refine Notes.bind (notes_parameters _) fun found => ?_
  exact (notes_ensureDistinct _ _).bind fun _ => .pure _

theorem notes_consume : Notes (At lexemes docs .clear) (At lexemes docs .clear) (consume .semicolon) := by
  have within (steps : Nat) : Notes (At lexemes docs .clear) (At lexemes docs .clear) (consumeWithin .semicolon steps) := by
    induction steps with
    | zero => exact .throw
    | succ steps ih => exact .tested (by decide) (by decide) nofun ih (.pure _)
  exact .got fun _ => within _

theorem notes_qualifiedName : Notes (At lexemes docs .clear) (At lexemes docs .clear) (TokenStream.qualifiedName .dot) := by
  have further (steps : Nat) (name : String) :
      Notes (At lexemes docs .clear) (At lexemes docs .clear) (qualifiedNameFrom .dot steps name) := by
    induction steps generalizing name with
    | zero => exact .throw
    | succ steps ih =>
      refine .tested (by decide) (by decide) nofun ?_ (.pure _)
      exact .bind (notes_ensure (by decide) (by decide) nofun) fun part => ih _
  exact .bind (notes_ensure (by decide) (by decide) nofun) fun first => .got fun _ => further _ _

theorem notes_leading : Notes (At lexemes docs .clear) (At lexemes docs .clear) leading := by
  refine .tested (by decide) (by decide) nofun ?_ notes_consume.last
  exact notes_qualifiedName.bind fun name => notes_consume.last

end Declaration.Parser

end

/-! ### Steps of a layout -/

section

variable {α : Type} {lexemes : List Lexeme} {stale docs : String} {comments : List Token} {stream left : TokenStream}
  {kind : TokenKind} {wanted : Option String}

theorem lastDocs_ok (read : lastDocs true stream = .ok docs left) :
    docs = stream.docs ∧ left = { stream with docs := "" } := by
  cases read
  exact ⟨rfl, rfl⟩

namespace Stands

theorem carried (parts : lexemes = comments.map .token ++ stream.unread) (passed : AllComments comments)
    (notes : stream.docs = noted stale comments) : Stands lexemes stale [] comments false stream :=
  ⟨parts, passed, nofun, rfl, notes⟩

theorem marked {token : Token} (stands : Stands lexemes stale [] comments false stream)
    (shown : stream.skipped.front? = some token) (solid : token.kind.IsSolid) :
    ∃ tokens : List Token, Marks token.kind tokens ∧ lexemes = tokens.map .token ++ stream.skipped.advanced.unread ∧
      stream.skipped.advanced.docs = noted stale tokens := by
  obtain ⟨more, all, later, -⟩ := stands.skipped
  have taken := later.advanced shown solid.1 (isComment_of_isSolid solid) nofun
  exact ⟨_, ⟨_, token, rfl, List.forall_mem_append.mpr ⟨stands.passed, all⟩, rfl⟩, by simpa using taken.parts,
    taken.notes⟩

theorem spans {action : Reading α} {value : α} {tokens : List Token} {bang : Bool}
    (stands : Stands stream.unread docs tokens comments bang left) (read : action stream = .ok value left) :
    Spans action tokens value :=
  ⟨stands.solid, stream, left, comments, read, stands.passed, stands.parts⟩

theorem carry {tokens : List Token} {bang : Bool} (stands : Stands lexemes docs tokens comments bang stream) :
    ∃ rest, lexemes = tokens.map .token ++ rest ∧ Stands rest (noted docs tokens) [] comments false stream :=
  ⟨comments.map .token ++ stream.unread, by rw [stands.parts]; simp, .carried rfl stands.passed stands.notes⟩

/-- Behind the comments no group is open and the last token is no bang. -/
theorem closed {tokens : List Token} (stands : Stands lexemes docs tokens comments false stream) (more : List Token) :
    stream.docs = noted docs (tokens ++ comments) ∧
      noted docs (tokens ++ comments ++ more) = noted stream.docs more := by
  have own : noted docs (tokens ++ comments) = stream.docs := by
    rw [noted_append stands.slot, stands.notes]
  refine ⟨own.symm, ?_⟩
  rw [List.append_assoc, noted_append stands.slot, noted_comments stands.passed, stands.notes]

end Stands

theorem Marks.noted_append {tokens : List Token} (marks : Marks kind tokens) (solid : kind.IsSolid)
    (other : kind ≠ .bang) (more : List Token) : noted docs (tokens ++ more) = noted (noted docs tokens) more := by
  obtain ⟨comments, mark, rfl, all, rfl⟩ := marks
  have slot : (comments ++ [mark]).foldl Slot.past (.holding docs) = .holding (noted docs comments) := by
    rw [List.foldl_append, Slot.holding, Slot.foldl_comments all, Bool.false_and, List.foldl_cons, List.foldl_nil,
      Slot.past_solid (isComment_of_isSolid solid) (absurd · Bool.false_ne_true), decide_eq_false other]
    rfl
  have same : noted docs (comments ++ [mark]) = (Slot.holding (noted docs comments)).docs := congrArg Slot.docs slot
  refine CowView.noted_append ?_ more
  rw [slot, same, Slot.holding]

def Lays (Layout : String → List Token → α → String → Prop) (action : Reading α) : Prop :=
  ∀ ⦃lexemes stale comments stream value left⦄, Stands lexemes stale [] comments false stream →
    action stream = .ok value left → ∃ (tokens : List Token) (rest : List Lexeme) (after : String)
      (comments' : List Token), lexemes = tokens.map .token ++ rest ∧ Stands rest after [] comments' false left ∧
        Layout stale tokens value after

theorem nextIs_marks (stands : Stands lexemes stale [] comments false stream) (solid : kind.IsSolid)
    (read : nextIs kind wanted stream = .ok true left) : ∃ tokens : List Token, Marks kind tokens ∧
      lexemes = tokens.map .token ++ left.unread ∧ left.docs = noted stale tokens := by
  obtain ⟨token, shown, fit, rfl⟩ := nextIs_eq_ok_iff.mp read
  obtain rfl := kind_of_fits fit.symm
  exact stands.marked shown solid

theorem nextIs_passes (stands : Stands lexemes stale [] comments false stream)
    (read : nextIs kind wanted stream = .ok false left) :
    ∃ comments, Stands lexemes stale [] comments false left := by
  obtain ⟨-, -, -, rfl⟩ := nextIs_eq_ok_iff.mp read
  obtain ⟨more, -, later, -⟩ := stands.skipped
  exact ⟨_, later⟩

theorem ensure_marks {value : String} (stands : Stands lexemes stale [] comments false stream) (solid : kind.IsSolid)
    (read : ensure kind wanted false stream = .ok value left) : ∃ tokens : List Token, Marks kind tokens ∧
      lexemes = tokens.map .token ++ left.unread ∧ left.docs = noted stale tokens := by
  obtain ⟨token, shown, fit, -, rfl⟩ := ensure_eq_ok_iff.mp read
  obtain rfl := kind_of_fits fit
  exact stands.marked shown solid

theorem nextIs_between {found : Bool} (stands : Stands lexemes stale [] comments false stream) (solid : kind.IsSolid)
    (read : nextIs kind wanted stream = .ok found left) : ∃ (between : List Token) (rest : List Lexeme)
      (comments' : List Token), (between = [] ∨ Marks kind between) ∧ lexemes = between.map .token ++ rest ∧
        Stands rest (noted stale between) [] comments' false left := by
  cases found with
  | false =>
    obtain ⟨comments', later⟩ := nextIs_passes stands read
    exact ⟨[], lexemes, comments', .inl rfl, rfl, later⟩
  | true =>
    obtain ⟨tokens, marks, parts, notes⟩ := nextIs_marks stands solid read
    exact ⟨tokens, left.unread, [], .inr marks, parts, .carried rfl nofun notes⟩

namespace TokenStream

theorem front?_of_unread {token : Token} {rest : List Lexeme} (same : stream.unread = .token token :: rest) :
    stream.front? = some token := by
  rw [unread] at same
  cases pending : stream.pending with
  | nil =>
    rw [pending] at same
    cases same
  | cons first others =>
    rw [pending, List.takeWhile_cons] at same
    split at same
    · exact front?_cons (pending.trans (by rw [(List.cons.inj same).1]))
    · cases same

theorem Settled.of_unread (settled : stream.Settled) (same : left.unread = stream.unread) : left.Settled := by
  intro token shown
  cases comment : token.isComment with
  | false => rfl
  | true =>
    have kind : token.kind = .comment := by simpa [Token.isComment] using comment
    have unread := unread_of_front? shown (by rw [kind]; decide)
    rw [same] at unread
    rw [settled token (front?_of_unread unread)] at comment
    cases comment

theorem Settled.skipped_eq (settled : stream.Settled) : stream.skipped.unread = stream.unread ∧
    stream.skipped.docs = stream.docs ∧ stream.skipped.front? = stream.front? := by
  obtain ⟨more, all, pending, notes, -⟩ := exists_dropped stream
  cases more with
  | nil =>
    have same : stream.pending = stream.skipped.pending := pending
    refine ⟨by rw [unread, ← same, unread], notes, ?_⟩
    rw [front?, ← same, front?]
    rfl
  | cons first rest =>
    have plain := settled first (front?_cons pending)
    rw [all first List.mem_cons_self] at plain
    cases plain

theorem settled_skipped (stream : TokenStream) : stream.skipped.Settled := (exists_dropped stream).choose_spec.2.2.2

def TakenAhead (seen seen' : List Token) (stream left : TokenStream) : Prop :=
  ∃ taken : List Token, seen' = taken ++ seen ∧ left.docs = stream.docs ∧
    (stream.pending = taken.reverse.map .token ++ left.pending ∨ ∃ (last : Token) (before : List Token),
      last.kind = .endOfInput ∧ taken = last :: before ∧ stream.pending = before.reverse.map .token ∧ left.pending = [])

theorem takenAhead_one {token : Token} (seen : List Token) (shown : stream.front? = some token) :
    TakenAhead seen (token :: seen) stream stream.advanced := by
  refine ⟨[token], rfl, rfl, ?_⟩
  unfold front? at shown
  split at shown
  next first rest pending =>
    cases shown
    exact .inl (by simp [advanced, pending])
  next pending _ =>
    cases shown
    exact .inr ⟨_, [], rfl, rfl, pending, by simp [advanced, pending]⟩
  · cases shown

theorem TakenAhead.cons {token : Token} {seen seen' : List Token} (shown : stream.front? = some token)
    (more : token.kind ≠ .endOfInput) (later : TakenAhead (token :: seen) seen' stream.advanced left) :
    TakenAhead seen seen' stream left := by
  obtain ⟨taken, rfl, notes, parts⟩ := later
  have pending := pending_of_front? shown more
  refine ⟨taken ++ [token], by simp, notes, parts.imp (fun same => ?_) ?_⟩
  · rw [pending, same]
    simp
  · rintro ⟨last, before, ends, rfl, same, none⟩
    refine ⟨last, before ++ [token], ends, rfl, ?_, none⟩
    rw [pending, same]
    simp

theorem lookaheadFrom_taken {steps : Nat} : ∀ {depth : Int} {seen seen' : List Token} {name : Option String}
    {stream left : TokenStream}, lookaheadFrom steps depth seen stream = .ok (name, seen') left →
      TakenAhead seen seen' stream left := by
  induction steps with
  | zero => exact fun read => by cases read
  | succ steps ih =>
    intro depth seen seen' name stream left read
    rw [lookaheadFrom] at read
    obtain ⟨token, _, one, two⟩ := bind_eq_ok read
    obtain ⟨shown, rfl⟩ := next_eq_ok_iff.mp one
    cases kind : token.kind with
    | endOfInput =>
      rw [kind] at two
      cases two
      exact takenAhead_one seen shown
    | identifier =>
      rw [kind] at two
      dsimp only at two
      split at two
      · cases two
        exact takenAhead_one seen shown
      · exact .cons shown (by rw [kind]; decide) (ih two)
    | _ =>
      rw [kind] at two
      exact .cons shown (by rw [kind]; decide) (ih two)

theorem lookaheadFieldName_unread {label : Option String} (read : lookaheadFieldName stream = .ok label left) :
    left.unread = stream.unread ∧ left.docs = stream.docs := by
  obtain ⟨_, _, got, read⟩ := bind_eq_ok read
  cases got
  obtain ⟨⟨name, seen⟩, behind, ahead, read⟩ := bind_eq_ok read
  obtain ⟨taken, rfl, notes, parts⟩ := lookaheadFrom_taken ahead
  obtain ⟨_, _, back, last⟩ := bind_eq_ok read
  rw [forM_unget] at back
  cases back
  cases last
  refine ⟨?_, notes⟩
  rcases parts with same | ⟨last, before, ends, rfl, same, none⟩
  · rw [unread, unread, same]
    simp
  · have stops : [Lexeme.token last].takeWhile Lexeme.isText = [] := by simp [Lexeme.isText, ends]
    rw [unread, unread, same, none]
    simp only [List.append_nil, List.reverse_cons, List.map_append, List.map_cons, List.map_nil]
    rw [List.takeWhile_append, stops, List.append_nil]
    split
    next all => exact ((List.takeWhile_sublist _).eq_of_length all).symm
    · rfl

end TokenStream

/-! ### Fields -/

theorem parse_laid {type : TypeExpr} (read : TypeExpr.parse stream = .ok type left) :
    ∃ (tokens : List Token) (rest : List Lexeme) (comments : List Token), Spans TypeExpr.parse tokens type ∧
      stream.unread = tokens.map .token ++ rest ∧ Stands rest (noted stream.docs tokens) [] comments false left := by
  obtain ⟨tokens, comments, bang, stands⟩ := notes_parse ⟨[], [], .start stream⟩ read
  obtain ⟨rest, parts, later⟩ := stands.carry
  exact ⟨tokens, rest, comments, stands.spans read, parts, later⟩

namespace Annotation

variable {attribution : Attribution}

theorem parseAll_settled {mark : Option Annotation} (read : parseAll attribution stream = .ok mark left) :
    left.Settled := by
  have from_ (steps : Nat) : ∀ {found mark : Option Annotation} {stream left : TokenStream},
      parseAllFrom attribution steps found stream = .ok mark left → left.Settled := by
    induction steps with
    | zero => exact fun read => by cases read
    | succ steps ih =>
      intro found mark stream left read
      rw [parseAllFrom] at read
      obtain ⟨more, mid, one, two⟩ := bind_eq_ok read
      obtain ⟨token, shown, -, rfl⟩ := peekedIs_eq_ok_iff.mp one
      cases more with
      | false =>
        cases two
        exact settled_skipped stream
      | true =>
        obtain ⟨token, _, -, two⟩ := bind_eq_ok two
        obtain ⟨first, behind, -, two⟩ := bind_eq_ok two
        cases found with
        | none => exact ih two
        | some => cases two
  obtain ⟨_, _, got, read⟩ := bind_eq_ok read
  cases got
  exact from_ _ read

theorem parseAll_unmarked {mark : Option Annotation} {token : Token} (shown : stream.skipped.front? = some token)
    (other : token.kind ≠ .atSign) (read : parseAll attribution stream = .ok mark left) : left = stream.skipped := by
  obtain ⟨_, _, got, read⟩ := bind_eq_ok read
  cases got
  rw [parseAllFrom] at read
  obtain ⟨more, mid, one, two⟩ := bind_eq_ok read
  obtain ⟨first, front, found, rfl⟩ := peekedIs_eq_ok_iff.mp one
  obtain rfl : token = first := Option.some.inj (shown.symm.trans front)
  have missed : more = false := by rw [found]; simp [fits, other]
  rw [missed] at two
  cases two
  rfl

theorem parseAll_laid {mark : Option Annotation} (settled : stream.Settled)
    (read : parseAll attribution stream = .ok mark left) : ∃ marks behind : List Token,
      Spans (parseAll attribution) marks mark ∧ (∀ first ∈ marks.head?, first.kind = .atSign) ∧ AllComments behind ∧
        (marks = [] → behind = []) ∧ stream.unread = (marks ++ behind).map .token ++ left.unread ∧
          left.docs = noted stream.docs (marks ++ behind) ∧
            ∀ more, noted stream.docs (marks ++ behind ++ more) = noted left.docs more := by
  obtain ⟨marks, behind, stands⟩ := notes_parseAll ⟨[], [], .start stream⟩ read
  have only : marks = [] → behind = [] := by
    rintro rfl
    cases behind with
    | nil => rfl
    | cons first rest =>
      have plain := settled first (front?_of_unread stands.parts)
      rw [stands.passed first List.mem_cons_self] at plain
      cases plain
  refine ⟨marks, behind, stands.spans read, fun first member => ?_, stands.passed, only, stands.parts,
    (stands.closed []).1, fun more => (stands.closed more).2⟩
  obtain ⟨rest, rfl⟩ : ∃ rest, marks = first :: rest := by
    cases marks with
    | nil => cases member
    | cons other rest =>
      cases member
      exact ⟨rest, rfl⟩
  have shown : stream.skipped.front? = some first := by
    rw [settled.skipped_eq.2.2]
    exact front?_of_unread stands.parts
  by_contra other
  have parts := stands.parts
  rw [parseAll_unmarked shown other read, settled.skipped_eq.1] at parts
  have length := congrArg List.length parts
  simp only [List.length_append, List.length_map, List.length_cons] at length
  omega

end Annotation

namespace Declaration.Parser

variable {owner : String}

theorem field_ok {name : Option String} {index : Nat} {type : TypeExpr} {mark : Option Annotation} {docs : String}
    {found : Field} (read : field owner name index type mark docs stream = .ok found left) :
    found.name = name ∧ found.type = type ∧ found.docs = docs ∧ left = stream := by
  unfold field at read
  dsimp only at read
  cases known : Strategy.ofTag? ((mark.bind (·.strategy)).getD Strategy.regular.tag) with
  | none =>
    rw [known] at read
    cases read
  | some strategy =>
    rw [known] at read
    cases read
    exact ⟨rfl, rfl, rfl, rfl⟩

theorem introduced_ok {role : String} {isMember : Bool} {found : String}
    (read : introduced role isMember stream = .ok found left) : ∃ name : Token,
      stream.skipped.front? = some name ∧ name.kind = .identifier ∧ found = name.value ∧ left = stream.skipped.advanced := by
  obtain ⟨value, mid, one, two⟩ := bind_eq_ok read
  obtain ⟨name, shown, fit, rfl, rfl⟩ := ensure_eq_ok_iff.mp one
  cases given : publicName role name.value isMember with
  | ok value =>
    rw [given] at two
    cases two
    exact ⟨name, shown, kind_of_fits fit, (publicName_eq_ok given).1, rfl⟩
  | error fault =>
    rw [given] at two
    cases two

theorem introduced_settled {role : String} {isMember : Bool} {found : String} (settled : stream.Settled)
    (read : introduced role isMember stream = .ok found left) : ∃ name : Token, name.kind = .identifier ∧
      found = name.value ∧ stream.unread = .token name :: left.unread ∧ left.docs = stream.docs := by
  obtain ⟨name, shown, word, rfl, rfl⟩ := introduced_ok read
  refine ⟨name, word, rfl, ?_, settled.skipped_eq.2.1⟩
  rw [← settled.skipped_eq.1]
  exact unread_of_front? shown (by rw [word]; decide)

theorem namedField_laid {index : Nat} {lexemes : List Lexeme} {stale : String} {own : List Token} {value : Field}
    (label : Option String) (stands : Stands lexemes stale [] own false stream) (settled : stream.Settled)
    (read : (do
      let docsBefore ← lastDocs
      let mark ← Annotation.parseAll ⟨some owner, label⟩
      let docsAfter ← lastDocs
      let docs := if docsAfter.isEmpty then docsBefore else docsAfter
      let name ← introduced "field" true
      let _ ← ensure .colon
      field owner (some name) index (← TypeExpr.parse) mark docs : Reading Field) stream = .ok value left) :
    ∃ (tokens : List Token) (rest : List Lexeme) (after : String) (comments : List Token),
      lexemes = tokens.map .token ++ rest ∧ Stands rest after [] comments false left ∧
        NamedLaid stale tokens value after := by
  obtain ⟨docsBefore, mid, one, read⟩ := bind_eq_ok read
  obtain ⟨rfl, rfl⟩ := lastDocs_ok one
  obtain ⟨mark, behind, two, read⟩ := bind_eq_ok read
  have bare : Settled { stream with docs := "" } := settled.of_unread rfl
  obtain ⟨marks, after, marked, starts, passed, only, parts, notes, -⟩ := Annotation.parseAll_laid bare two
  obtain ⟨docsAfter, mid, three, read⟩ := bind_eq_ok read
  obtain ⟨rfl, rfl⟩ := lastDocs_ok three
  obtain ⟨label, named, four, read⟩ := bind_eq_ok read
  have bare' : Settled { behind with docs := "" } := ( Annotation.parseAll_settled two).of_unread rfl
  obtain ⟨name, word, rfl, parts', notes'⟩ := introduced_settled bare' four
  obtain ⟨_, typing, five, read⟩ := bind_eq_ok read
  obtain ⟨colon, separated, parts'', notes''⟩ := ensure_marks (.start named) (by decide) five
  obtain ⟨type, done, six, read⟩ := bind_eq_ok read
  obtain ⟨typed, rest, comments, spans, parts''', later⟩ := parse_laid six
  obtain ⟨called, rfl, docs, rfl⟩ := field_ok read
  have leak : noted "" (colon ++ typed) = noted typing.docs typed := by
    rw [separated.noted_append (by decide) (by decide), notes'', notes']
  have same : lexemes = (own ++ (marks ++ after) ++ name :: (colon ++ typed)).map .token ++ rest := by
    calc lexemes
      _ = own.map .token ++ stream.unread := stands.parts
      _ = own.map .token ++ ((marks ++ after).map .token ++ behind.unread) := congrArg _ parts
      _ = own.map .token ++ ((marks ++ after).map .token ++ .token name :: named.unread) := by rw [← parts']; rfl
      _ = _ := by
        rw [parts'', parts''']
        simp
  refine ⟨_, rest, _, comments, same, ?_, .intro stands.passed marked starts passed only word called separated spans ?_⟩
  · rwa [leak]
  · rw [docs, notes, stands.notes, noted_eq_lastDoc stands.passed]
    rfl

theorem lays_namedField (index : Nat) : Lays NamedLaid (namedField owner index) := by
  intro lexemes stale comments stream value left stands read
  obtain ⟨isMarked, mid, one, two⟩ := bind_eq_ok read
  obtain ⟨-, -, -, rfl⟩ := peekedIs_eq_ok_iff.mp one
  obtain ⟨more, -, stands, -⟩ := stands.skipped
  have settled := settled_skipped stream
  cases isMarked with
  | false => exact namedField_laid none stands settled two
  | true =>
    obtain ⟨label, start, ahead, read⟩ := bind_eq_ok two
    obtain ⟨same, notes⟩ := lookaheadFieldName_unread ahead
    have stands' : Stands lexemes stale [] (comments ++ more) false start :=
      .carried (by rw [stands.parts, same, List.nil_append]) stands.passed (notes.trans stands.notes)
    exact namedField_laid label stands' (settled.of_unread same) read

theorem lays_tupleField (index : Nat) : Lays TupleLaid (tupleField owner index) := by
  intro lexemes stale comments stream value left stands read
  obtain ⟨_, mid, one, read⟩ := bind_eq_ok read
  obtain ⟨-, -, -, rfl⟩ := peekedIs_eq_ok_iff.mp one
  obtain ⟨more, -, stands, -⟩ := stands.skipped
  obtain ⟨docs, mid, two, read⟩ := bind_eq_ok read
  obtain ⟨rfl, rfl⟩ := lastDocs_ok two
  obtain ⟨mark, behind, three, read⟩ := bind_eq_ok read
  have bare : Settled { stream.skipped with docs := "" } := (settled_skipped stream).of_unread rfl
  obtain ⟨marks, after, marked, starts, passed, only, parts, -, closed⟩ := Annotation.parseAll_laid bare three
  obtain ⟨type, done, four, read⟩ := bind_eq_ok read
  obtain ⟨typed, rest, comments', spans, parts', later⟩ := parse_laid four
  obtain ⟨unnamed, rfl, docs, rfl⟩ := field_ok read
  have same : lexemes = (comments ++ more ++ (marks ++ after) ++ typed).map .token ++ rest := by
    calc lexemes
      _ = (comments ++ more).map .token ++ stream.skipped.unread := stands.parts
      _ = (comments ++ more).map .token ++ ((marks ++ after).map .token ++ behind.unread) := congrArg _ parts
      _ = _ := by
        rw [parts']
        simp
  refine ⟨_, rest, _, comments', same, ?_, .intro stands.passed marked starts passed only unnamed spans ?_⟩
  · rwa [closed typed]
  · rw [docs, stands.notes, noted_eq_lastDoc stands.passed]
    rfl

theorem itemsLaid_step {β : Type} {Item : String → List Token → β → String → Prop} {item : Reading β}
    {items : Reading (List β)} (first : Lays Item item) (later : Lays (ItemsLaid Item) items) :
    Lays (ItemsLaid Item) (do
      if ← nextIs .closeBrace then
        return []
      let found ← item
      let _ ← nextIs .comma
      return found :: (← items)) := by
  intro lexemes stale comments stream value left stands read
  obtain ⟨closes, mid, one, read⟩ := bind_eq_ok read
  cases closes with
  | true =>
    obtain ⟨closing, marks, parts, notes⟩ := nextIs_marks stands (by decide) one
    cases read
    exact ⟨closing, _, _, [], parts, .carried rfl nofun notes, .nil marks⟩
  | false =>
    obtain ⟨comments, stands⟩ := nextIs_passes stands one
    obtain ⟨found, behind, two, read⟩ := bind_eq_ok read
    obtain ⟨tokens, rest, mid, comments, parts, stands', laid⟩ := first stands two
    obtain ⟨_, apart, three, read⟩ := bind_eq_ok read
    obtain ⟨between, rest', comments', comma, parts', further⟩ := nextIs_between stands' (by decide) three
    obtain ⟨others, last, four, read⟩ := bind_eq_ok read
    obtain ⟨tokens', rest'', after, comments'', parts'', end_, laid'⟩ := later further four
    cases read
    exact ⟨_, rest'', after, comments'', by rw [parts, parts', parts'']; simp, end_, .cons laid comma laid'⟩

theorem lays_namedFields (steps index : Nat) : Lays (ItemsLaid NamedLaid) (namedFields owner steps index) := by
  induction steps generalizing index with
  | zero => exact fun _ _ _ _ _ _ _ read => by cases read
  | succ steps ih => exact itemsLaid_step (lays_namedField index) (ih (index + 1))

theorem lays_tupleFields (steps index : Nat) : Lays TuplesLaid (tupleFields owner steps index) := by
  induction steps generalizing index with
  | zero => exact fun _ _ _ _ _ _ _ read => by cases read
  | succ steps ih =>
    intro lexemes stale comments stream value left stands read
    rw [tupleFields] at read
    obtain ⟨closes, mid, one, read⟩ := bind_eq_ok read
    cases closes with
    | true =>
      obtain ⟨closing, marks, parts, notes⟩ := nextIs_marks stands (by decide) one
      cases read
      exact ⟨closing, _, _, [], parts, .carried rfl nofun notes, .nil marks⟩
    | false =>
      obtain ⟨comments, stands⟩ := nextIs_passes stands one
      obtain ⟨found, behind, two, read⟩ := bind_eq_ok read
      obtain ⟨tokens, rest, after, comments, rfl, stands, laid⟩ := lays_tupleField index stands two
      obtain ⟨comma, apart, three, read⟩ := bind_eq_ok read
      cases comma with
      | true =>
        obtain ⟨between, marks, rfl, notes⟩ := nextIs_marks stands (by decide) three
        obtain ⟨others, last, four, read⟩ := bind_eq_ok read
        obtain ⟨tokens', rest, after, comments, parts, stands, laid'⟩ := ih (index + 1) (.start apart) four
        cases read
        rw [notes] at laid'
        exact ⟨_, rest, after, comments, by rw [parts]; simp, stands, .cons laid marks laid'⟩
      | false =>
        obtain ⟨comments, stands⟩ := nextIs_passes stands three
        obtain ⟨_, last, four, read⟩ := bind_eq_ok read
        obtain ⟨closing, marks, rfl, notes⟩ := ensure_marks stands (by decide) four
        cases read
        exact ⟨_, _, _, [], by simp, .carried rfl nofun notes, .last laid marks⟩

theorem ensureDistinct_ok {names : List String} {problem : String → DeclarationProblem} {value : Unit}
    (read : ensureDistinct names problem stream = .ok value left) : left = stream := by
  unfold ensureDistinct at read
  cases repeated : firstRepeated? [] names with
  | none =>
    rw [repeated] at read
    cases read
    rfl
  | some name =>
    rw [repeated] at read
    cases read

theorem lays_fieldList : Lays FieldsLaid (fieldList owner) := by
  intro lexemes stale comments stream value left stands read
  obtain ⟨braced, mid, one, read⟩ := bind_eq_ok read
  cases braced with
  | true =>
    obtain ⟨opening, marks, parts, notes⟩ := nextIs_marks stands (by decide) one
    obtain ⟨_, _, got, read⟩ := bind_eq_ok read
    cases got
    obtain ⟨fields, behind, two, read⟩ := bind_eq_ok read
    obtain ⟨tokens, rest, after, comments, parts', stands, laid⟩ := lays_namedFields _ _ (.start mid) two
    obtain ⟨_, last, three, done⟩ := bind_eq_ok read
    obtain rfl := ensureDistinct_ok three
    cases done
    rw [notes] at laid
    exact ⟨_, rest, after, comments, by rw [parts, parts']; simp, stands, .named marks laid⟩
  | false =>
    obtain ⟨comments, stands⟩ := nextIs_passes stands one
    obtain ⟨parenthesized, mid, one, read⟩ := bind_eq_ok read
    cases parenthesized with
    | true =>
      obtain ⟨opening, marks, parts, notes⟩ := nextIs_marks stands (by decide) one
      obtain ⟨_, _, got, read⟩ := bind_eq_ok read
      cases got
      obtain ⟨fields, behind, two, read⟩ := bind_eq_ok read
      obtain ⟨tokens, rest, after, comments, parts', stands, laid⟩ := lays_tupleFields _ _ (.start mid) two
      cases read
      rw [notes] at laid
      exact ⟨_, rest, after, comments, by rw [parts, parts']; simp, stands, .tuple marks laid⟩
    | false =>
      obtain ⟨comments, stands⟩ := nextIs_passes stands one
      cases read
      exact ⟨[], lexemes, stale, comments, rfl, stands, .unit⟩

theorem lays_variant : Lays VariantLaid (variant owner) := by
  intro lexemes stale comments stream value left stands read
  obtain ⟨_, mid, one, read⟩ := bind_eq_ok read
  obtain ⟨-, -, -, rfl⟩ := peekedIs_eq_ok_iff.mp one
  obtain ⟨more, -, stands, -⟩ := stands.skipped
  obtain ⟨docs, mid, two, read⟩ := bind_eq_ok read
  obtain ⟨rfl, rfl⟩ := lastDocs_ok two
  obtain ⟨label, named, three, read⟩ := bind_eq_ok read
  have bare : Settled { stream.skipped with docs := "" } := (settled_skipped stream).of_unread rfl
  obtain ⟨name, word, rfl, parts, notes⟩ := introduced_settled bare three
  obtain ⟨fields, behind, four, read⟩ := bind_eq_ok read
  obtain ⟨tokens, rest, after, comments', parts', later, laid⟩ := lays_fieldList (.start named) four
  cases read
  rw [notes] at laid
  have same : lexemes = (comments ++ more ++ name :: tokens).map .token ++ rest := by
    calc lexemes
      _ = (comments ++ more).map .token ++ stream.skipped.unread := stands.parts
      _ = (comments ++ more).map .token ++ .token name :: named.unread := by rw [← parts]; rfl
      _ = _ := by
        rw [parts']
        simp
  refine ⟨_, rest, after, comments', same, later, ?_⟩
  rw [stands.notes, show noted (noted stale []) (comments ++ more) = _ from noted_eq_lastDoc stands.passed _]
  exact .intro stands.passed word laid

theorem lays_variants (steps : Nat) : Lays (ItemsLaid VariantLaid) (variants owner steps) := by
  induction steps with
  | zero => exact fun _ _ _ _ _ _ _ read => by cases read
  | succ steps ih => exact itemsLaid_step lays_variant ih

theorem lays_union : Lays (fun stale tokens found after => BodyLaid stale tokens (.union found) after) (union owner) := by
  intro lexemes stale comments stream value left stands read
  obtain ⟨_, mid, one, read⟩ := bind_eq_ok read
  obtain ⟨opening, marks, parts, notes⟩ := ensure_marks stands (by decide) one
  obtain ⟨_, _, got, read⟩ := bind_eq_ok read
  cases got
  obtain ⟨found, behind, two, read⟩ := bind_eq_ok read
  obtain ⟨tokens, rest, after, comments, parts', stands, laid⟩ := lays_variants _ (.start mid) two
  obtain ⟨_, last, three, done⟩ := bind_eq_ok read
  obtain rfl := ensureDistinct_ok three
  cases done
  rw [notes] at laid
  exact ⟨_, rest, after, comments, by rw [parts, parts']; simp, stands, .union marks laid⟩

/-! ### Declarations and units -/

theorem lays_body {α : Type} {done : Body → α} {keyword : String} {lexemes : List Lexeme} {stale : String}
    {comments : List Token} {value : α} (known : keyword = "record" ∨ keyword = "union")
    (stands : Stands lexemes stale [] comments false stream)
    (read : (if keyword = "record" then do let body ← Body.record <$> fieldList owner; pure (done body)
      else do let body ← Body.union <$> union owner; pure (done body)) stream = .ok value left) :
    ∃ (body : Body) (tokens : List Token) (rest : List Lexeme) (after : String) (comments' : List Token),
      value = done body ∧ lexemes = tokens.map .token ++ rest ∧ Stands rest after [] comments' false left ∧
        keyword = body.keyword ∧ BodyLaid stale tokens body after := by
  split at read
  next isRecord =>
    rw [map_eq_pure_bind] at read
    obtain ⟨body, _, given, last⟩ := bind_eq_ok read
    obtain ⟨fields, _, own, made⟩ := bind_eq_ok given
    cases made
    cases last
    obtain ⟨tokens, rest, after, comments', same, end_, laid⟩ := lays_fieldList stands own
    exact ⟨.record fields, tokens, rest, after, comments', rfl, same, end_, isRecord, .record laid⟩
  next other =>
    rw [map_eq_pure_bind] at read
    obtain ⟨body, _, given, last⟩ := bind_eq_ok read
    obtain ⟨variants, _, own, made⟩ := bind_eq_ok given
    cases made
    cases last
    obtain ⟨tokens, rest, after, comments', same, end_, laid⟩ := lays_union stands own
    exact ⟨.union variants, tokens, rest, after, comments', rfl, same, end_, known.resolve_left other, laid⟩

theorem lays_complete (scope : Option String) : Lays DeclarationLaid (complete scope) := by
  intro lexemes stale comments stream value left stands read
  obtain ⟨word, started, one, read⟩ := bind_eq_ok read
  obtain ⟨keyword, shown, fit, rfl, rfl⟩ := ensure_eq_ok_iff.mp one
  have starts := kind_of_fits fit
  obtain ⟨more, -, stands, -⟩ := stands.skipped
  have parts := stands.parts
  rw [unread_of_front? shown (by rw [starts]; decide)] at parts
  dsimp only at read
  split at read
  · cases read
  next known =>
    obtain ⟨docs, mid, two, read⟩ := bind_eq_ok read
    obtain ⟨rfl, rfl⟩ := lastDocs_ok two
    obtain ⟨label, named, three, read⟩ := bind_eq_ok read
    obtain ⟨name, front, word, rfl, moved⟩ := introduced_ok three
    obtain ⟨apart, between, opened, -⟩ := (Stands.start { stream.skipped.advanced with docs := "" }).skipped
    have taken := opened.advanced front (by rw [word]; decide) (by simp [Token.isComment, word]) nofun
    rw [← moved] at taken
    have marks : Marks .identifier (apart ++ [name]) := ⟨apart, name, rfl, between, word⟩
    obtain ⟨parameters, behind, four, read⟩ := bind_eq_ok read
    obtain ⟨header, trailing, generic⟩ := notes_generics ⟨[], [], .start named⟩ four
    obtain ⟨rest, parts', carried⟩ := generic.carry
    have leak : noted "" (apart ++ name :: header) = noted named.docs header := by
      have same : noted "" (apart ++ [name] ++ header) = _ := marks.noted_append (by decide) (by decide) header
      rw [List.append_assoc, List.singleton_append] at same
      rw [same, taken.notes]
      rfl
    have isKeyword : keyword.value = "record" ∨ keyword.value = "union" := by
      simpa [Classical.or_iff_not_imp_left] using known
    obtain ⟨body, tokens, rest', after, comments', rfl, rfl, end_, kind, laid⟩ := lays_body isKeyword carried read
    rw [← leak] at laid
    refine ⟨comments ++ more ++ keyword :: (apart ++ name :: header) ++ tokens, rest', after, comments', ?_, end_,
      .intro stands.passed starts kind between word rfl (generic.spans four) laid ?_⟩
    · calc lexemes
        _ = (comments ++ more).map .token ++ .token keyword :: stream.skipped.advanced.unread := parts
        _ = (comments ++ more).map .token ++ .token keyword :: ((apart ++ [name]).map .token ++ named.unread) := by
          have same := taken.parts
          simp only [List.nil_append, List.append_nil] at same
          rw [← same]
          rfl
        _ = _ := by
          rw [parts']
          simp
    · exact stands.notes.trans (noted_eq_lastDoc stands.passed stale)

theorem consumeWithin_laid (steps : Nat) {lexemes : List Lexeme} {stale : String} {comments : List Token} {value : Unit}
    (stands : Stands lexemes stale [] comments false stream) (read : consumeWithin .semicolon steps stream = .ok value left) :
    ∃ (tokens : List Token) (rest : List Lexeme) (mid : String) (comments' : List Token),
      lexemes = tokens.map .token ++ rest ∧ Stands rest mid [] comments' false left ∧
        ∀ more declarations after, UnitLaid mid more declarations after → UnitLaid stale (tokens ++ more) declarations after := by
  induction steps generalizing lexemes stale comments stream with
  | zero => cases read
  | succ steps ih =>
    obtain ⟨found, mid, one, read⟩ := bind_eq_ok read
    cases found with
    | false =>
      cases read
      obtain ⟨comments', later⟩ := nextIs_passes stands one
      exact ⟨[], lexemes, stale, comments', rfl, later, fun _ _ _ => id⟩
    | true =>
      obtain ⟨mark, semicolon, parts, notes⟩ := nextIs_marks stands (by decide) one
      obtain ⟨tokens, rest, last, comments', parts', later, laid⟩ := ih (.start mid) read
      refine ⟨mark ++ tokens, rest, last, comments', by rw [parts, parts']; simp, later, fun more _ _ further => ?_⟩
      rw [List.append_assoc]
      refine .separator semicolon ?_
      rw [← notes]
      exact laid more _ _ further

theorem consume_laid {lexemes : List Lexeme} {stale : String} {comments : List Token} {value : Unit}
    (stands : Stands lexemes stale [] comments false stream) (read : consume .semicolon stream = .ok value left) :
    ∃ (tokens : List Token) (rest : List Lexeme) (mid : String) (comments' : List Token),
      lexemes = tokens.map .token ++ rest ∧ Stands rest mid [] comments' false left ∧
        ∀ more declarations after, UnitLaid mid more declarations after → UnitLaid stale (tokens ++ more) declarations after := by
  obtain ⟨_, _, got, read⟩ := bind_eq_ok read
  cases got
  exact consumeWithin_laid _ stands read

theorem unread_of_end {token : Token} (shown : stream.front? = some token) (ends : token.kind = .endOfInput) :
    stream.unread = [] := by
  unfold front? at shown
  split at shown
  next first rest pending =>
    cases shown
    simp [unread, pending, Lexeme.isText, ends]
  next pending _ => simp [unread, pending]
  · cases shown

theorem another_ok {more : Bool} (read : another stream = .ok more left) : ∃ mid,
    consume .semicolon stream = .ok () mid ∧ left = mid.skipped ∧ (more = false → left.unread = []) := by
  obtain ⟨_, mid, one, read⟩ := bind_eq_ok read
  obtain ⟨isEnd, behind, two, read⟩ := bind_eq_ok read
  obtain ⟨token, shown, fit, rfl⟩ := peekedIs_eq_ok_iff.mp two
  refine ⟨mid, one, ?_⟩
  cases isEnd with
  | true =>
    cases read
    exact ⟨rfl, fun _ => unread_of_end shown (kind_of_fits fit.symm)⟩
  | false =>
    obtain ⟨_, last, three, read⟩ := bind_eq_ok read
    obtain ⟨-, rfl⟩ := peek_eq_ok_iff.mp three
    split at read
    · cases read
      exact ⟨rfl, nofun⟩
    · cases read

theorem contentsFrom_laid (scope : Option String) (steps : Nat) {lexemes : List Lexeme} {stale : String}
    {comments : List Token} (stands : Stands lexemes stale [] comments false stream)
    (ends : (contentsFrom scope steps stream).ending = .ok () left) : ∃ (tokens trailing : List Token) (after : String),
      lexemes = (tokens ++ trailing).map .token ∧ AllComments trailing ∧
        UnitLaid stale tokens ((contentsFrom scope steps stream).found.map (·.1)) after := by
  induction steps generalizing lexemes stale comments stream with
  | zero => cases ends
  | succ steps ih =>
    rw [contentsFrom] at ends ⊢
    cases next : another stream with
    | error fault behind =>
      rw [next] at ends
      cases ends
    | ok more start =>
      rw [next] at ends
      obtain ⟨mid, one, rfl, done⟩ := another_ok next
      obtain ⟨tokens, rest, docs, comments', rfl, later, laid⟩ := consume_laid stands one
      obtain ⟨further, -, carried, -⟩ := later.skipped
      cases more with
      | false =>
        refine ⟨tokens, comments' ++ further, docs, ?_, carried.passed, ?_⟩
        · rw [carried.parts, done rfl]
          simp
        · have empty := laid [] [] docs .nil
          rwa [List.append_nil] at empty
      | true =>
        dsimp only at ends ⊢
        cases reads : complete scope mid.skipped with
        | error fault behind =>
          rw [reads] at ends
          cases ends
        | ok declaration behind =>
          rw [reads] at ends
          dsimp only at ends ⊢
          obtain ⟨tokens', rest', docs', comments'', rfl, later', laid'⟩ := lays_complete scope carried reads
          cases two : consume .semicolon behind with
          | error fault last =>
            rw [two] at ends
            cases ends
          | ok value last =>
            rw [two] at ends
            dsimp only at ends ⊢
            obtain ⟨marks, rest'', docs'', comments''', rfl, later'', laid''⟩ := consume_laid later' two
            obtain ⟨others, trailing, after, rfl, passed, unit⟩ := ih later'' ends
            refine ⟨tokens ++ (tokens' ++ (marks ++ others)), trailing, after, by simp, passed, ?_⟩
            exact laid _ _ _ (.cons laid' (laid'' _ _ _ unit))

end Declaration.Parser

end

/-! ### Whole texts -/

theorem unread_ofText (text : String) : (TokenStream.ofText text).unread = (TokenStream.ofText text).pending := by
  have text : ∀ lexeme ∈ (TokenStream.ofText text).pending, lexeme.isText = true := by
    intro lexeme member
    cases lexeme with
    | fault fault => rfl
    | token token =>
      have more : token.kind ≠ .endOfInput := by
        intro ends
        rcases lexed_of_mem_ofText member with isWord | ⟨isSymbol, -⟩ | ⟨comment, -⟩
        · have known := isWord.kind_mem
          rw [show token.bare.kind = .endOfInput from ends] at known
          exact absurd known (by decide)
        · rw [show token.bare.kind = .endOfInput from ends] at isSymbol
          exact absurd isSymbol (by decide)
        · cases ends.symm.trans comment
      simp [Lexeme.isText, more]
  rw [unread]
  simpa using @List.takeWhile_append_of_pos _ _ _ [] text

/-- **Which item a doc comment documents.** The tokens of a text that is read are laid out as the namespace and the
declarations that reading gives. Each declaration, variant and field has the documentation in the last doc comment
between the token in front of it and its first token, for a field with a name also that in its annotations and up to
its name. Where there is none, it has what was noted last since documentation was given to the item before it: that is
nothing, unless a doc comment stands inside of the header, the annotations or the type of that item, in front of a
closing bracket, a separator or the colon, or in the namespace. -/
theorem readUnit_documents {text : String} {registry : List Declaration} {state : UnitState}
    (read : readUnit text registry = (none, state)) : ∃ (heading tokens trailing : List Token) (after : String),
      (TokenStream.ofText text).pending = (heading ++ tokens ++ trailing).map .token ∧ AllComments trailing ∧
        Spans Declaration.Parser.leading heading state.scope ∧
          UnitLaid (noted "" heading) tokens state.declared after := by
  obtain ⟨declared, -, own, other⟩ := readUnit_registers text registry
  rw [read] at declared own other
  have new : fresh (registry.map (·.name)) (completeIn text) = completeIn text := by
    by_contra taken
    obtain ⟨fault, never, -⟩ := other taken
    cases never
  obtain ⟨none, scope⟩ := own new
  rw [declared, new, scope rfl]
  have whole : faultIn? text = Option.none := none.symm
  unfold faultIn? Contents.fault? at whole
  unfold completeIn
  rw [← unread_ofText]
  unfold Contents.ofText at whole ⊢
  cases lead : Declaration.Parser.leading (TokenStream.ofText text) with
  | error fault left =>
    rw [lead] at whole
    cases whole
  | ok found left =>
    rw [lead] at whole
    dsimp only at whole ⊢
    obtain ⟨heading, comments, started⟩ := Declaration.Parser.notes_leading ⟨[], [], .start _⟩ lead
    obtain ⟨rest, parts, carried⟩ := started.carry
    split at whole
    next value last ends =>
      obtain ⟨tokens, trailing, after, rfl, passed, laid⟩ := Declaration.Parser.contentsFrom_laid found _ carried ends
      exact ⟨heading, tokens, trailing, after, by rw [parts]; simp, passed, started.spans lead, laid⟩
    · cases whole

theorem readUnit_documents_members : ∃ state, readUnit "record R { /** a */ a : i64 }" [] = (none, state) ∧
    ∃ (heading tokens trailing : List Token) (after : String),
      (TokenStream.ofText "record R { /** a */ a : i64 }").pending = (heading ++ tokens ++ trailing).map .token ∧
        AllComments trailing ∧ Spans Declaration.Parser.leading heading state.scope ∧
          UnitLaid (noted "" heading) tokens state.declared after := by
  have whole : (readUnit "record R { /** a */ a : i64 }" []).1 = none := by decide +kernel
  cases outcome : readUnit "record R { /** a */ a : i64 }" [] with
  | mk fault state =>
    rw [outcome] at whole
    obtain rfl : fault = none := whole
    exact ⟨state, rfl, readUnit_documents outcome⟩

/-- A doc comment in the header of a declaration is given to the first field, which has none. -/
theorem readUnit_documents_header :
    (readUnit "record /** x */ R { a : i64 }" []).1 = none ∧
    (readUnit "record /** x */ R { a : i64 }" []).2.declared.map (fun declaration =>
      (declaration.docs, declaration.body.fields.map fun field => (field.name, field.docs))) =
        [("", [(some "a", "x")])] := by
  decide +kernel

end CowView
