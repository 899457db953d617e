import CowView.Proofs.Ending
import CowView.Proofs.MacroGroup
import CowView.Proofs.Words

/-!
The type parser inside of brackets. Where the tokens up to a closing bracket are nested, the parser stays in front of
that bracket as long as it succeeds, and takes it just if it was called to read up to it. Where it fails, it has gone
no further than behind the bracket, and the fault is one of the text.
-/

namespace CowView

open TokenStream

def TokenKind.IsSingle (kind : TokenKind) : Prop := kind.closer? = none ∧ kind ∉ TokenGroup.closers

instance (kind : TokenKind) : Decidable kind.IsSingle := inferInstanceAs (Decidable (_ ∧ _))

inductive Nested : List Token → Prop
  | nil : Nested []
  | single {token : Token} {rest : List Token} (alone : token.kind.IsSingle) (more : token.kind ≠ .endOfInput)
      (later : Nested rest) : Nested (token :: rest)
  | group {opening closing : Token} {inner rest : List Token} (closed : opening.kind.closer? = some closing.kind)
      (inside : Nested inner) (later : Nested rest) : Nested (opening :: (inner ++ closing :: rest))

namespace TokenStream

variable {block : List Token} {tail rest : List Lexeme} {stream : TokenStream} {token : Token} {kind : TokenKind}

def Near (block : List Token) (rest : List Lexeme) (stream : TokenStream) : Prop :=
  ∃ front : List Token, stream.pending = front.map .token ++ rest ∧ front ⊆ block

def Ahead (block : List Token) (tail : List Lexeme) (stream : TokenStream) : Prop :=
  ∃ inner : List Token, stream.pending = inner.map .token ++ tail ∧ inner ⊆ block ∧ Nested inner

/-- A bracket of the block was opened. Nested tokens of the block stand in front of the one that closes it, and
others behind. -/
def Opened (block : List Token) (kind : TokenKind) (tail : List Lexeme) (stream : TokenStream) : Prop :=
  ∃ (closing : Token) (outer : List Token), closing.kind = kind ∧ kind ∈ TokenGroup.closers ∧ closing ∈ block ∧
    outer ⊆ block ∧ Nested outer ∧ Ahead block (.token closing :: (outer.map .token ++ tail)) stream

theorem Ahead.near (ahead : Ahead block tail stream) : Near block tail stream := by
  obtain ⟨inner, pending, own, -⟩ := ahead
  exact ⟨inner, pending, own⟩

theorem Near.prepend (front : List Token) (near : Near block (front.map .token ++ rest) stream) (own : front ⊆ block) :
    Near block rest stream := by
  obtain ⟨inner, pending, members⟩ := near
  refine ⟨inner ++ front, ?_, List.append_subset.mpr ⟨members, own⟩⟩
  rw [pending, List.map_append, List.append_assoc]

theorem ahead_cons {first : Token} {inner : List Token} (pending : stream.pending = (first :: inner).map .token ++ tail)
    (own : first :: inner ⊆ block) (nested : Nested (first :: inner)) : stream.front? = some first ∧ first ∈ block ∧
      ((first.kind.IsSingle ∧ Ahead block tail stream.advanced) ∨
        ∃ kind, first.kind.closer? = some kind ∧ Opened block kind tail stream.advanced) := by
  obtain ⟨member, members⟩ := List.cons_subset.mp own
  have front : stream.front? = some first := by simp [front?, pending]
  have behind : stream.advanced.pending = inner.map .token ++ tail := by simp [advanced, pending]
  refine ⟨front, member, ?_⟩
  cases nested with
  | single alone more later => exact .inl ⟨alone, inner, behind, members, later⟩
  | @group opening closing inside outer closed nested later =>
    rw [List.map_append, List.append_assoc, List.map_cons, List.cons_append] at behind
    obtain ⟨insides, others⟩ := List.append_subset.mp members
    obtain ⟨closes, outers⟩ := List.cons_subset.mp others
    exact .inr ⟨closing.kind, closed, closing, outer, rfl, (TokenGroup.mem_closers closed).1, closes, outers, later,
      inside, behind, insides, nested⟩

/-- What stands in front of a stream whose next tokens are nested. -/
theorem Ahead.front (ahead : Ahead block (.token token :: rest) stream) : ∃ shown, stream.front? = some shown ∧
    ((shown = token ∧ stream.advanced.pending = rest) ∨
      (shown ∈ block ∧ ((shown.kind.IsSingle ∧ Ahead block (.token token :: rest) stream.advanced) ∨
        ∃ kind, shown.kind.closer? = some kind ∧ Opened block kind (.token token :: rest) stream.advanced))) := by
  obtain ⟨inner, pending, own, nested⟩ := ahead
  cases inner with
  | nil =>
    rw [List.map_nil, List.nil_append] at pending
    exact ⟨token, by simp [front?, pending], .inl ⟨rfl, by simp [advanced, pending]⟩⟩
  | cons first inner =>
    obtain ⟨front, member, cases⟩ := ahead_cons pending own nested
    exact ⟨first, front, .inr ⟨member, cases⟩⟩

theorem Ahead.dropped (ahead : Ahead block tail stream) :
    (∃ (first : Token) (inner : List Token), stream.skipped.pending = (first :: inner).map .token ++ tail ∧
      first :: inner ⊆ block ∧ Nested (first :: inner)) ∨
      ∃ docs, stream.skipped.pending = (dropComments docs tail).1 := by
  obtain ⟨inner, pending, own, nested⟩ := ahead
  have skipped : stream.skipped.pending = (dropComments stream.docs (inner.map .token ++ tail)).1 := by
    rw [← pending]
    rfl
  rw [skipped]
  generalize stream.docs = docs
  clear pending skipped
  induction inner generalizing docs with
  | nil => exact .inr ⟨docs, rfl⟩
  | cons first others ih =>
    by_cases comment : first.isComment = true
    · have kind : first.kind = .comment := by simpa [Token.isComment] using comment
      have later : Nested others := by
        cases nested with
        | single alone more later => exact later
        | group closed inside later =>
          rw [kind] at closed
          cases closed
      have further := ih (List.cons_subset.mp own).2 later
        (if DocComment.isDoc first.value then DocComment.body first.value else docs)
      simpa [dropComments, comment] using further
    · exact .inl ⟨first, others, by simp [dropComments, comment], own, nested⟩

theorem Ahead.skipped (ahead : Ahead block (.token token :: rest) stream) (solid : token.kind ≠ .comment) :
    Ahead block (.token token :: rest) stream.skipped := by
  rcases ahead.dropped with ⟨first, inner, pending, own, nested⟩ | ⟨docs, pending⟩
  · exact ⟨first :: inner, pending, own, nested⟩
  · have plain : token.isComment = false := by simpa [Token.isComment] using solid
    exact ⟨[], by simpa [dropComments, plain] using pending, by simp, .nil⟩

end TokenStream

section

variable {α β : Type} {block : List Token} {rest : List Lexeme} {stream : TokenStream} {kind : TokenKind}
  {wanted : Option String}

def Confined (block : List Token) (rest : List Lexeme) (good : TokenStream → Prop) :
    EStateM.Result Fault TokenStream α → Prop
  | .ok _ left => good left
  | .error fault left => (fault.Refuses → fault.isSource) ∧ Near block rest left

/-- What a result should leave, given the closing bracket and what is behind it. -/
abbrev Leaving := Token → List Lexeme → TokenStream → Prop

def still (block : List Token) : Leaving := fun closing rest => Ahead block (.token closing :: rest)

/-- The closing bracket was taken, and nothing else behind it. -/
def past : Leaving := fun _ rest left => left.pending = rest

def Encloses (block : List Token) (good : Leaving) (action : Reading α) : Prop :=
  ∀ ⦃closing rest stream⦄, closing.kind ∈ TokenGroup.closers → closing ∈ block →
    Ahead block (.token closing :: rest) stream → Confined block rest (good closing rest) (action stream)

def EnclosesAt (block : List Token) (good : Leaving) (token : Token) (action : Reading α) : Prop :=
  ∀ ⦃closing rest stream⦄, closing.kind ∈ TokenGroup.closers → closing ∈ block → stream.front? = some token →
    Ahead block (.token closing :: rest) stream → Confined block rest (good closing rest) (action stream)

def EnclosesOpened (block : List Token) (good : Leaving) (opened : TokenKind) (action : Reading α) : Prop :=
  ∀ ⦃closing rest stream⦄, closing.kind ∈ TokenGroup.closers → closing ∈ block →
    Opened block opened (.token closing :: rest) stream → Confined block rest (good closing rest) (action stream)

/-! ### Rules -/

theorem Confined.bind {between good : TokenStream → Prop} {action : Reading α} {next : α → Reading β}
    (first : Confined block rest between (action stream))
    (later : ∀ found left, between left → Confined block rest good (next found left)) :
    Confined block rest good ((action >>= next) stream) := by
  rw [bind_apply]
  cases run : action stream with
  | ok found left =>
    rw [run] at first
    exact later found left first
  | error fault left =>
    rw [run] at first
    exact first

/-- The stream is inside of an outer bracket if it is inside of an inner one. -/
theorem Confined.outward {good : TokenStream → Prop} {outer : List Token} {closing : Token}
    {result : EStateM.Result Fault TokenStream α} (own : outer ⊆ block) (closes : closing ∈ block)
    (confined : Confined block (outer.map .token ++ .token closing :: rest) good result) :
    Confined block rest good result := by
  cases result with
  | ok found left => exact confined
  | error fault left =>
    refine ⟨confined.1, Near.prepend (outer ++ [closing]) ?_ ?_⟩
    · simpa using confined.2
    · exact List.append_subset.mpr ⟨own, by simpa using closes⟩

namespace Encloses

variable {good : Leaving} {action : Reading α} {next : α → Reading β}

theorem pure (value : α) : Encloses block (still block) (pure value) :=
  fun _ _ _ _ _ ahead => ahead

theorem throw {fault : Fault} (source : fault.Refuses → fault.isSource) :
    Encloses block good (throw fault : Reading α) :=
  fun closing _ _ _ own ahead => ⟨source, ahead.near.prepend [closing] (by simpa using own)⟩

theorem bind (first : Encloses block (still block) action) (later : ∀ found, Encloses block good (next found)) :
    Encloses block good (action >>= next) :=
  fun _ _ _ closes own ahead => (first closes own ahead).bind fun found _ ahead => later found closes own ahead

/-- The second part of the action only changes the form of what was read. -/
theorem last {change : α → β} (first : Encloses block good action) :
    Encloses block good (action >>= fun found => Pure.pure (change found)) :=
  fun _ _ _ closes own ahead => (first closes own ahead).bind fun _ _ done => done

theorem map {change : α → β} (first : Encloses block good action) : Encloses block good (change <$> action) := by
  rw [map_eq_pure_bind]
  exact first.last

theorem ite {condition : Prop} [Decidable condition] {yes no : Reading α} (first : Encloses block good yes)
    (second : Encloses block good no) : Encloses block good (if condition then yes else no) := by
  split
  · exact first
  · exact second

theorem located (encloses : Encloses block good action) (token : Token) : EnclosesAt block good token action :=
  fun _ _ _ closes own _ ahead => encloses closes own ahead

/-- What reads up to the closing bracket leaves what is behind a bracket that was opened inside. -/
theorem opened {opened : TokenKind} (first : Encloses block past action) (later : ∀ found, Encloses block good (next found)) :
    EnclosesOpened block good opened (action >>= next) := by
  rintro closing rest stream closes own ⟨inner, outer, rfl, kind, member, members, nested, ahead⟩
  refine (Confined.outward members own (first kind member ahead)).bind fun found left behind => ?_
  exact later found closes own ⟨outer, behind, members, nested⟩

theorem openedLast {opened : TokenKind} (first : Encloses block past action) :
    EnclosesOpened block (still block) opened action := by
  have encloses : EnclosesOpened block (still block) opened (action >>= Pure.pure) := first.opened .pure
  rwa [bind_pure] at encloses

end Encloses

/-! ### Tests and tokens -/

namespace TokenStream

variable {closing token : Token} {opened : TokenKind}

theorem closer?_of_mem_closers (closes : kind ∈ TokenGroup.closers) : kind.closer? = none := by
  revert closes
  cases kind <;> decide

theorem Ahead.single (ahead : Ahead block (.token closing :: rest) stream) (closes : closing.kind ∈ TokenGroup.closers)
    (shown : stream.front? = some token) (alone : token.kind.IsSingle) :
    token ∈ block ∧ Ahead block (.token closing :: rest) stream.advanced := by
  obtain ⟨front, same, cases⟩ := ahead.front
  obtain rfl : token = front := Option.some.inj (shown.symm.trans same)
  rcases cases with ⟨rfl, -⟩ | ⟨member, ⟨-, behind⟩ | ⟨kind, opens, -⟩⟩
  · exact absurd closes alone.2
  · exact ⟨member, behind⟩
  · rw [alone.1] at opens
    cases opens

theorem Ahead.closed (ahead : Ahead block (.token closing :: rest) stream)
    (shown : stream.front? = some token) (closes : token.kind ∈ TokenGroup.closers) : stream.advanced.pending = rest := by
  obtain ⟨front, same, cases⟩ := ahead.front
  obtain rfl : token = front := Option.some.inj (shown.symm.trans same)
  rcases cases with ⟨-, behind⟩ | ⟨-, ⟨alone, -⟩ | ⟨kind, opens, -⟩⟩
  · exact behind
  · exact absurd closes alone.2
  · rw [closer?_of_mem_closers closes] at opens
    cases opens

theorem Ahead.opening (ahead : Ahead block (.token closing :: rest) stream) (closes : closing.kind ∈ TokenGroup.closers)
    (shown : stream.front? = some token) (opens : token.kind.closer? = some opened) :
    Opened block opened (.token closing :: rest) stream.advanced := by
  obtain ⟨front, same, cases⟩ := ahead.front
  obtain rfl : token = front := Option.some.inj (shown.symm.trans same)
  rcases cases with ⟨rfl, -⟩ | ⟨-, ⟨alone, -⟩ | ⟨kind, other, behind⟩⟩
  · rw [closer?_of_mem_closers closes] at opens
    cases opens
  · rw [alone.1] at opens
    cases opens
  · obtain rfl : opened = kind := Option.some.inj (opens.symm.trans other)
    exact behind

theorem Ahead.glance (ahead : Ahead block (.token closing :: rest) stream) (closes : closing.kind ∈ TokenGroup.closers) :
    ∃ shown, stream.skipped.front? = some shown ∧ Ahead block (.token closing :: rest) stream.skipped := by
  have solid : closing.kind ≠ .comment := by
    intro comment
    rw [comment] at closes
    exact absurd closes (by decide)
  have skipped := ahead.skipped solid
  obtain ⟨shown, front, -⟩ := skipped.front
  exact ⟨shown, front, skipped⟩

theorem ensure_eq_error (shown : stream.skipped.front? = some token) (missed : fits kind wanted token = false) :
    ensure kind wanted false stream =
      .error (unexpected token [(wanted.filter (· ≠ "")).getD kind.spelling]) stream.skipped := by
  unfold ensure
  rw [bind_apply, peekedIs_eq_ok_iff.mpr ⟨token, shown, missed.symm, rfl⟩]
  change (TokenStream.peek >>= fun token => _) _ = _
  rw [bind_apply, peek_eq_ok_iff.mpr ⟨shown, rfl⟩]
  rfl

end TokenStream

section

variable {good : Leaving} {opened : TokenKind} {yes no : Reading β} {next : String → Reading β}

theorem encloses_peekedIs : Encloses block (still block) (peekedIs kind wanted) := by
  intro closing rest stream closes own ahead
  obtain ⟨shown, front, skipped⟩ := ahead.glance closes
  rw [peekedIs_eq_ok_iff.mpr ⟨shown, front, rfl, rfl⟩]
  exact skipped

theorem encloses_nextIs (alone : kind.IsSingle) : Encloses block (still block) (nextIs kind wanted) := by
  intro closing rest stream closes own ahead
  obtain ⟨shown, front, skipped⟩ := ahead.glance closes
  rw [nextIs_eq_ok_iff.mpr ⟨shown, front, rfl, rfl⟩]
  cases fit : fits kind wanted shown with
  | false => exact skipped
  | true => exact (skipped.single closes front (by rwa [kind_of_fits fit])).2

theorem Encloses.tested (first : ∀ ⦃closing rest stream token⦄, closing.kind ∈ TokenGroup.closers → closing ∈ block →
      Ahead block (.token closing :: rest) stream → stream.front? = some token → token.kind = kind →
        Confined block rest (good closing rest) (yes stream.advanced))
    (second : Encloses block good no) :
    Encloses block good (nextIs kind wanted >>= fun found => if found = true then yes else no) := by
  intro closing rest stream closes own ahead
  obtain ⟨shown, front, skipped⟩ := ahead.glance closes
  rw [bind_apply, nextIs_eq_ok_iff.mpr ⟨shown, front, rfl, rfl⟩]
  cases fit : fits kind wanted shown with
  | false => exact second closes own skipped
  | true => exact first closes own skipped front (kind_of_fits fit)

theorem Encloses.single (alone : kind.IsSingle) (first : Encloses block good yes) (second : Encloses block good no) :
    Encloses block good (nextIs kind wanted >>= fun found => if found = true then yes else no) := by
  refine .tested (fun closing rest stream token closes own ahead shown same => ?_) second
  exact first closes own (ahead.single closes shown (same ▸ alone)).2

theorem Encloses.opening (opens : kind.closer? = some opened) (first : EnclosesOpened block good opened yes)
    (second : Encloses block good no) :
    Encloses block good (nextIs kind wanted >>= fun found => if found = true then yes else no) := by
  refine .tested (fun closing rest stream token closes own ahead shown same => ?_) second
  exact first closes own (ahead.opening closes shown (same ▸ opens))

theorem Encloses.closing {value : β} (closer : kind ∈ TokenGroup.closers) (second : Encloses block past no) :
    Encloses block past (nextIs kind wanted >>= fun found => if found = true then Pure.pure value else no) := by
  refine .tested (fun closing rest stream token closes own ahead shown same => ?_) second
  exact ahead.closed shown (same ▸ closer)

theorem Encloses.ensured (first : ∀ ⦃closing rest stream token⦄, closing.kind ∈ TokenGroup.closers → closing ∈ block →
      Ahead block (.token closing :: rest) stream → stream.front? = some token → token.kind = kind →
        Confined block rest (good closing rest) (next token.value stream.advanced)) :
    Encloses block good (ensure kind wanted >>= next) := by
  intro closing rest stream closes own ahead
  obtain ⟨shown, front, skipped⟩ := ahead.glance closes
  rw [bind_apply]
  cases fit : fits kind wanted shown with
  | false =>
    rw [ensure_eq_error front fit]
    exact ⟨fun _ => rfl, skipped.near.prepend [closing] (by simpa using own)⟩
  | true =>
    rw [ensure_eq_ok_iff.mpr ⟨shown, front, fit, rfl, rfl⟩]
    exact first closes own skipped front (kind_of_fits fit)

theorem Encloses.ensuredSingle (alone : kind.IsSingle) (later : ∀ value, Encloses block good (next value)) :
    Encloses block good (ensure kind wanted >>= next) := by
  refine .ensured fun closing rest stream token closes own ahead shown same => ?_
  exact later _ closes own (ahead.single closes shown (same ▸ alone)).2

theorem Encloses.ensuredOpening (opens : kind.closer? = some opened)
    (later : ∀ value, EnclosesOpened block good opened (next value)) :
    Encloses block good (ensure kind wanted >>= next) := by
  refine .ensured fun closing rest stream token closes own ahead shown same => ?_
  exact later _ closes own (ahead.opening closes shown (same ▸ opens))

theorem Encloses.ensuredClosing {value : β} (closer : kind ∈ TokenGroup.closers) :
    Encloses block past (ensure kind wanted >>= fun _ => Pure.pure value) := by
  refine .ensured fun closing rest stream token closes own ahead shown same => ?_
  exact ahead.closed shown (same ▸ closer)

end

theorem Encloses.looked {good : Leaving} {next : Token → Reading β}
    (later : ∀ token, EnclosesAt block good token (next token)) : Encloses block good (current >>= next) := by
  intro closing rest stream closes own ahead
  obtain ⟨shown, front, skipped⟩ := ahead.glance closes
  rw [bind_apply, current_eq_ok_iff.mpr ⟨front, rfl⟩]
  exact later shown closes own front skipped

theorem Encloses.glanced {good : Leaving} {yes no : Reading β}
    (first : ∀ token, token.kind = kind → EnclosesAt block good token yes) (second : Encloses block good no) :
    Encloses block good (peekedIs kind wanted >>= fun found => if found = true then yes else no) := by
  intro closing rest stream closes own ahead
  obtain ⟨shown, front, skipped⟩ := ahead.glance closes
  rw [bind_apply, peekedIs_eq_ok_iff.mpr ⟨shown, front, rfl, rfl⟩]
  cases fit : fits kind wanted shown with
  | false => exact second closes own skipped
  | true => exact first shown (kind_of_fits fit) closes own front skipped

namespace EnclosesAt

variable {good : Leaving} {opened : TokenKind} {token : Token} {next : Token → Reading β}

/-- A token that is no bracket is taken. It belongs to the block. -/
theorem single (alone : token.kind.IsSingle) (later : token ∈ block → Encloses block good (next token)) :
    EnclosesAt block good token (TokenStream.next >>= next) := by
  intro closing rest stream closes own shown ahead
  obtain ⟨member, behind⟩ := ahead.single closes shown alone
  rw [bind_apply, next_eq_ok_iff.mpr ⟨shown, rfl⟩]
  exact later member closes own behind

theorem opening (opens : token.kind.closer? = some opened) (later : EnclosesOpened block good opened (next token)) :
    EnclosesAt block good token (TokenStream.next >>= next) := by
  intro closing rest stream closes own shown ahead
  rw [bind_apply, next_eq_ok_iff.mpr ⟨shown, rfl⟩]
  exact later closes own (ahead.opening closes shown opens)

end EnclosesAt

/-- A token of the block that was taken is put back. -/
theorem Encloses.returned {good : Leaving} {token : Token} {next : Unit → Reading β} (member : token ∈ block)
    (alone : token.kind.IsSingle) (more : token.kind ≠ .endOfInput) (later : Encloses block good (next ())) :
    Encloses block good (unget token >>= next) := by
  rintro closing rest stream closes own ⟨inner, pending, members, nested⟩
  refine later closes own ⟨token :: inner, ?_, List.cons_subset.mpr ⟨member, members⟩, .single alone more nested⟩
  simp [pending]

/-! ### Token groups -/

namespace TokenGroup

theorem awaitedAfter_single {awaited : TokenKind} {outer : List TokenKind} (alone : kind.IsSingle)
    (closer : awaited ∈ closers) : awaitedAfter kind awaited outer = awaited :: outer := by
  have other : kind ≠ awaited := by
    rintro rfl
    exact alone.2 closer
  rw [awaitedAfter, alone.1]
  exact if_neg other

theorem readWithin_token {steps : Nat} {awaited : TokenKind} {outer : List TokenKind} {values : List String}
    {token : Token} (pending : stream.pending = .token token :: rest) (more : token.kind ≠ .endOfInput) :
    readWithin (steps + 1) (awaited :: outer) values stream =
      readWithin steps (awaitedAfter token.kind awaited outer) (token.value :: values)
        { stream with pending := rest } := by
  have front : stream.front? = some token := by simp [front?, pending]
  rw [readWithin_succ, bind_apply, next_eq_ok_iff.mpr ⟨front, rfl⟩]
  dsimp only
  rw [if_neg more, advanced, pending]
  rfl

theorem readWithin_nested {inner : List Token} (nested : Nested inner) : ∀ (steps : Nat) {awaited : TokenKind}
    (outer : List TokenKind) (values : List String) {stream : TokenStream} {rest : List Lexeme},
      stream.pending = inner.map .token ++ rest → awaited ∈ closers → ∃ read : List String,
        readWithin (steps + inner.length) (awaited :: outer) values stream =
          readWithin steps (awaited :: outer) read { stream with pending := rest } := by
  induction nested with
  | nil =>
    intro steps awaited outer values stream rest pending closer
    refine ⟨values, ?_⟩
    rw [show rest = stream.pending from pending.symm]
    rfl
  | @single token others alone more later ih =>
    intro steps awaited outer values stream rest pending closer
    rw [List.map_cons, List.cons_append] at pending
    rw [List.length_cons, ← Nat.add_assoc, readWithin_token pending more, awaitedAfter_single alone closer]
    exact ih steps outer _ rfl closer
  | @group opening closing inner others closed inside later ihInside ihLater =>
    intro steps awaited outer values stream rest pending closer
    obtain ⟨closes, -⟩ := mem_closers closed
    have more : opening.kind ≠ .endOfInput := by
      intro last
      rw [last] at closed
      cases closed
    have more' : closing.kind ≠ .endOfInput := by
      intro last
      rw [last] at closes
      exact absurd closes (by decide)
    rw [List.map_cons, List.cons_append, List.map_append, List.append_assoc, List.map_cons, List.cons_append] at pending
    have count : steps + (opening :: (inner ++ closing :: others)).length =
        steps + others.length + 1 + inner.length + 1 := by
      simp only [List.length_cons, List.length_append]
      omega
    have onward : awaitedAfter opening.kind awaited outer = closing.kind :: awaited :: outer := by
      rw [awaitedAfter, closed]
    have back : awaitedAfter closing.kind closing.kind (awaited :: outer) = awaited :: outer := by
      rw [awaitedAfter, closer?_of_mem_closers closes]
      exact if_pos rfl
    obtain ⟨read, same⟩ := ihInside (steps + others.length + 1) (awaited :: outer) (opening.value :: values)
      (rfl : TokenStream.pending { stream with pending := _ } = _) closes
    rw [count, readWithin_token pending more, onward, same, readWithin_token rfl more', back]
    exact ihLater steps outer _ rfl closer

theorem readWithin_group {inner : List Token} {closing : Token} (nested : Nested inner)
    (closes : closing.kind ∈ closers) (values : List String)
    (pending : stream.pending = inner.map .token ++ .token closing :: rest) : ∃ read : List String,
      readWithin (stream.pending.length + 2) [closing.kind] values stream =
        .ok (some read) { stream with pending := rest } := by
  have count : stream.pending.length + 2 = rest.length + 2 + 1 + inner.length := by
    rw [pending]
    simp only [List.length_append, List.length_map, List.length_cons]
    omega
  have more : closing.kind ≠ .endOfInput := by
    intro last
    rw [last] at closes
    exact absurd closes (by decide)
  obtain ⟨read, same⟩ := readWithin_nested nested (rest.length + 2 + 1) [] values pending closes
  refine ⟨(closing.value :: read).reverse, ?_⟩
  rw [count, same, readWithin_token rfl more, awaitedAfter, closer?_of_mem_closers closes]
  dsimp only
  rw [if_pos rfl, readWithin_nil _ (by omega)]
  rfl

end TokenGroup

/-! ### Types -/

namespace TypeExpr.Parser

theorem encloses_lifetime : Encloses block (still block) lifetime := by
  refine .ensuredSingle (by decide) fun value => ?_
  split
  · exact .pure _
  · exact .throw False.elim

theorem encloses_constant : Encloses block (still block) constant := by
  refine .looked fun token => ?_
  split
  next kind => exact .single (by rw [kind]; decide) fun _ => .pure _
  next kind => exact .single (by rw [kind]; decide) fun _ => .pure _
  · exact (Encloses.throw fun _ => rfl).located token

/-- Where no group follows the bang, the token in its place may have been the closing bracket. -/
theorem encloses_macroGroup (path : String) : Encloses block (still block) (macroGroup path) := by
  refine .ensuredSingle (by decide) fun value closing rest stream closes own ahead => ?_
  have inside : Near block rest stream := ahead.near.prepend [closing] (by simpa using own)
  obtain ⟨opening, front, cases⟩ := ahead.front
  rw [bind_apply, next_eq_ok_iff.mpr ⟨front, rfl⟩]
  dsimp only
  rcases cases with ⟨rfl, behind⟩ | ⟨-, ⟨alone, behind⟩ | ⟨kind, opens, behind⟩⟩
  · rw [closer?_of_mem_closers closes]
    exact ⟨fun _ => rfl, [], by simp [behind], by simp⟩
  · rw [alone.1]
    exact ⟨fun _ => rfl, behind.near.prepend [closing] (by simpa using own)⟩
  · rw [opens]
    obtain ⟨bracket, outer, rfl, closer, inBlock, members, nested, inner, pending, insides, nested'⟩ := behind
    obtain ⟨read, same⟩ := TokenGroup.readWithin_group nested' closer [opening.value] pending
    change Confined block rest _ ((TokenGroup.readWithin (stream.advanced.pending.length + 2) [bracket.kind]
      [opening.value] >>= _) stream.advanced)
    rw [bind_apply, same]
    exact ⟨outer, rfl, members, nested⟩

/-- All functions of the parser stay inside of the brackets around them; the two that read up to a closing bracket
take it. -/
structure Enclosing (block : List Token) (steps : Nat) : Prop where
  type : Encloses block (still block) (type steps)
  tupleOrGroup : Encloses block past (tupleOrGroup steps)
  types : ∀ closer ∈ TokenGroup.closers, Encloses block past (types closer steps)
  output : Encloses block (still block) (output steps)
  pathOrMacro : Encloses block (still block) (pathOrMacro steps)
  path : Encloses block (still block) (path steps)
  segments : Encloses block (still block) (segments steps)
  segment : Encloses block (still block) (segment steps)
  angleArguments : Encloses block (still block) (angleArguments steps)
  arguments : Encloses block (still block) (arguments steps)
  argument : Encloses block (still block) (argument steps)
  bounds : Encloses block (still block) (bounds steps)
  bound : Encloses block (still block) (bound steps)

variable {steps : Nat}

theorem encloses_typeStep (enclosing : Enclosing block steps) : Encloses block (still block) (type (steps + 1)) := by
  rw [type]
  refine .looked fun token => ?_
  split
  next kind => exact .opening (by rw [kind]; rfl) enclosing.tupleOrGroup.openedLast
  next kind =>
    have brackets : Encloses block past (do
        let element ← type steps
        if ← nextIs .semicolon then
          let length ← constant
          let _ ← ensure .closeSquare
          return .array element length
        let _ ← ensure .closeSquare
        return TypeExpr.slice element) :=
      enclosing.type.bind fun element => .single (by decide)
        (encloses_constant.bind fun length => .ensuredClosing (by decide)) (.ensuredClosing (by decide))
    exact .opening (by rw [kind]; rfl) brackets.openedLast
  next kind =>
    have element (duration : Option Lifetime) : Encloses block (still block) (do
        let isMutable ← nextIs .identifier (some "mut")
        return TypeExpr.reference duration isMutable (← type steps)) :=
      (encloses_nextIs (by decide)).bind fun _ => enclosing.type.last
    refine .single (by rw [kind]; decide) fun _ => encloses_peekedIs.bind fun found => .ite ?_ (element none)
    exact encloses_lifetime.map.bind element
  next kind =>
    refine .single (by rw [kind]; decide) fun _ => .single (by decide) enclosing.type.last ?_
    exact .ensuredSingle (by decide) fun _ => enclosing.type.last
  next kind => exact .single (by rw [kind]; decide) fun _ => .pure _
  next kind => exact enclosing.pathOrMacro.located token
  next kind =>
    have alone : token.kind.IsSingle := by rw [kind]; decide
    split
    · exact .single alone fun _ => .pure _
    · refine .single alone fun _ => .ensuredOpening rfl fun _ => ?_
      exact (enclosing.types _ (by decide)).opened fun _ => enclosing.output.last
    · exact .single alone fun _ => enclosing.bounds.last
    · exact .single alone fun _ => enclosing.bounds.last
    · exact enclosing.pathOrMacro.located token
  · exact (Encloses.throw fun _ => rfl).located token

theorem encloses_path (enclosing : Enclosing block steps) : Encloses block (still block) (path (steps + 1)) := by
  rw [path]
  have segmented {α : Type} (result : Segment → List Segment → Reading α)
      (gives : ∀ first rest, Encloses block (still block) (result first rest)) : Encloses block (still block) (do
        let first ← segment steps
        let rest ← segments steps
        result first rest) :=
    enclosing.segment.bind fun first => enclosing.segments.bind fun rest => gives first rest
  have remaining (result : Segment → List Segment → Reading Path)
      (gives : ∀ first rest, Encloses block (still block) (result first rest)) : Encloses block (still block) (do
        let _ ← ensure .greaterThan
        let _ ← ensure .doubleColon
        let first ← segment steps
        let rest ← segments steps
        result first rest) :=
    .ensuredSingle (by decide) fun _ => .ensuredSingle (by decide) fun _ => segmented result gives
  refine .single (by decide) ?_ (segmented _ fun _ _ => .pure _)
  refine enclosing.type.bind fun subject => .single (by decide) ?_ (remaining _ fun _ _ => .pure _)
  refine Encloses.bind (enclosing.path.map) fun trait => remaining _ fun _ _ => ?_
  split <;> exact .pure _

theorem encloses_segment (enclosing : Enclosing block steps) :
    Encloses block (still block) (segment (steps + 1)) := by
  rw [segment]
  have angle (name : String) : Encloses block (still block) (do
      return Segment.angle name (← angleArguments steps)) :=
    enclosing.angleArguments.last
  refine .ensuredSingle (by decide) fun name => encloses_peekedIs.bind fun _ => .ite (angle name) ?_
  refine .glanced (fun token kind => ?_) (.opening rfl ?_ (.pure _))
  · refine .single (by rw [kind]; decide) fun member => encloses_peekedIs.bind fun _ => .ite (angle name) ?_
    exact .returned member (by rw [kind]; decide) (by rw [kind]; decide) (.pure _)
  · exact (enclosing.types _ (by decide)).opened fun _ => enclosing.output.last

theorem encloses_argument (enclosing : Enclosing block steps) :
    Encloses block (still block) (argument (steps + 1)) := by
  rw [argument]
  refine .looked fun token => ?_
  split
  · exact encloses_lifetime.last.located token
  next kind => exact .single (by rw [kind]; decide) fun _ => .pure _
  next kind =>
    refine .single (by rw [kind]; decide) fun member => .single (by decide) enclosing.type.last ?_
    refine .single (by decide) enclosing.bounds.last ?_
    exact .returned member (by rw [kind]; decide) (by rw [kind]; decide) enclosing.type.last
  · exact enclosing.type.last.located token

theorem enclosing (steps : Nat) : Enclosing block steps := by
  induction steps with
  | zero => constructor <;> intros <;> exact .throw nofun
  | succ steps ih => exact {
      type := encloses_typeStep ih
      tupleOrGroup := by
        rw [tupleOrGroup]
        refine .closing (by decide) (ih.type.bind fun first => .closing (by decide) ?_)
        exact .ensuredSingle (by decide) fun _ => (ih.types _ (by decide)).last
      types := fun closer closes => by
        rw [types]
        refine .closing closes (ih.type.bind fun first => .single (by decide) ?_ (.ensuredClosing closes))
        exact (ih.types closer closes).last
      output := by
        rw [output]
        exact .single (by decide) ih.type.last (.pure _)
      pathOrMacro := by
        rw [pathOrMacro]
        exact ih.path.bind fun found => encloses_peekedIs.bind fun _ => .ite (encloses_macroGroup _) (.pure _)
      path := encloses_path ih
      segments := by
        rw [segments]
        refine .single (by decide) ?_ (.pure _)
        exact ih.segment.bind fun first => ih.segments.last
      segment := encloses_segment ih
      angleArguments := by
        rw [angleArguments]
        exact .ensuredSingle (by decide) fun _ => ih.arguments
      arguments := by
        rw [arguments]
        refine .single (by decide) (.pure _) (ih.argument.bind fun first => .single (by decide) ih.arguments.last ?_)
        exact .ensuredSingle (by decide) fun _ => .pure _
      argument := encloses_argument ih
      bounds := by
        rw [bounds]
        exact ih.bound.bind fun first => .single (by decide) ih.bounds.last (.pure _)
      bound := by
        rw [bound]
        refine encloses_peekedIs.bind fun _ => .ite encloses_lifetime.last (.opening rfl ?_ ih.path.last)
        exact Encloses.openedLast (ih.path.bind fun inner => .ensuredClosing (by decide)) }

end TypeExpr.Parser

end

end CowView
