import CowView.Proofs.Scanning
import CowView.Token.Buffered

/-!
The lexer over a stream reads what a cursor over the whole text reads (`Buffered.yields_next`): how much of the
text is in the buffer does not show. Each operation first fills the buffer to the size that it looks at, so
what it finds there are the characters that the cursor has in front.
-/

namespace CowView

theorem Cursor.drop_drop (cursor : Cursor) (first second : Nat) :
    (cursor.drop first).drop second = cursor.drop (first + second) := by
  simp only [Cursor.drop, List.drop_drop, List.take_add, Position.advance_append]

/-- Past the end there is nothing to move past. -/
theorem Cursor.drop_of_length_le {cursor : Cursor} {count : Nat} (beyond : cursor.rest.length ≤ count) :
    cursor.drop count = cursor.drop cursor.rest.length := by
  rw [Cursor.drop, Cursor.drop, List.take_of_length_le beyond, List.drop_eq_nil_of_le beyond, List.take_length,
    List.drop_length]

namespace Lexer

theorem splitAt?_eq_some {delimiter text inner rest : List Char} (found : splitAt? delimiter text = some (inner, rest)) :
    text = inner ++ (delimiter ++ rest) := by
  induction text generalizing inner rest with
  | nil => cases found
  | cons first text ih =>
    rw [splitAt?] at found
    split at found
    next fits =>
      cases found
      exact (List.prefix_iff_eq_append.mp (List.isPrefixOf_iff_prefix.mp fits)).symm
    · obtain ⟨parts, split, same⟩ := Option.map_eq_some_iff.mp found
      cases same
      rw [ih split]
      rfl

theorem splitAt?_feed (text : List Char) :
    (∀ inner rest, splitAt? ['\n'] text = some (inner, rest) → inner = text.takeWhile (· ≠ '\n')) ∧
      (splitAt? ['\n'] text = none → text.takeWhile (· ≠ '\n') = text) := by
  induction text with
  | nil => exact ⟨fun _ _ found => (by cases found), fun _ => rfl⟩
  | cons first text ih =>
    rw [splitAt?]
    by_cases feed : first = '\n'
    · subst feed
      refine ⟨fun inner rest found => ?_, fun none => ?_⟩
      · cases found
        rfl
      · cases none
    · have other : ¬ ['\n'].isPrefixOf (first :: text) = true := by simp [Ne.symm feed]
      have line : (first :: text).takeWhile (· ≠ '\n') = first :: text.takeWhile (· ≠ '\n') :=
        List.takeWhile_cons_of_pos (by simpa using feed)
      rw [if_neg other, line]
      refine ⟨fun inner rest found => ?_, fun none => ?_⟩
      · obtain ⟨parts, split, same⟩ := Option.map_eq_some_iff.mp found
        cases same
        rw [ih.1 parts.1 parts.2 split]
      · rw [ih.2 (Option.map_eq_none_iff.mp none)]

end Lexer

namespace Buffered

variable {α β : Type} {flag : Bool} {stream : Buffered} {cursor after : Cursor}

/-- The stream has come to the place of the cursor: what it has read ahead and what is unread make up the rest of
the text, and nothing is unread once its end was seen. -/
structure Reaches (flag : Bool) (stream : Buffered) (cursor : Cursor) : Prop where
  rest : stream.rest = cursor.rest
  position : stream.position = cursor.position
  ended : stream.endReached = true → stream.unread = []
  comments : stream.comments = flag

def Filled (size : Nat) (stream : Buffered) : Prop := size ≤ stream.buffer.length ∨ stream.unread = []

theorem Filled.take {size : Nat} (filled : stream.Filled size) : stream.buffer.take size = stream.rest.take size := by
  unfold rest
  rcases filled with enough | none
  · rw [List.take_append_of_le_length enough]
  · rw [none, List.append_nil]

theorem Filled.drop {size : Nat} (filled : stream.Filled size) :
    stream.buffer.drop size ++ stream.unread = stream.rest.drop size := by
  unfold rest
  rcases filled with enough | none
  · rw [List.drop_append_of_le_length enough]
  · rw [none, List.append_nil, List.append_nil]

theorem Filled.le_length_iff {size : Nat} (filled : stream.Filled size) :
    size ≤ stream.buffer.length ↔ size ≤ stream.rest.length := by
  rw [rest, List.length_append]
  rcases filled with enough | none
  · omega
  · rw [none, List.length_nil]
    omega

namespace Reaches

theorem ofText (text : String) : (Buffered.ofText text).Reaches true (Cursor.ofText text) :=
  ⟨rfl, rfl, fun ended => (by cases ended), rfl⟩

/-- A read that comes back short has read everything. -/
theorem refill (reaches : stream.Reaches flag cursor) (size : Nat) :
    (stream.refill size).Reaches flag cursor ∧ (stream.refill size).Filled size := by
  unfold Buffered.refill
  split
  next short =>
    have parts : stream.unread.take (max (size - stream.buffer.length) chunkSize) ++
        stream.unread.drop (max (size - stream.buffer.length) chunkSize) = stream.unread := List.take_append_drop _ _
    refine ⟨⟨?_, reaches.position, fun ended => ?_, reaches.comments⟩, ?_⟩
    · rw [← reaches.rest]
      simp [Buffered.rest, parts]
    · have less : (stream.unread.take (max (size - stream.buffer.length) chunkSize)).length <
          max (size - stream.buffer.length) chunkSize := by simpa using ended
      rw [List.length_take] at less
      exact List.drop_eq_nil_of_le (by omega)
    · by_cases enough : max (size - stream.buffer.length) chunkSize ≤ stream.unread.length
      · left
        rw [List.length_append, List.length_take]
        omega
      · right
        exact List.drop_eq_nil_of_le (by omega)
  next full =>
    refine ⟨reaches, ?_⟩
    by_cases enough : size ≤ stream.buffer.length
    · exact .inl enough
    · have ended : stream.endReached = true := by
        simp only [Bool.and_eq_true, decide_eq_true_eq, Bool.not_eq_true', not_and] at full
        simpa using full (by omega)
      exact .inr (reaches.ended ended)

/-- The end is seen when the buffer cannot be filled. -/
theorem refill_ended (reaches : stream.Reaches flag cursor) (none : cursor.rest = []) :
    (stream.refill 1).buffer = [] ∧ (stream.refill 1).endReached = true := by
  have parts : stream.buffer = [] ∧ stream.unread = [] := by
    have empty := reaches.rest.trans none
    rwa [Buffered.rest, List.append_eq_nil_iff] at empty
  unfold Buffered.refill
  split
  · simp [parts.1, parts.2, chunkSize]
  next full =>
    refine ⟨parts.1, ?_⟩
    simpa [parts.1] using full

end Reaches

/-! ### What operations yield -/

def Yields (flag : Bool) (action : EStateM Fault Buffered α) (cursor : Cursor) :
    EStateM.Result Fault Cursor α → Prop
  | .ok value after => ∀ stream : Buffered, stream.Reaches flag cursor →
      ∃ left : Buffered, action stream = .ok value left ∧ left.Reaches flag after
  | .error fault after => ∀ stream : Buffered, stream.Reaches flag cursor →
      ∃ left : Buffered, action stream = .error fault left ∧ left.Reaches flag after

theorem bind_apply (action : EStateM Fault Buffered α) (next : α → EStateM Fault Buffered β) (stream : Buffered) :
    (action >>= next) stream = match action stream with
      | .ok value left => next value left
      | .error fault left => .error fault left := by
  change EStateM.bind action next stream = _
  rw [EStateM.bind]
  cases action stream <;> rfl

namespace Yields

variable {action : EStateM Fault Buffered α} {next : α → EStateM Fault Buffered β} {between : Cursor} {value : α}
  {fault : Fault} {result : EStateM.Result Fault Cursor β}

theorem pure (value : α) : Yields flag (pure value) cursor (.ok value cursor) :=
  fun stream reaches => ⟨stream, rfl, reaches⟩

theorem throw (fault : Fault) : Yields flag (throw fault : EStateM Fault Buffered α) cursor (.error fault cursor) :=
  fun stream reaches => ⟨stream, rfl, reaches⟩

theorem bind (first : Yields flag action cursor (.ok value between)) (later : Yields flag (next value) between result) :
    Yields flag (action >>= next) cursor result := by
  cases result with
  | ok found after =>
    intro stream reaches
    obtain ⟨left, run, reaches⟩ := first stream reaches
    obtain ⟨left, run', reaches⟩ := later left reaches
    exact ⟨left, by rw [bind_apply, run]; exact run', reaches⟩
  | error fault after =>
    intro stream reaches
    obtain ⟨left, run, reaches⟩ := first stream reaches
    obtain ⟨left, run', reaches⟩ := later left reaches
    exact ⟨left, by rw [bind_apply, run]; exact run', reaches⟩

theorem fails (first : Yields flag action cursor (.error fault after)) :
    Yields flag (action >>= next) cursor (.error fault after) := by
  intro stream reaches
  obtain ⟨left, run, reaches⟩ := first stream reaches
  exact ⟨left, by rw [bind_apply, run], reaches⟩

theorem get {next : Buffered → EStateM Fault Buffered β}
    (later : ∀ stream : Buffered, stream.Reaches flag cursor → Yields flag (next stream) cursor result) :
    Yields flag (MonadState.get >>= next) cursor result := by
  cases result with
  | ok found after => exact fun stream reaches => later stream reaches stream reaches
  | error fault after => exact fun stream reaches => later stream reaches stream reaches

end Yields

theorem ensure_apply (size : Nat) (stream : Buffered) :
    ensure size stream = .ok (decide (size ≤ (stream.refill size).buffer.length)) (stream.refill size) := rfl

theorem yields_hasMore (flag : Bool) (cursor : Cursor) : Yields flag hasMore cursor (.ok (!cursor.rest.isEmpty) cursor) := by
  intro stream reaches
  obtain ⟨refilled, filled⟩ := reaches.refill 1
  refine ⟨stream.refill 1, ?_, refilled⟩
  have run : hasMore stream =
      .ok (!(stream.refill 1).buffer.isEmpty || !(stream.refill 1).endReached) (stream.refill 1) := rfl
  rw [run]
  congr 1
  cases shown : cursor.rest with
  | nil =>
    obtain ⟨empty, ended⟩ := reaches.refill_ended shown
    simp [empty, ended]
  | cons first rest =>
    have front := filled.take
    rw [refilled.rest, shown] at front
    cases buffer : (stream.refill 1).buffer with
    | nil =>
      rw [buffer] at front
      cases front
    | cons => rfl

theorem yields_characters (flag : Bool) (cursor : Cursor) (count : Nat) : Yields flag (characters count false) cursor
    (.ok (cursor.rest.take count, cursor.position) (cursor.drop count)) := by
  intro stream reaches
  obtain ⟨refilled, filled⟩ := reaches.refill count
  have front := filled.take
  rw [refilled.rest] at front
  have run : characters count false stream = .ok ((stream.refill count).buffer.take count, stream.position)
      { stream.refill count with
        buffer := (stream.refill count).buffer.drop count
        position := (stream.refill count).position.advance ((stream.refill count).buffer.take count) } := rfl
  rw [run, front, reaches.position]
  refine ⟨_, rfl, ?_, ?_, refilled.ended, refilled.comments⟩
  · have behind := filled.drop
    rwa [refilled.rest] at behind
  · rw [Cursor.drop, refilled.position]

theorem yields_peeked (flag : Bool) (cursor : Cursor) (count : Nat) : Yields flag (characters count true) cursor
    (.ok (cursor.rest.take count, cursor.position) cursor) := by
  intro stream reaches
  obtain ⟨refilled, filled⟩ := reaches.refill count
  have front := filled.take
  rw [refilled.rest] at front
  have run : characters count true stream =
      .ok ((stream.refill count).buffer.take count, stream.position) (stream.refill count) := rfl
  rw [run, front, reaches.position]
  exact ⟨_, rfl, refilled⟩

/-- The symbol is compared with as many characters as it has. -/
theorem Reaches.isPrefixOf (reaches : stream.Reaches flag cursor) {symbol : List Char}
    (filled : stream.Filled symbol.length) :
    (decide (symbol.length ≤ stream.buffer.length) && symbol.isPrefixOf stream.buffer) =
      symbol.isPrefixOf cursor.rest := by
  rw [← reaches.rest, Bool.eq_iff_iff, Bool.and_eq_true, List.isPrefixOf_iff_prefix, List.isPrefixOf_iff_prefix,
    List.prefix_iff_eq_take, List.prefix_iff_eq_take, filled.take, decide_eq_true_eq, filled.le_length_iff]
  constructor
  · exact And.right
  · intro same
    refine ⟨?_, same⟩
    have short := congrArg List.length same
    rw [List.length_take] at short
    omega

theorem matchesSymbol_apply (symbol : List Char) (peek : Bool) (stream : Buffered) :
    matchesSymbol symbol peek stream =
      if decide (symbol.length ≤ (stream.refill symbol.length).buffer.length) &&
          symbol.isPrefixOf (stream.refill symbol.length).buffer then
        (if peek then pure true else characters symbol.length false >>= fun _ => pure true)
          (stream.refill symbol.length)
      else .ok false (stream.refill symbol.length) := by
  unfold matchesSymbol
  rw [bind_apply, ensure_apply]
  cases enough : decide (symbol.length ≤ (stream.refill symbol.length).buffer.length) with
  | false => rfl
  | true =>
    change (if !symbol.isPrefixOf (stream.refill symbol.length).buffer then _ else _ :
      EStateM Fault Buffered Bool) _ = _
    cases shown : symbol.isPrefixOf (stream.refill symbol.length).buffer <;> cases peek <;> rfl

theorem yields_matchesSymbol (flag : Bool) (cursor : Cursor) (symbol : List Char) : Yields flag (matchesSymbol symbol false) cursor
    (if symbol.isPrefixOf cursor.rest then .ok true (cursor.drop symbol.length) else .ok false cursor) := by
  cases fits : symbol.isPrefixOf cursor.rest with
  | true =>
    intro stream reaches
    obtain ⟨refilled, filled⟩ := reaches.refill symbol.length
    rw [matchesSymbol_apply, refilled.isPrefixOf filled, fits, if_pos rfl]
    have dropped : Yields flag (characters symbol.length false >>= fun _ => pure true) cursor
        (.ok true (cursor.drop symbol.length)) := (yields_characters _ _ symbol.length).bind (.pure true)
    exact dropped _ refilled
  | false =>
    intro stream reaches
    obtain ⟨refilled, filled⟩ := reaches.refill symbol.length
    rw [matchesSymbol_apply, refilled.isPrefixOf filled, fits]
    exact ⟨_, rfl, refilled⟩

theorem yields_seesSymbol (flag : Bool) (cursor : Cursor) (symbol : List Char) :
    Yields flag (matchesSymbol symbol true) cursor (.ok (symbol.isPrefixOf cursor.rest) cursor) := by
  intro stream reaches
  obtain ⟨refilled, filled⟩ := reaches.refill symbol.length
  refine ⟨stream.refill symbol.length, ?_, refilled⟩
  rw [matchesSymbol_apply, refilled.isPrefixOf filled]
  cases symbol.isPrefixOf cursor.rest <;> rfl

theorem yields_matchesClass (flag : Bool) (cursor : Cursor) (isMember : Char → Bool) : Yields flag (matchesClass isMember false) cursor
    (if cursor.rest.head?.any isMember then .ok (.taken (cursor.rest.take 1) cursor.position) (cursor.drop 1)
      else .ok .missed cursor) := by
  cases shown : cursor.rest with
  | nil =>
    refine (yields_peeked _ _ 1).bind ?_
    rw [shown]
    exact .pure _
  | cons first rest =>
    cases own : isMember first with
    | true =>
      rw [List.head?_cons, Option.any_some, own, if_pos rfl, ← shown]
      refine (yields_peeked _ _ 1).bind ?_
      rw [shown]
      simp only [List.take_succ_cons, List.take_zero, List.any_cons, own, List.any_nil]
      exact (yields_characters _ _ 1).bind (by rw [shown]; exact .pure _)
    | false =>
      rw [List.head?_cons, Option.any_some, own]
      refine (yields_peeked _ _ 1).bind ?_
      rw [shown]
      simp only [List.take_succ_cons, List.take_zero, List.any_cons, own, List.any_nil]
      exact .pure _

/-- The next character is looked at. -/
theorem yields_seesClass (flag : Bool) (cursor : Cursor) (isMember : Char → Bool) : Yields flag (matchesClass isMember true) cursor
    (.ok (if cursor.rest.head?.any isMember then .seen else .missed) cursor) := by
  cases shown : cursor.rest with
  | nil =>
    refine (yields_peeked _ _ 1).bind ?_
    rw [shown]
    exact .pure _
  | cons first rest =>
    refine (yields_peeked _ _ 1).bind ?_
    rw [shown, List.head?_cons, Option.any_some]
    simp only [List.take_succ_cons, List.take_zero, List.any_cons, List.any_nil, Bool.or_false]
    cases own : isMember first <;> exact .pure _

/-! ### Runs of characters -/

theorem yields_readWhileFrom (flag : Bool) (cursor : Cursor) (isMember : Char → Bool) (steps : Nat) (read : List Char)
    (enough : cursor.rest.length < steps) : Yields flag (readWhileFrom isMember steps read) cursor
      (.ok (read.reverse ++ cursor.rest.takeWhile isMember) (cursor.drop (cursor.rest.takeWhile isMember).length)) := by
  induction steps generalizing cursor read with
  | zero => omega
  | succ steps ih =>
    have tested := yields_matchesClass flag cursor isMember
    cases shown : cursor.rest with
    | nil =>
      rw [shown] at tested
      rw [List.takeWhile_nil, List.append_nil]
      exact tested.bind (.pure _)
    | cons first rest =>
      rw [shown] at tested enough
      cases own : isMember first with
      | false =>
        rw [List.head?_cons, Option.any_some, own] at tested
        rw [List.takeWhile_cons_of_neg (by simp [own]), List.append_nil]
        exact tested.bind (.pure _)
      | true =>
        rw [List.head?_cons, Option.any_some, own, if_pos rfl] at tested
        have behind : (cursor.drop 1).rest = rest := by simp [Cursor.drop, shown]
        have later := ih (cursor.drop 1) (first :: read) (by rw [behind]; simpa using enough)
        rw [behind, Cursor.drop_drop, List.reverse_cons, List.append_assoc, Nat.add_comm] at later
        rw [List.takeWhile_cons_of_pos own]
        exact tested.bind later

/-- The longest run of characters of a class is read. -/
theorem yields_readWhile (flag : Bool) (cursor : Cursor) (isMember : Char → Bool) : Yields flag (readWhile isMember) cursor
    (.ok (cursor.rest.takeWhile isMember) (cursor.drop (cursor.rest.takeWhile isMember).length)) := by
  refine .get fun stream reaches => ?_
  rw [reaches.rest]
  exact yields_readWhileFrom _ _ isMember _ [] (Nat.lt_succ_self _)

def tilled (delimiter : List Char) (include_ allowEnd : Bool) (start : Position) (read : List Char) (cursor : Cursor) :
    EStateM.Result Fault Cursor (List Char) :=
  match Lexer.splitAt? delimiter cursor.rest with
  | some (inner, _) => .ok (read.reverse ++ inner ++ if include_ then delimiter else [])
      (cursor.drop (inner.length + delimiter.length))
  | none => if allowEnd then .ok (read.reverse ++ cursor.rest) (cursor.drop cursor.rest.length)
      else .error (.source start.line start.column (.unclosed (String.ofList delimiter))) (cursor.drop cursor.rest.length)

theorem tilled_cons {delimiter : List Char} {include_ allowEnd : Bool} {start : Position} {read : List Char} {first : Char}
    {rest : List Char} (shown : cursor.rest = first :: rest) (other : delimiter.isPrefixOf (first :: rest) = false) :
    tilled delimiter include_ allowEnd start read cursor =
      tilled delimiter include_ allowEnd start (first :: read) (cursor.drop 1) := by
  have behind : (cursor.drop 1).rest = rest := by simp [Cursor.drop, shown]
  have split : Lexer.splitAt? delimiter (first :: rest) =
      (Lexer.splitAt? delimiter rest).map fun parts => (first :: parts.1, parts.2) := by
    rw [Lexer.splitAt?, other]
    rfl
  unfold tilled
  rw [behind, shown, split]
  cases Lexer.splitAt? delimiter rest with
  | none => simp [Cursor.drop_drop, Nat.add_comm]
  | some parts => simp [Cursor.drop_drop, Nat.add_comm, Nat.add_assoc]

theorem yields_readTillFrom (flag : Bool) (cursor : Cursor) (delimiter : List Char) (include_ allowEnd : Bool) (start : Position) (steps : Nat)
    (read : List Char) (enough : cursor.rest.length < steps) :
    Yields flag (readTillFrom delimiter include_ allowEnd start steps read) cursor
      (tilled delimiter include_ allowEnd start read cursor) := by
  induction steps generalizing cursor read with
  | zero => omega
  | succ steps ih =>
    have more := yields_hasMore flag cursor
    cases shown : cursor.rest with
    | nil =>
      rw [shown] at more
      unfold tilled
      rw [shown, Lexer.splitAt?]
      refine more.bind ?_
      cases allowEnd with
      | true =>
        rw [List.append_nil]
        exact .pure _
      | false => exact .throw _
    | cons first rest =>
      rw [shown] at more
      refine more.bind ?_
      have compared := yields_matchesSymbol flag cursor delimiter
      rw [shown] at compared
      cases fits : delimiter.isPrefixOf (first :: rest) with
      | true =>
        rw [fits, if_pos rfl] at compared
        unfold tilled
        rw [shown, Lexer.splitAt?, if_pos fits]
        dsimp only
        rw [List.length_nil, Nat.zero_add, List.append_nil]
        exact compared.bind (.pure _)
      | false =>
        rw [fits] at compared
        rw [tilled_cons shown fits]
        have behind : (cursor.drop 1).rest = rest := by simp [Cursor.drop, shown]
        have later := ih (cursor.drop 1) (first :: read) (by
          rw [shown] at enough
          rw [behind]
          simpa using enough)
        refine compared.bind ((yields_characters _ _ 1).bind ?_)
        rw [shown]
        exact later

theorem yields_readTill (flag : Bool) (cursor : Cursor) (delimiter : List Char) (include_ allowEnd : Bool) :
    Yields flag (readTill delimiter include_ allowEnd) cursor
      (tilled delimiter include_ allowEnd cursor.position [] cursor) := by
  refine .get fun stream reaches => ?_
  rw [reaches.rest, reaches.position]
  exact yields_readTillFrom _ _ _ _ _ _ _ _ (Nat.lt_succ_self _)

theorem yields_firstSymbol (flag : Bool) (cursor : Cursor) (kinds : List TokenKind) : Yields flag (firstSymbol kinds) cursor
    (match kinds.find? fun kind => kind.spelling.toList.isPrefixOf cursor.rest with
      | some kind => .ok (some kind) (cursor.drop kind.spelling.toList.length)
      | none => .ok none cursor) := by
  induction kinds with
  | nil => exact .pure _
  | cons kind kinds ih =>
    have compared := yields_matchesSymbol flag cursor kind.spelling.toList
    cases fits : kind.spelling.toList.isPrefixOf cursor.rest with
    | true =>
      rw [fits, if_pos rfl] at compared
      simp only [List.find?_cons, fits]
      exact compared.bind (.pure _)
    | false =>
      rw [fits] at compared
      simp only [List.find?_cons, fits]
      exact compared.bind ih

/-! ### Tokens -/

def scanned : Scan → EStateM.Result Fault Cursor (Option Token)
  | .token token after => .ok (some token) after
  | .fault fault after => .error fault after
  | .finished after => .ok none after

def commented (cursor : Cursor) : Option Scan → EStateM.Result Fault Cursor (Option (List Char))
  | some (.token token after) => .ok (some token.value.toList) after
  | some (.fault fault after) => .error fault after
  | _ => .ok none cursor

theorem tilled_feed (start : Position) : tilled ['\n'] false true start [] cursor =
    .ok (cursor.rest.takeWhile (· ≠ '\n')) (cursor.drop ((cursor.rest.takeWhile (· ≠ '\n')).length + 1)) := by
  obtain ⟨line, whole⟩ := Lexer.splitAt?_feed cursor.rest
  unfold tilled
  cases found : Lexer.splitAt? ['\n'] cursor.rest with
  | some parts =>
    rw [← line parts.1 parts.2 found]
    simp
  | none =>
    rw [whole found, Cursor.drop_of_length_le (Nat.le_succ _)]
    simp

theorem yields_lineComment {body : List Char} (shown : cursor.rest = '/' :: '/' :: body) :
    Yields true (readTill ['\n'] false true >>= fun line => pure (some (['/', '/'] ++ line))) (cursor.drop 2)
      (commented cursor cursor.comment?) := by
  have own : cursor.comment? = some (.token ⟨.comment, "//" ++ String.ofList (body.takeWhile (· ≠ '\n')), cursor.position⟩
      (cursor.drop ((body.takeWhile (· ≠ '\n')).length + 3))) := by
    unfold Cursor.comment?
    rw [shown]
    rfl
  have behind : (cursor.drop 2).rest = body := by simp [Cursor.drop, shown]
  have count : 2 + ((body.takeWhile (· ≠ '\n')).length + 1) = (body.takeWhile (· ≠ '\n')).length + 3 := by omega
  have line := yields_readTill true (cursor.drop 2) ['\n'] false true
  rw [tilled_feed, behind, Cursor.drop_drop, count] at line
  refine line.bind ?_
  rw [own]
  simp only [commented, String.toList_append, String.toList_ofList]
  exact .pure _

/-- Behind its mark, the comment of a block is read as the cursor reads it, up to the other mark or to no end. -/
theorem yields_blockComment {body : List Char} (shown : cursor.rest = '/' :: '*' :: body) :
    Yields true (readTill ['*', '/'] true false >>= fun inner => pure (some (['/', '*'] ++ inner))) (cursor.drop 2)
      (commented cursor cursor.comment?) := by
  have own : cursor.comment? = some (match Lexer.splitAt? ['*', '/'] body with
      | some (inner, _) => cursor.take .comment (inner.length + 4)
      | none => (cursor.drop 2).fail (.unclosed "*/") (cursor.drop cursor.rest.length)) := by
    unfold Cursor.comment?
    rw [shown]
    rfl
  have behind : (cursor.drop 2).rest = body := by simp [Cursor.drop, shown]
  have block := yields_readTill true (cursor.drop 2) ['*', '/'] true false
  unfold tilled at block
  rw [behind] at block
  rw [own]
  cases found : Lexer.splitAt? ['*', '/'] body with
  | some parts =>
    rw [found] at block
    have value : cursor.rest.take (parts.1.length + 4) = ['/', '*'] ++ (parts.1 ++ ['*', '/']) := by
      have whole : cursor.rest = (['/', '*'] ++ (parts.1 ++ ['*', '/'])) ++ parts.2 := by
        rw [shown, Lexer.splitAt?_eq_some found]
        simp
      rw [whole]
      refine List.take_left' ?_
      simp only [List.length_append, List.length_cons, List.length_nil]
      omega
    have count : 2 + (parts.1.length + ['*', '/'].length) = parts.1.length + 4 := by
      rw [List.length_cons, List.length_singleton]
      omega
    dsimp only at block
    rw [Cursor.drop_drop, count] at block
    refine block.bind ?_
    simp only [Cursor.take, commented, value, String.toList_ofList]
    exact .pure _
  | none =>
    rw [found] at block
    have count : 2 + body.length = cursor.rest.length := by
      rw [shown, List.length_cons, List.length_cons]
      omega
    dsimp only at block
    rw [Cursor.drop_drop, count] at block
    exact Yields.fails block

theorem yields_comment?_enabled (cursor : Cursor) :
    Yields true comment? cursor (commented cursor cursor.comment?) := by
  have first := yields_matchesSymbol true cursor ['/', '/']
  have second := yields_matchesSymbol true cursor ['/', '*']
  refine .get fun stream reaches => ?_
  rw [reaches.comments]
  change Yields true (do
    if ← matchesSymbol ['/', '/'] false then
      return some (['/', '/'] ++ (← readTill ['\n'] false true))
    if ← matchesSymbol ['/', '*'] false then
      return some (['/', '*'] ++ (← readTill ['*', '/'] true false))
    return none) cursor _
  cases line : ['/', '/'].isPrefixOf cursor.rest with
  | true =>
    obtain ⟨body, shown⟩ := List.isPrefixOf_iff_prefix.mp line
    rw [line, if_pos rfl] at first
    exact first.bind (yields_lineComment shown.symm)
  | false =>
    rw [line] at first
    refine first.bind ?_
    cases block : ['/', '*'].isPrefixOf cursor.rest with
    | true =>
      obtain ⟨body, shown⟩ := List.isPrefixOf_iff_prefix.mp block
      rw [block, if_pos rfl] at second
      exact second.bind (yields_blockComment shown.symm)
    | false =>
      have own : cursor.comment? = none := by
        unfold Cursor.comment?
        split
        next shown => simp [shown] at line
        next shown => simp [shown] at block
        · rfl
      rw [block] at second
      rw [own]
      exact second.bind (.pure _)

theorem yields_comment? (flag : Bool) (cursor : Cursor) :
    Yields flag comment? cursor (commented cursor (if flag then cursor.comment? else none)) := by
  cases flag with
  | true => exact yields_comment?_enabled cursor
  | false =>
    refine .get fun stream reaches => ?_
    rw [reaches.comments]
    exact .pure none

theorem starts_nothing {first : Char} (blank : Text.isBlank first = true) (rest : List Char) :
    Lexer.symbolAt? (first :: rest) = none ∧ first ≠ Lexer.lifetimeMark ∧ Text.isDigit first = false ∧
      Lexer.startsName first = false ∧ first ≠ '/' := by
  have noWord : Lexer.isWordCharacter first = false :=
    Lexer.isWordCharacter_eq_false (Text.within_append_left _ blank)
  refine ⟨?_, ?_, ?_, ?_, ?_⟩
  · simp only [Lexer.symbolAt?, List.find?_eq_none]
    intro kind isSymbol fits
    obtain ⟨mark, others, spelling, solid, -, -⟩ := Lexer.spelling_eq_cons isSymbol
    rw [spelling, List.isPrefixOf_cons_cons, Bool.and_eq_true, beq_iff_eq] at fits
    rw [fits.1, blank] at solid
    cases solid
  · rintro rfl
    exact absurd blank (by decide)
  · exact Bool.eq_false_iff.mpr fun digit => by simp [Lexer.isWordCharacter_of_isDigit digit] at noWord
  · exact Bool.eq_false_iff.mpr fun start => by simp [Lexer.isWordCharacter_of_startsName start] at noWord
  · rintro rfl
    exact absurd blank (by decide)

theorem take_takeWhile (isMember : Char → Bool) (text : List Char) :
    text.take (text.takeWhile isMember).length = text.takeWhile isMember :=
  (List.prefix_iff_eq_take.mp (List.takeWhile_prefix isMember)).symm

theorem yields_lifetime (flag : Bool) {rest : List Char} (shown : cursor.rest = Lexer.lifetimeMark :: rest) :
    Yields flag (lifetime cursor.position) (cursor.drop 1)
      (scanned (if rest.head?.any Lexer.isWordCharacter then cursor.word .lifetime 1
        else cursor.fail .lifetimeNameExpected (cursor.drop 1))) := by
  have behind : (cursor.drop 1).rest = rest := by simp [Cursor.drop, shown]
  have name := yields_readWhile flag (cursor.drop 1) Lexer.isWordCharacter
  rw [behind, Cursor.drop_drop] at name
  refine name.bind ?_
  cases rest with
  | nil => exact .throw _
  | cons first rest =>
    rw [List.head?_cons, Option.any_some]
    cases word : Lexer.isWordCharacter first with
    | true =>
      have value : cursor.rest.take (1 + ((first :: rest).takeWhile Lexer.isWordCharacter).length) =
          Lexer.lifetimeMark :: (first :: rest).takeWhile Lexer.isWordCharacter := by
        rw [shown, Nat.add_comm, List.take_succ_cons, take_takeWhile]
      have named : ((first :: rest).takeWhile Lexer.isWordCharacter).isEmpty = false := by
        rw [List.takeWhile_cons_of_pos word]
        rfl
      rw [if_pos rfl, named, Cursor.word, shown, List.drop_one, List.tail_cons, Cursor.take, value]
      exact .pure _
    | false =>
      rw [List.takeWhile_cons_of_neg (by simp [word])]
      exact .throw _

theorem yields_word? (flag : Bool) {first : Char} {rest : List Char} (shown : cursor.rest = first :: rest) :
    Yields flag (word? cursor.position) cursor
      (if Text.isDigit first then scanned (cursor.word .number 0)
        else if Lexer.startsName first then scanned (cursor.word .identifier 0)
        else if Text.isBlank first then .ok none (cursor.drop 1)
        else scanned (cursor.fail (.invalidCharacter first) cursor)) := by
  have digit := yields_seesClass flag cursor Text.isDigit
  have name := yields_seesClass flag cursor Lexer.startsName
  have space := yields_matchesClass flag cursor Text.isBlank
  have word (kind : TokenKind) : Yields flag (readWhile Lexer.isWordCharacter >>= fun value =>
      pure (some (⟨kind, String.ofList value, cursor.position⟩ : Token))) cursor (scanned (cursor.word kind 0)) := by
    refine (yields_readWhile flag cursor _).bind ?_
    rw [Cursor.word, Cursor.take, List.drop_zero, Nat.zero_add, take_takeWhile]
    exact .pure _
  rw [shown, List.head?_cons, Option.any_some] at digit name space
  refine digit.bind ?_
  cases Text.isDigit first with
  | true => exact word .number
  | false =>
    refine name.bind ?_
    cases Lexer.startsName first with
    | true => exact word .identifier
    | false =>
      cases blank : Text.isBlank first with
      | true =>
        rw [blank, if_pos rfl] at space
        exact space.bind (.pure _)
      | false =>
        rw [blank] at space
        refine space.bind ((yields_peeked flag cursor 1).bind ?_)
        rw [shown]
        exact .throw _

/-- A blank is dropped; at any other character a token is read that is no comment. -/
theorem yields_plain? (flag : Bool) {first : Char} {rest : List Char} (shown : cursor.rest = first :: rest) :
    Yields flag (plain? cursor.position) cursor
      (if Text.isBlank first then .ok none (cursor.drop 1) else scanned cursor.plain) := by
  have symbol := yields_firstSymbol flag cursor TokenKind.symbols
  change Yields flag (firstSymbol TokenKind.symbols) cursor (match Lexer.symbolAt? cursor.rest with
    | some kind => .ok (some kind) (cursor.drop kind.spelling.toList.length)
    | none => .ok none cursor) at symbol
  unfold Cursor.plain
  cases sign : Lexer.symbolAt? cursor.rest with
  | some kind =>
    have solid : ¬ Text.isBlank first = true := by
      intro blank
      rw [shown, (starts_nothing blank rest).1] at sign
      cases sign
    have fits := List.find?_some sign
    have spelled : kind.spelling.toList <+: cursor.rest := List.isPrefixOf_iff_prefix.mp fits
    rw [sign] at symbol
    rw [if_neg solid]
    dsimp only at symbol ⊢
    rw [Cursor.take, ← String.length_toList, ← List.prefix_iff_eq_take.mp spelled, String.ofList_toList]
    exact symbol.bind (.pure _)
  | none =>
    rw [sign] at symbol
    refine symbol.bind ?_
    have mark := yields_matchesSymbol flag cursor [Lexer.lifetimeMark]
    rw [shown] at mark
    dsimp only
    rw [shown]
    by_cases lifetime : first = Lexer.lifetimeMark
    · subst lifetime
      rw [if_pos (by simp)] at mark
      have solid : ¬ Text.isBlank Lexer.lifetimeMark = true := by decide
      rw [if_neg solid]
      exact mark.bind (yields_lifetime flag shown)
    · rw [if_neg (by simpa using Ne.symm lifetime)] at mark
      refine mark.bind ?_
      dsimp only
      rw [if_neg lifetime]
      have word := yields_word? flag shown
      cases blank : Text.isBlank first with
      | true =>
        obtain ⟨-, -, digit, name, -⟩ := starts_nothing blank rest
        rw [digit, name, blank] at word
        exact word
      | false =>
        rw [blank] at word
        cases digit : Text.isDigit first <;> cases name : Lexer.startsName first <;> rw [digit, name] at word <;>
          exact word

theorem yields_token? (flag : Bool) {first : Char} {rest : List Char} (shown : cursor.rest = first :: rest) :
    Yields flag token? cursor (if Text.isBlank first then .ok none (cursor.drop 1)
      else scanned ((if flag then cursor.comment? else none).getD cursor.plain)) := by
  have start := yields_comment? flag cursor
  refine .get fun stream reaches => ?_
  rw [reaches.position]
  cases read : (if flag then cursor.comment? else none) with
  | some scan =>
    have found := (Option.ite_none_right_eq_some.mp read).2
    have solid : ¬ Text.isBlank first = true := by
      intro blank
      have none : cursor.comment? = none := by
        apply Lexer.comment?_eq_none
        rw [shown]
        simpa using (starts_nothing blank rest).2.2.2.2
      rw [none] at found
      cases found
    have scans := Cursor.comment?_scans found
    rw [read] at start
    rw [if_neg solid]
    cases scan with
    | token token after =>
      obtain ⟨feed, cut⟩ := scans
      have same : (⟨.comment, String.ofList token.value.toList, cursor.position⟩ : Token) = token := by
        obtain ⟨kind, value, position⟩ := token
        have own : kind = .comment := (Lexer.comment?_lexed found).1
        have place : position = cursor.position := cut.start
        rw [own, place, String.ofList_toList]
      refine start.bind ?_
      dsimp only
      rw [same]
      exact .pure _
    | fault fault after => exact start.fails
    | finished after =>
      have ended : cursor.rest = [] := scans.1
      rw [shown] at ended
      cases ended
  | none =>
    rw [read] at start
    exact start.bind (yields_plain? flag shown)

end Buffered

/-! ### The next token -/

namespace Cursor

theorem next_eq_getD (comments : Bool) (cursor : Cursor) : cursor.next comments =
    (if comments then cursor.skipBlanks.comment? else none).getD cursor.skipBlanks.plain := by
  unfold next
  dsimp only
  cases (if comments then cursor.skipBlanks.comment? else none) <;> rfl

theorem skipBlanks_of_blank {cursor : Cursor} {first : Char} {rest : List Char} (shown : cursor.rest = first :: rest)
    (blank : Text.isBlank first = true) : cursor.skipBlanks = (cursor.drop 1).skipBlanks := by
  have behind : (cursor.drop 1).rest = rest := by simp [drop, shown]
  rw [skipBlanks, skipBlanks, behind, shown, List.takeWhile_cons_of_pos blank, List.length_cons, drop_drop, Nat.add_comm]

theorem skipBlanks_of_not_blank {cursor : Cursor} {first : Char} {rest : List Char} (shown : cursor.rest = first :: rest)
    (solid : Text.isBlank first = false) : cursor.skipBlanks = cursor := by
  rw [skipBlanks, shown, List.takeWhile_cons_of_neg (by simp [solid])]
  rfl

end Cursor

namespace Buffered

variable {cursor : Cursor}

theorem yields_nextFrom (flag : Bool) (steps : Nat) (enough : cursor.rest.length < steps) :
    Yields flag (nextFrom steps) cursor (scanned (cursor.next flag)) := by
  induction steps generalizing cursor with
  | zero => omega
  | succ steps ih =>
    have more := yields_hasMore flag cursor
    cases shown : cursor.rest with
    | nil =>
      have skipped : cursor.skipBlanks = cursor := by
        rw [Cursor.skipBlanks, shown]
        rfl
      have finished : cursor.next flag = .finished cursor := by
        rw [Cursor.next_eq_getD, skipped, Lexer.comment?_eq_none (by simp [shown]), ite_self, Option.getD_none, Cursor.plain, shown]
        rfl
      rw [shown] at more
      rw [finished]
      exact more.bind (.pure _)
    | cons first rest =>
      have read := yields_token? flag shown
      rw [shown] at more enough
      refine more.bind ?_
      cases blank : Text.isBlank first with
      | true =>
        rw [blank, if_pos rfl] at read
        have behind : (cursor.drop 1).rest = rest := by simp [Cursor.drop, shown]
        have later := ih (by rw [behind]; simpa using enough)
        rw [Cursor.next_eq_getD, ← Cursor.skipBlanks_of_blank shown blank, ← Cursor.next_eq_getD] at later
        exact read.bind later
      | false =>
        have scans := Cursor.scans_skipBlanks flag cursor
        rw [blank] at read
        rw [Cursor.skipBlanks_of_not_blank shown blank] at scans
        have same := Cursor.next_eq_getD flag cursor
        rw [Cursor.skipBlanks_of_not_blank shown blank] at same
        change Yields flag token? cursor
          (scanned ((if flag then cursor.comment? else none).getD cursor.plain)) at read
        rw [← same] at read
        cases found : cursor.next flag with
        | token token after =>
          rw [found] at read
          exact read.bind (.pure _)
        | fault fault after =>
          rw [found] at read
          exact read.fails
        | finished after =>
          rw [found] at scans
          have ended : cursor.rest = [] := scans.1
          rw [shown] at ended
          cases ended

/-- Wherever the chunks end, the lexer reads the tokens of the whole text. -/
theorem yields_next (flag : Bool) (cursor : Cursor) : Yields flag next cursor (scanned (cursor.next flag)) := by
  refine .get fun stream reaches => ?_
  rw [reaches.rest]
  exact yields_nextFrom flag _ (Nat.lt_succ_self _)

end Buffered

/-! ### All tokens of a text -/

inductive Cursor.Reads : Cursor → List Token → Prop where
  | finished {cursor after : Cursor} (scan : cursor.next true = .finished after) : Reads cursor []
  | token {cursor after : Cursor} {found : Token} {tokens : List Token} (scan : cursor.next true = .token found after)
    (later : after.Reads tokens) : Reads cursor (found :: tokens)

namespace Buffered

variable {stream last : Buffered} {cursor after : Cursor} {found : Token} {tokens : List Token} {steps : Nat}

theorem Reaches.next_token (reaches : stream.Reaches true cursor) (scan : cursor.next true = .token found after) :
    ∃ left : Buffered, next.run stream = .ok (some found) left ∧ left.Reaches true after := by
  have yields := yields_next true cursor
  rw [scan] at yields
  exact yields stream reaches

theorem Reaches.next_finished (reaches : stream.Reaches true cursor) (scan : cursor.next true = .finished after) :
    ∃ left : Buffered, next.run stream = .ok none left := by
  have yields := yields_next true cursor
  rw [scan] at yields
  obtain ⟨left, run, -⟩ := yields stream reaches
  exact ⟨left, run⟩

theorem Reaches.reads (reaches : stream.Reaches true cursor) (ran : tokensFrom steps stream = (tokens, none, last)) :
    cursor.Reads tokens := by
  induction steps generalizing stream cursor tokens with
  | zero => cases ran
  | succ steps ih =>
    rw [tokensFrom] at ran
    cases scan : cursor.next true with
    | fault fault after =>
      have yields := yields_next true cursor
      rw [scan] at yields
      obtain ⟨left, run, -⟩ := yields stream reaches
      rw [show next.run stream = _ from run] at ran
      cases ran
    | finished after =>
      obtain ⟨left, run⟩ := reaches.next_finished scan
      rw [run] at ran
      cases ran
      exact .finished scan
    | token token after =>
      obtain ⟨left, run, reached⟩ := reaches.next_token scan
      rw [run] at ran
      rcases following : tokensFrom steps left with ⟨others, fault, ending⟩
      simp only [following] at ran
      cases ran
      exact .token scan (ih reached following)

theorem Reaches.tokensFrom_eq (reaches : stream.Reaches true cursor) (reads : cursor.Reads tokens)
    (enough : cursor.rest.length < steps) : ∃ last, tokensFrom steps stream = (tokens, none, last) := by
  induction reads generalizing stream steps with
  | finished scan =>
    obtain ⟨steps, rfl⟩ := Nat.exists_eq_succ_of_ne_zero (Nat.ne_zero_of_lt enough)
    obtain ⟨left, run⟩ := reaches.next_finished scan
    exact ⟨left, by rw [tokensFrom, run]⟩
  | token scan later ih =>
    obtain ⟨steps, rfl⟩ := Nat.exists_eq_succ_of_ne_zero (Nat.ne_zero_of_lt enough)
    obtain ⟨behind, run, reached⟩ := reaches.next_token scan
    obtain ⟨blanks, feed, cut⟩ := Cursor.next_cuts scan
    have shorter := cut.length_lt
    obtain ⟨last, following⟩ := @ih behind steps reached (by omega)
    exact ⟨last, by simp only [tokensFrom, run, following]⟩

end Buffered

end CowView
