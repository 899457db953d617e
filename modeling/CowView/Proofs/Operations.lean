import CowView.Proofs.Buffering

/-!
The operations of a lexer, one after the other. `Operation.onStream` does an operation on a stream that is read in
chunks, `Operation.onText` says what it comes to on a text that is there as a whole. The two agree operation by
operation (`Operation.agrees`), so they agree over every run (`Buffered.perform_agrees`), in answers, faults and
places.
-/

namespace CowView

/-- What can be asked of a lexer. Operations that only look have `peek` set. -/
inductive Operation where
  | next
  | matchesSymbol (symbol : List Char) (peek : Bool)
  | matchesClass (isMember : Char → Bool) (peek : Bool)
  | characters (count : Nat) (peek : Bool)
  | readTill (delimiter : List Char) (include_ allowEnd : Bool)
  | readWhile (isMember : Char → Bool)
  | hasMore
  | setComments (enabled : Bool)

inductive Answer where
  | token (token : Option Token)
  | truth (value : Bool)
  | tested (found : Buffered.Match)
  | characters (taken : List Char) (place : Position)
  | text (read : List Char)
  | done
  deriving DecidableEq, Repr

/-- A lexer over a text that is there as a whole. -/
structure Unbuffered where
  cursor : Cursor
  comments : Bool
  deriving DecidableEq, Repr

namespace Unbuffered

def ofText (text : String) : Unbuffered := ⟨Cursor.ofText text, true⟩

def skip (reader : Unbuffered) (count : Nat) : Unbuffered := { reader with cursor := reader.cursor.drop count }

end Unbuffered

namespace Operation

def onStream : Operation → EStateM Fault Buffered Answer
  | next => .token <$> Buffered.next
  | matchesSymbol symbol peek => .truth <$> Buffered.matchesSymbol symbol peek
  | matchesClass isMember peek => .tested <$> Buffered.matchesClass isMember peek
  | characters count peek => (fun found => .characters found.1 found.2) <$> Buffered.characters count peek
  | readTill delimiter include_ allowEnd => .text <$> Buffered.readTill delimiter include_ allowEnd
  | readWhile isMember => .text <$> Buffered.readWhile isMember
  | hasMore => .truth <$> Buffered.hasMore
  | setComments enabled => do
    modify fun stream => { stream with comments := enabled }
    return .done

def onText (reader : Unbuffered) : Operation → EStateM.Result Fault Unbuffered Answer
  | next =>
    match reader.cursor.next reader.comments with
    | .token token after => .ok (.token (some token)) { reader with cursor := after }
    | .fault fault after => .error fault { reader with cursor := after }
    | .finished after => .ok (.token none) { reader with cursor := after }
  | matchesSymbol symbol peek =>
    if symbol.isPrefixOf reader.cursor.rest then
      .ok (.truth true) (if peek then reader else reader.skip symbol.length)
    else .ok (.truth false) reader
  | matchesClass isMember peek =>
    if reader.cursor.rest.head?.any isMember then
      if peek then .ok (.tested .seen) reader
      else .ok (.tested (.taken (reader.cursor.rest.take 1) reader.cursor.position)) (reader.skip 1)
    else .ok (.tested .missed) reader
  | characters count peek =>
    .ok (.characters (reader.cursor.rest.take count) reader.cursor.position)
      (if peek then reader else reader.skip count)
  | readTill delimiter include_ allowEnd =>
    match Lexer.splitAt? delimiter reader.cursor.rest with
    | some (inner, _) =>
      .ok (.text (inner ++ if include_ then delimiter else [])) (reader.skip (inner.length + delimiter.length))
    | none =>
      if allowEnd then .ok (.text reader.cursor.rest) (reader.skip reader.cursor.rest.length)
      else
        .error (.source reader.cursor.position.line reader.cursor.position.column (.unclosed (String.ofList delimiter)))
          (reader.skip reader.cursor.rest.length)
  | readWhile isMember =>
    .ok (.text (reader.cursor.rest.takeWhile isMember)) (reader.skip (reader.cursor.rest.takeWhile isMember).length)
  | hasMore => .ok (.truth (!reader.cursor.rest.isEmpty)) reader
  | setComments enabled => .ok .done { reader with comments := enabled }

end Operation

structure Outcome where
  result : Except Fault Answer
  place : Position
  deriving Repr

section Runs

variable {σ : Type}

def Outcome.of (place : σ → Position) : EStateM.Result Fault σ Answer → Outcome
  | .ok answer after => ⟨.ok answer, place after⟩
  | .error fault after => ⟨.error fault, place after⟩

def stateAfter : EStateM.Result Fault σ Answer → σ
  | .ok _ after => after
  | .error _ after => after

/-- Operations one after the other, on whatever they work on. A fault does not keep the later ones from being done. -/
def perform (does : Operation → σ → EStateM.Result Fault σ Answer) (place : σ → Position) :
    List Operation → σ → List Outcome × σ
  | [], state => ([], state)
  | operation :: later, state =>
    let result := does operation state
    let (outcomes, last) := perform does place later (stateAfter result)
    (.of place result :: outcomes, last)

end Runs

def Buffered.perform (operations : List Operation) (stream : Buffered) : List Outcome × Buffered :=
  CowView.perform Operation.onStream Buffered.position operations stream

def Unbuffered.perform (operations : List Operation) (reader : Unbuffered) : List Outcome × Unbuffered :=
  CowView.perform (fun operation state => operation.onText state) (·.cursor.position) operations reader

/-! ### One operation -/

def Agrees {α : Type} : EStateM.Result Fault Buffered α → EStateM.Result Fault Unbuffered α → Prop
  | .ok value stream, .ok expected reader => value = expected ∧ stream.Reaches reader.comments reader.cursor
  | .error fault stream, .error expected reader => fault = expected ∧ stream.Reaches reader.comments reader.cursor
  | _, _ => False

namespace Agrees

variable {α : Type} {stream : Buffered} {reader : Unbuffered} {action : EStateM Fault Buffered α} {value : α}
  {fault : Fault} {after : Cursor}

theorem ok (answer : α → Answer) (yields : Buffered.Yields reader.comments action reader.cursor (.ok value after))
    (reaches : stream.Reaches reader.comments reader.cursor) :
    Agrees ((answer <$> action) stream) (.ok (answer value) { reader with cursor := after }) := by
  obtain ⟨left, run, reached⟩ := yields stream reaches
  change Agrees (EStateM.map answer action stream) _
  rw [EStateM.map, run]
  exact ⟨rfl, reached⟩

theorem error (answer : α → Answer)
    (yields : Buffered.Yields reader.comments action reader.cursor (.error fault after))
    (reaches : stream.Reaches reader.comments reader.cursor) :
    Agrees ((answer <$> action) stream) (.error fault { reader with cursor := after }) := by
  obtain ⟨left, run, reached⟩ := yields stream reaches
  change Agrees (EStateM.map answer action stream) _
  rw [EStateM.map, run]
  exact ⟨rfl, reached⟩

end Agrees

namespace Operation

variable {stream : Buffered} {reader : Unbuffered}

/-- How much of the text is in the buffer does not show in what an operation comes to. -/
theorem agrees (operation : Operation) (reaches : stream.Reaches reader.comments reader.cursor) :
    Agrees (operation.onStream stream) (operation.onText reader) := by
  cases operation with
  | next =>
    have read := Buffered.yields_next reader.comments reader.cursor
    rw [onText]
    cases scan : reader.cursor.next reader.comments with
    | token token after =>
      rw [scan] at read
      exact .ok .token read reaches
    | fault fault after =>
      rw [scan] at read
      exact .error .token read reaches
    | finished after =>
      rw [scan] at read
      exact .ok .token read reaches
  | matchesSymbol symbol peek =>
    have dropped := Buffered.yields_matchesSymbol reader.comments reader.cursor symbol
    have seen := Buffered.yields_seesSymbol reader.comments reader.cursor symbol
    rw [onText]
    cases fits : symbol.isPrefixOf reader.cursor.rest <;> rw [fits] at dropped seen <;> cases peek
    · exact .ok .truth dropped reaches
    · exact .ok .truth seen reaches
    · exact .ok .truth dropped reaches
    · exact .ok .truth seen reaches
  | matchesClass isMember peek =>
    have dropped := Buffered.yields_matchesClass reader.comments reader.cursor isMember
    have seen := Buffered.yields_seesClass reader.comments reader.cursor isMember
    rw [onText]
    cases fits : reader.cursor.rest.head?.any isMember <;> rw [fits] at dropped seen <;> cases peek
    · exact .ok .tested dropped reaches
    · exact .ok .tested seen reaches
    · exact .ok .tested dropped reaches
    · exact .ok .tested seen reaches
  | characters count peek =>
    cases peek with
    | false => exact .ok _ (Buffered.yields_characters reader.comments reader.cursor count) reaches
    | true => exact .ok _ (Buffered.yields_peeked reader.comments reader.cursor count) reaches
  | readTill delimiter include_ allowEnd =>
    have read := Buffered.yields_readTill reader.comments reader.cursor delimiter include_ allowEnd
    unfold Buffered.tilled at read
    rw [onText]
    cases found : Lexer.splitAt? delimiter reader.cursor.rest with
    | some parts =>
      rw [found] at read
      exact .ok .text read reaches
    | none =>
      rw [found] at read
      cases allowEnd with
      | true => exact .ok .text read reaches
      | false => exact .error .text read reaches
  | readWhile isMember => exact .ok .text (Buffered.yields_readWhile reader.comments reader.cursor isMember) reaches
  | hasMore => exact .ok .truth (Buffered.yields_hasMore reader.comments reader.cursor) reaches
  | setComments enabled => exact ⟨rfl, reaches.rest, reaches.position, reaches.ended, rfl⟩

end Operation

/-! ### Runs of operations -/

variable {stream : Buffered} {reader : Unbuffered}

theorem Buffered.perform_agrees (operations : List Operation)
    (reaches : stream.Reaches reader.comments reader.cursor) :
    (stream.perform operations).1 = (reader.perform operations).1 ∧
      (stream.perform operations).2.Reaches (reader.perform operations).2.comments
        (reader.perform operations).2.cursor := by
  induction operations generalizing stream reader with
  | nil => exact ⟨rfl, reaches⟩
  | cons operation later ih =>
    -- A fault leaves a lexer behind as well, so the run goes on from either kind of result.
    have step := operation.agrees reaches
    obtain ⟨outcome, reached⟩ : Outcome.of Buffered.position (operation.onStream stream) =
          Outcome.of (·.cursor.position) (operation.onText reader) ∧
        (stateAfter (operation.onStream stream)).Reaches (stateAfter (operation.onText reader)).comments
          (stateAfter (operation.onText reader)).cursor := by
      cases got : operation.onStream stream <;> cases wanted : operation.onText reader <;> rw [got, wanted] at step
      case ok.ok => exact ⟨by rw [Outcome.of, Outcome.of, step.1, step.2.position], step.2⟩
      case error.error => exact ⟨by rw [Outcome.of, Outcome.of, step.1, step.2.position], step.2⟩
      all_goals exact step.elim
    obtain ⟨outcomes, last⟩ := ih reached
    exact ⟨List.cons_eq_cons.mpr ⟨outcome, outcomes⟩, last⟩

/-! ### Places in the text -/

def Scan.after : Scan → Cursor
  | .token _ after => after
  | .fault _ after => after
  | .finished after => after

namespace Cursor

variable {text : List Char} {cursor : Cursor}

theorem comment?_drops {scan : Scan} (read : cursor.comment? = some scan) :
    ∃ count, scan.after = cursor.drop count := by
  unfold comment? at read
  split at read
  · cases read
    exact ⟨_, rfl⟩
  · cases read
    split <;> exact ⟨_, rfl⟩
  · cases read

theorem plain_drops (cursor : Cursor) : ∃ count, cursor.plain.after = cursor.drop count := by
  unfold plain
  split
  · exact ⟨_, rfl⟩
  · split
    · exact ⟨0, rfl⟩
    · split
      · split <;> exact ⟨_, rfl⟩
      · split
        · exact ⟨_, rfl⟩
        · split
          · exact ⟨_, rfl⟩
          · exact ⟨0, rfl⟩

/-- Reading a token only moves forward, whatever is found. -/
theorem next_drops (comments : Bool) (cursor : Cursor) :
    ∃ count, (cursor.next comments).after = cursor.drop count := by
  have behind : ∃ count, (cursor.next comments).after = cursor.skipBlanks.drop count := by
    rw [next_eq_getD]
    cases read : (if comments then cursor.skipBlanks.comment? else none) with
    | none => exact plain_drops _
    | some scan => exact comment?_drops (Option.ite_none_right_eq_some.mp read).2
  obtain ⟨count, same⟩ := behind
  exact ⟨_, same.trans (drop_drop cursor _ count)⟩

def Inside (text : List Char) (cursor : Cursor) : Prop :=
  ∃ front, text = front ++ cursor.rest ∧ cursor.position = Position.start.advance front

theorem Inside.drop (inside : cursor.Inside text) (count : Nat) : (cursor.drop count).Inside text := by
  obtain ⟨front, whole, place⟩ := inside
  refine ⟨front ++ cursor.rest.take count, ?_, ?_⟩
  · rw [List.append_assoc, Cursor.drop, List.take_append_drop, whole]
  · rw [Cursor.drop, place, Position.advance_append]

end Cursor

theorem Operation.onText_drops (operation : Operation) (reader : Unbuffered) :
    ∃ count, (stateAfter (operation.onText reader)).cursor = reader.cursor.drop count := by
  cases operation with
  | next =>
    obtain ⟨count, same⟩ := Cursor.next_drops reader.comments reader.cursor
    refine ⟨count, ?_⟩
    rw [onText, ← same]
    cases reader.cursor.next reader.comments <;> rfl
  | matchesSymbol symbol peek =>
    rw [onText]
    cases symbol.isPrefixOf reader.cursor.rest <;> cases peek
    · exact ⟨0, rfl⟩
    · exact ⟨0, rfl⟩
    · exact ⟨_, rfl⟩
    · exact ⟨0, rfl⟩
  | matchesClass isMember peek =>
    rw [onText]
    cases reader.cursor.rest.head?.any isMember <;> cases peek
    · exact ⟨0, rfl⟩
    · exact ⟨0, rfl⟩
    · exact ⟨_, rfl⟩
    · exact ⟨0, rfl⟩
  | characters count peek =>
    cases peek
    · exact ⟨_, rfl⟩
    · exact ⟨0, rfl⟩
  | readTill delimiter include_ allowEnd =>
    rw [onText]
    cases Lexer.splitAt? delimiter reader.cursor.rest with
    | some parts => exact ⟨_, rfl⟩
    | none => cases allowEnd <;> exact ⟨_, rfl⟩
  | readWhile isMember => exact ⟨_, rfl⟩
  | hasMore => exact ⟨0, rfl⟩
  | setComments enabled => exact ⟨0, rfl⟩

namespace Unbuffered

theorem perform_inside {text : List Char} (operations : List Operation) {reader : Unbuffered}
    (inside : reader.cursor.Inside text) : (reader.perform operations).2.cursor.Inside text := by
  induction operations generalizing reader with
  | nil => exact inside
  | cons operation later ih =>
    obtain ⟨count, same⟩ := operation.onText_drops reader
    refine ih ?_
    rw [same]
    exact inside.drop count

end Unbuffered

namespace Buffered

/-- The stream stands in the text at its offset: the buffer and what is unread are what is left, line and column
are those of the offset, and there is more exactly before the end. -/
structure At (text : List Char) (stream : Buffered) : Prop where
  inside : stream.position.offset ≤ text.length
  rest : stream.buffer ++ stream.unread = text.drop stream.position.offset
  place : stream.position = Position.start.advance (text.take stream.position.offset)
  more : ∃ after, hasMore.run stream = .ok (decide (stream.position.offset < text.length)) after

theorem Reaches.at_of_inside {text : List Char} {flag : Bool} {stream : Buffered} {cursor : Cursor}
    (reaches : stream.Reaches flag cursor) (inside : cursor.Inside text) : stream.At text := by
  obtain ⟨front, whole, place⟩ := inside
  have offset : stream.position.offset = front.length := by
    rw [reaches.position, place, Position.advance_offset]
    exact Nat.zero_add _
  obtain ⟨after, run, -⟩ := yields_hasMore flag cursor stream reaches
  have left : decide (front.length < text.length) = !cursor.rest.isEmpty := by
    rw [whole, List.length_append]
    cases cursor.rest <;> simp
  refine ⟨?_, ?_, ?_, after, ?_⟩
  · rw [offset, whole, List.length_append]
    exact Nat.le_add_right _ _
  · rw [offset, whole, List.drop_left]
    exact reaches.rest
  · rw [offset, whole, List.take_left, reaches.position, place]
  · rw [offset, left]
    exact run

/-- **The buffer does not show.** Whatever is done on a stream in whatever order, every answer, every fault and every
place is the one that a lexer gives that has the whole text before it, and the stream stands in the text all along. -/
theorem perform_refines (text : String) (operations : List Operation) :
    ((ofText text).perform operations).1 = ((Unbuffered.ofText text).perform operations).1 ∧
      ((ofText text).perform operations).2.At text.toList := by
  have inside : (Unbuffered.ofText text).cursor.Inside text.toList := ⟨[], rfl, rfl⟩
  have reaches : (ofText text).Reaches (Unbuffered.ofText text).comments (Unbuffered.ofText text).cursor :=
    Reaches.ofText text
  obtain ⟨outcomes, last⟩ := perform_agrees operations reaches
  exact ⟨outcomes, last.at_of_inside (Unbuffered.perform_inside operations inside)⟩

/-- A symbol whose first character ends the first chunk. -/
example : ((ofText (String.ofList (List.replicate 63 ' ' ++ ['-', '>']))).perform [.next]).1.map (·.result.toOption) =
    [some (.token (some ⟨.arrow, "->", ⟨63, 1, 64⟩⟩))] := by decide +kernel

end Buffered

end CowView
