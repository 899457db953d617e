import CowView.Proofs.Grammar

/-!
The parser reads what the grammar allows: on the tokens of a strict well-formed expression it takes
exactly these and gives the expression, if the token after them would not be a part of it. A call is
given eight steps for each token and a few more for the calls that take none.
-/

namespace CowView

open TokenStream TypeExpr.Parser

theorem BareToken.StartsType.ne_nil {words : List BareToken} (starts : StartsType words) :
    words ≠ [] := by
  rintro rfl
  exact starts

theorem BareToken.StartsType.ahead_kind {words : List BareToken} (starts : StartsType words)
    (rest : List BareToken) : (ahead (words ++ rest)).kind.startsType = true := by
  cases words with
  | nil => exact starts.elim
  | cons first words => exact starts.1

theorem BareToken.StartsType.fits_eq_false {words : List BareToken} (starts : StartsType words)
    {kind : TokenKind} (other : kind.startsType = false) (value : Option String)
    (rest : List BareToken) : (ahead (words ++ rest)).fits kind value = false := by
  have shown := starts.ahead_kind rest
  have different : (ahead (words ++ rest)).kind ≠ kind := by
    intro same
    rw [same, other] at shown
    cases shown
  simp [fits, different]

theorem BareToken.fits_name_of_ne {token : BareToken} {value : String}
    (different : token ≠ .name value) : token.fits .identifier (some value) = false := by
  rw [Bool.eq_false_iff]
  intro fit
  simp only [fits, Option.all_some, Bool.and_eq_true, decide_eq_true_eq] at fit
  obtain ⟨kind, text⟩ := token
  obtain ⟨rfl, rfl⟩ := fit
  exact different rfl

/-! ### What is to be shown of each form -/

def TypeExpr.ReadsType (expr : TypeExpr) : Prop :=
  ∀ steps, 8 * expr.words.length + 4 ≤ steps →
    Reads (Parser.type steps) expr.words expr fun rest =>
      expr.continuesAt (BareToken.ahead rest).kind = false

def TypeExpr.ReadsBound (expr : TypeExpr) : Prop :=
  ∀ steps, 8 * expr.words.length + 3 ≤ steps → Reads (Parser.bound steps) expr.words expr
    fun rest => expr.boundContinuesAt (BareToken.ahead rest).kind = false

def Path.ReadsPath (found : Path) : Prop :=
  ∀ steps, 8 * found.toExpr.words.length + 2 ≤ steps → Reads (path steps) found.toExpr.words found
    fun rest => found.toExpr.boundContinuesAt (BareToken.ahead rest).kind = false

def Segment.FollowedBy (segment : Segment) (rest : List BareToken) : Prop :=
  segment.continuesAt (BareToken.ahead rest).kind = false ∧
    ((BareToken.ahead rest).kind = .doubleColon → (BareToken.ahead rest.tail).kind ≠ .lessThan)

def Segment.ReadsSegment (found : Segment) : Prop :=
  ∀ steps, 8 * found.words.length + 1 ≤ steps →
    Reads (segment steps) found.words found found.FollowedBy

def Argument.ReadsArgument (found : Argument) : Prop :=
  ∀ steps, 8 * found.words.length + 5 ≤ steps → Reads (argument steps) found.words found
    fun rest => (BareToken.ahead rest).kind ∈ [.comma, .greaterThan]

/-! ### Lists -/

theorem reads_types {exprs : List TypeExpr}
    (starts : ∀ expr ∈ exprs, BareToken.StartsType expr.words)
    (each : ∀ expr ∈ exprs, expr.ReadsType) {steps : Nat}
    (enough : 8 * (BareToken.join .comma (TypeExpr.wordsAll exprs)).length + 13 ≤ steps) :
    Reads (types .closeParen steps)
      (BareToken.join .comma (TypeExpr.wordsAll exprs) ++ [.symbol .closeParen]) exprs
      fun _ => True := by
  induction exprs generalizing steps with
  | nil =>
    obtain ⟨steps, rfl⟩ : ∃ less, steps = less + 1 := ⟨steps - 1, by omega⟩
    rw [types]
    exact .taken rfl (.pure _)
  | cons expr rest ih =>
    obtain ⟨steps, rfl⟩ : ∃ less, steps = less + 1 := ⟨steps - 1, by omega⟩
    have start := starts expr List.mem_cons_self
    have first := each expr List.mem_cons_self
    cases rest with
    | nil =>
      simp only [TypeExpr.wordsAll, BareToken.join] at enough ⊢
      rw [types]
      refine .passed (fun rest _ => ?_) ?_
      · rw [List.append_assoc]
        exact start.fits_eq_false rfl _ _
      · refine (first steps (by omega)).bind ?_ fun _ _ =>
          expr.continuesAt_eq_false (by simp [BareToken.symbol, TokenKind.extending])
        exact .passed (fun _ _ => rfl) (.ensured rfl (.pure _))
    | cons second rest =>
      simp only [TypeExpr.wordsAll, BareToken.join, List.length_append, List.length_cons] at enough ⊢
      rw [types, List.append_assoc]
      refine .passed (fun rest _ => ?_) ?_
      · rw [List.append_assoc]
        exact start.fits_eq_false rfl _ _
      · refine (first steps (by omega)).bind ?_ fun _ _ =>
          expr.continuesAt_eq_false (by simp [BareToken.symbol, TokenKind.extending])
        refine .taken rfl (.last (ih (fun expr member => starts expr (List.mem_cons_of_mem _ member))
          (fun expr member => each expr (List.mem_cons_of_mem _ member)) ?_) fun _ fit => fit)
        simp only [TypeExpr.wordsAll]
        omega

theorem reads_arguments {found : List Argument}
    (starts : ∀ argument ∈ found, ∃ first rest, argument.words = first :: rest ∧
      first.kind ≠ .greaterThan)
    (each : ∀ argument ∈ found, argument.ReadsArgument) {steps : Nat}
    (enough : 8 * (BareToken.join .comma (Argument.wordsAll found)).length + 14 ≤ steps) :
    Reads (arguments steps)
      (BareToken.join .comma (Argument.wordsAll found) ++ [.symbol .greaterThan]) found
      fun _ => True := by
  induction found generalizing steps with
  | nil =>
    obtain ⟨steps, rfl⟩ : ∃ less, steps = less + 1 := ⟨steps - 1, by omega⟩
    rw [arguments]
    exact .taken rfl (.pure _)
  | cons argument rest ih =>
    obtain ⟨steps, rfl⟩ : ∃ less, steps = less + 1 := ⟨steps - 1, by omega⟩
    obtain ⟨opening, others, shown, different⟩ := starts argument List.mem_cons_self
    have open_ : ∀ rest, (BareToken.ahead (argument.words ++ rest)).fits .greaterThan none = false := by
      intro rest
      rw [shown]
      simp [BareToken.fits, different]
    have first := each argument List.mem_cons_self
    cases rest with
    | nil =>
      simp only [Argument.wordsAll, BareToken.join] at enough ⊢
      rw [arguments]
      refine .passed (fun rest _ => ?_) ?_
      · rw [List.append_assoc]
        exact open_ _
      · refine (first steps (by omega)).bind ?_ fun _ _ => by simp [BareToken.symbol]
        exact .passed (fun _ _ => rfl) (.ensured rfl (.pure _))
    | cons second rest =>
      simp only [Argument.wordsAll, BareToken.join, List.length_append, List.length_cons] at enough ⊢
      rw [arguments, List.append_assoc]
      refine .passed (fun rest _ => ?_) ?_
      · rw [List.append_assoc]
        exact open_ _
      · refine (first steps (by omega)).bind ?_ fun _ _ => by simp [BareToken.symbol]
        refine .taken rfl (.last (ih (fun other member => starts other (List.mem_cons_of_mem _ member))
          (fun other member => each other (List.mem_cons_of_mem _ member)) ?_) fun _ fit => fit)
        simp only [Argument.wordsAll]
        omega

theorem reads_bounds {found : List TypeExpr} (shown : found ≠ [])
    (parted : TypeExpr.Parted found) (each : ∀ bound ∈ found, bound.ReadsBound) {steps : Nat}
    (enough : 8 * (BareToken.join .plus (TypeExpr.wordsAll found)).length + 4 ≤ steps) :
    Reads (bounds steps) (BareToken.join .plus (TypeExpr.wordsAll found)) found fun rest =>
      (BareToken.ahead rest).kind ≠ .plus ∧
        TypeExpr.lastContinuesAt (BareToken.ahead rest).kind found = false := by
  induction found generalizing steps with
  | nil => exact absurd rfl shown
  | cons bound rest ih =>
    obtain ⟨steps, rfl⟩ : ∃ less, steps = less + 1 := ⟨steps - 1, by omega⟩
    have first := each bound List.mem_cons_self
    cases rest with
    | nil =>
      simp only [TypeExpr.wordsAll, BareToken.join] at enough ⊢
      rw [bounds]
      refine (first steps (by omega)).before ?_ fun _ fit => fit.2
      exact .passed (fun rest fit => by simp [BareToken.fits, fit.1]) (.pure _)
    | cons second rest =>
      simp only [TypeExpr.wordsAll, BareToken.join, List.length_append, List.length_cons] at enough ⊢
      have apart : bound.boundContinuesAt .plus = false := parted bound List.mem_cons_self
      rw [bounds]
      refine (first steps (by omega)).bind ?_ fun _ _ => apart
      refine .taken rfl (.last (ih (List.cons_ne_nil _ _)
        (fun other member => parted other (List.mem_cons_of_mem _ member))
        (fun other member => each other (List.mem_cons_of_mem _ member)) ?_) fun _ fit => fit)
      simp only [TypeExpr.wordsAll]
      omega

/-! ### Paths -/

def Segment.wordsAfter (segments : List Segment) : List BareToken :=
  segments.flatMap fun segment => .symbol .doubleColon :: segment.words

theorem Segment.join_wordsAll (first : Segment) (rest : List Segment) :
    BareToken.join .doubleColon (wordsAll (first :: rest)) = first.words ++ wordsAfter rest := by
  induction rest generalizing first with
  | nil => simp [wordsAll, BareToken.join, wordsAfter]
  | cons second rest ih =>
    change first.words ++ .symbol .doubleColon :: BareToken.join _ (wordsAll (second :: rest)) = _
    rw [ih]
    rfl

theorem Segment.wordsAll_take (count : Nat) (segments : List Segment) :
    (wordsAll segments).take count = wordsAll (segments.take count) := by
  rw [wordsAll_eq_map, wordsAll_eq_map, List.map_take]

theorem Segment.wordsAll_drop (count : Nat) (segments : List Segment) :
    (wordsAll segments).drop count = wordsAll (segments.drop count) := by
  rw [wordsAll_eq_map, wordsAll_eq_map, List.map_drop]

def Segment.AllFollowedBy (segments : List Segment) (rest : List BareToken) : Prop :=
  (BareToken.ahead rest).kind ≠ .doubleColon ∧
    ∀ final ∈ segments.getLast?, final.continuesAt (BareToken.ahead rest).kind = false

theorem Segment.exists_words (segment : Segment) :
    ∃ rest, segment.words = .name segment.name :: rest := by
  cases segment with
  | plain name => exact ⟨_, rfl⟩
  | angle name arguments => exact ⟨_, rfl⟩
  | call name inputs output => exact ⟨_, rfl⟩

theorem Segment.followedBy_wordsAfter {segment : Segment} {others : List Segment}
    (parted : Segment.Parted (segment :: others)) {rest : List BareToken}
    (fit : Segment.AllFollowedBy (segment :: others) rest) :
    segment.FollowedBy (wordsAfter others ++ rest) := by
  cases others with
  | nil => exact ⟨fit.2 segment rfl, fun colon => absurd colon fit.1⟩
  | cons second others =>
    obtain ⟨more, shown⟩ := second.exists_words
    refine ⟨parted segment (by simp), fun _ => ?_⟩
    simp [wordsAfter, shown, BareToken.name]

theorem Segment.AllFollowedBy.tail {segment : Segment} {others : List Segment}
    {rest : List BareToken} (fit : Segment.AllFollowedBy (segment :: others) rest) :
    Segment.AllFollowedBy others rest := by
  refine ⟨fit.1, fun final member => fit.2 final ?_⟩
  cases others with
  | nil => cases member
  | cons second others => simpa using member

theorem Segment.AllFollowedBy.drop {segments others rest : List _} {head : Segment} {count : Nat}
    (fit : Segment.AllFollowedBy segments rest) (shown : segments.drop count = head :: others) :
    Segment.AllFollowedBy (head :: others) rest := by
  refine ⟨fit.1, fun final member => fit.2 final ?_⟩
  rw [← shown, List.getLast?_drop] at member
  split at member
  · cases member
  · exact member

theorem Segment.Parted.tail {segment : Segment} {others : List Segment}
    (parted : Segment.Parted (segment :: others)) : Segment.Parted others := by
  cases others with
  | nil => exact nofun
  | cons second others => exact fun other member => parted other (List.mem_cons_of_mem _ member)

theorem reads_segments {found : List Segment} (parted : Segment.Parted found)
    (each : ∀ segment ∈ found, segment.ReadsSegment) {steps : Nat}
    (enough : 8 * (Segment.wordsAfter found).length + 1 ≤ steps) :
    Reads (segments steps) (Segment.wordsAfter found) found (Segment.AllFollowedBy found) := by
  induction found generalizing steps with
  | nil =>
    obtain ⟨steps, rfl⟩ : ∃ less, steps = less + 1 := ⟨steps - 1, by omega⟩
    rw [segments]
    exact .passed (fun rest fit => by simpa [Segment.wordsAfter, BareToken.fits] using fit.1) (.pure _)
  | cons first rest ih =>
    obtain ⟨steps, rfl⟩ : ∃ less, steps = less + 1 := ⟨steps - 1, by omega⟩
    have split : Segment.wordsAfter (first :: rest) =
        .symbol .doubleColon :: (first.words ++ Segment.wordsAfter rest) := rfl
    rw [split, List.length_cons, List.length_append] at enough
    rw [segments, split]
    refine .taken rfl ?_
    refine (each first List.mem_cons_self steps (by omega)).bind ?_ fun _ fit =>
      Segment.followedBy_wordsAfter parted fit
    exact .last (ih parted.tail (fun other member => each other (List.mem_cons_of_mem _ member))
      (by omega)) fun _ fit => fit.tail

theorem Segment.lastContinuesAt_eq (kind : TokenKind) (before : Bool) (segments : List Segment) :
    lastContinuesAt kind before segments = (segments.getLast?.map (continuesAt kind)).getD before := by
  induction segments generalizing before with
  | nil => rfl
  | cons segment rest ih =>
    rw [lastContinuesAt, ih]
    cases rest with
    | nil => rfl
    | cons second rest => simp [List.getLast?_cons]

theorem Segment.allFollowedBy_of_continuesAt {first : Segment} {segments rest : List _}
    (fit : (TypeExpr.path first segments).boundContinuesAt (BareToken.ahead rest).kind = false) :
    Segment.AllFollowedBy (first :: segments) rest := by
  simp only [TypeExpr.boundContinuesAt, Bool.or_eq_false_iff, decide_eq_false_iff_not] at fit
  refine ⟨fit.1, fun final member => ?_⟩
  have last := fit.2
  rw [Segment.lastContinuesAt_eq] at last
  rw [List.getLast?_cons] at member
  cases shown : segments.getLast? with
  | none => simp_all
  | some other => simp_all

theorem reads_plainPath {first : Segment} {rest : List Segment}
    (parted : Segment.Parted (first :: rest))
    (each : ∀ segment ∈ first :: rest, segment.ReadsSegment) :
    Path.ReadsPath ⟨none, first, rest⟩ := by
  intro steps enough
  have split : (TypeExpr.path first rest).words = first.words ++ Segment.wordsAfter rest :=
    Segment.join_wordsAll first rest
  simp only [Path.toExpr, split, List.length_append] at enough ⊢
  obtain ⟨steps, rfl⟩ : ∃ less, steps = less + 1 := ⟨steps - 1, by omega⟩
  obtain ⟨others, shown⟩ := first.exists_words
  rw [path]
  refine .passed (fun rest _ => by simp [shown, BareToken.fits, BareToken.name]) ?_
  refine (each first List.mem_cons_self steps (by omega)).bind ?_ fun _ fit =>
    Segment.followedBy_wordsAfter parted (Segment.allFollowedBy_of_continuesAt fit)
  exact .last (reads_segments parted.tail
    (fun other member => each other (List.mem_cons_of_mem _ member)) (by omega)) fun _ fit =>
      (Segment.allFollowedBy_of_continuesAt fit).tail

/-- The last segments of a qualified path follow its subject and its trait. -/
theorem reads_remaining {first : Segment} {rest : List Segment}
    (parted : Segment.Parted (first :: rest))
    (each : ∀ segment ∈ first :: rest, segment.ReadsSegment) {α : Type}
    (done : Segment → List Segment → α) (steps : Nat)
    (enough : 8 * (first.words ++ Segment.wordsAfter rest).length + 1 ≤ steps) :
    Reads (do
        let _ ← ensure .greaterThan
        let _ ← ensure .doubleColon
        let first ← segment steps
        let rest ← segments steps
        pure (done first rest))
      (.symbol .greaterThan :: .symbol .doubleColon ::
        (first.words ++ Segment.wordsAfter rest)) (done first rest)
      (Segment.AllFollowedBy (first :: rest)) := by
  rw [List.length_append] at enough
  refine .ensured rfl (.ensured rfl ?_)
  refine (each first List.mem_cons_self steps (by omega)).bind ?_ fun _ fit =>
    Segment.followedBy_wordsAfter parted fit
  exact .last (reads_segments parted.tail
    (fun other member => each other (List.mem_cons_of_mem _ member)) (by omega)) fun _ fit => fit.tail

theorem reads_bareQualified {subject : TypeExpr} {first : Segment} {rest : List Segment}
    (reads : subject.ReadsType) (parted : Segment.Parted (first :: rest))
    (each : ∀ segment ∈ first :: rest, segment.ReadsSegment) :
    Path.ReadsPath ⟨some (subject, 0), first, rest⟩ := by
  intro steps enough
  obtain ⟨steps, rfl⟩ : ∃ less, steps = less + 1 := ⟨steps - 1, by omega⟩
  have split : (Path.toExpr ⟨some (subject, 0), first, rest⟩).words =
      .symbol .lessThan :: (subject.words ++ .symbol .greaterThan :: .symbol .doubleColon ::
        (first.words ++ Segment.wordsAfter rest)) := by
    rw [← Segment.join_wordsAll]
    rfl
  simp only [split, List.length_append, List.length_cons] at enough ⊢
  rw [path]
  refine .taken rfl ?_
  refine (reads steps (by omega)).bind ?_ fun _ _ =>
    subject.continuesAt_eq_false (by simp [BareToken.symbol, TokenKind.extending])
  refine .passed (fun _ _ => rfl) ?_
  exact (reads_remaining parted each (fun first rest => Path.mk (some (subject, 0)) first rest)
    steps (by rw [List.length_append]; omega)).strengthen fun _ fit => Segment.allFollowedBy_of_continuesAt fit

theorem reads_traitQualified {subject : TypeExpr} {count : Nat} {first head : Segment}
    {rest tail : List Segment} (reads : subject.ReadsType) (shown : rest.drop count = head :: tail)
    (remaining : Segment.Parted (head :: tail)) (trait : Segment.Parted (first :: rest.take count))
    (each : ∀ segment ∈ first :: rest, segment.ReadsSegment) :
    Path.ReadsPath ⟨some (subject, count + 1), first, rest⟩ := by
  intro steps enough
  obtain ⟨steps, rfl⟩ : ∃ less, steps = less + 1 := ⟨steps - 1, by omega⟩
  have front : ∀ segment ∈ first :: rest.take count, segment.ReadsSegment := fun segment member =>
    each segment (List.mem_of_mem_take (i := count + 1) member)
  have back : ∀ segment ∈ head :: tail, segment.ReadsSegment := fun segment member =>
    each segment (List.mem_cons_of_mem _ (List.mem_of_mem_drop (shown ▸ member)))
  have split : (Path.toExpr ⟨some (subject, count + 1), first, rest⟩).words =
      .symbol .lessThan :: (subject.words ++ .name "as" ::
        ((Path.toExpr ⟨none, first, rest.take count⟩).words ++
          .symbol .greaterThan :: .symbol .doubleColon ::
            (head.words ++ Segment.wordsAfter tail))) := by
    have all : first.words :: Segment.wordsAll rest = Segment.wordsAll (first :: rest) := rfl
    simp only [Path.toExpr, TypeExpr.words, BareToken.qualified, Int.toNat_natCast, all,
      Segment.wordsAll_take, Segment.wordsAll_drop, List.drop_succ_cons, shown, Segment.join_wordsAll]
    rw [if_pos (by omega)]
    rfl
  simp only [split, List.length_append, List.length_cons] at enough ⊢
  rw [path]
  refine .taken rfl ?_
  refine (reads steps (by omega)).bind ?_ fun _ _ =>
    subject.continuesAt_eq_false (by simp [BareToken.symbol, BareToken.name, TokenKind.extending])
  refine .taken rfl ?_
  refine (Reads.map Path.segments (reads_plainPath trait front steps (by omega))).bind ?_ fun _ _ =>
    TypeExpr.boundContinuesAt_eq_false (by simp [BareToken.symbol, TokenKind.extending]) _
  have assembled := reads_remaining remaining back (fun next others =>
      Path.mk (some (subject, (first :: rest.take count).length)) first
        (rest.take count ++ next :: others)) steps (by rw [List.length_append]; omega)
  have ended : ∀ words, (Path.toExpr ⟨some (subject, count + 1), first, rest⟩).boundContinuesAt
      (BareToken.ahead words).kind = false → Segment.AllFollowedBy (head :: tail) words :=
    fun _ fit => (Segment.allFollowedBy_of_continuesAt fit).tail.drop shown
  -- the position of the path read is how many segments its trait has
  have length : (rest.take count).length = count := by
    refine List.length_take_of_le (Nat.le_of_not_le fun long => ?_)
    rw [List.drop_eq_nil_of_le long] at shown
    cases shown
  have same : Path.mk (some (subject, (first :: rest.take count).length)) first
      (rest.take count ++ head :: tail) = ⟨some (subject, count + 1), first, rest⟩ := by
    rw [List.length_cons, length, ← shown, List.take_append_drop]
  rw [same] at assembled
  exact assembled.strengthen ended

theorem reads_qualifiedPath {subject : TypeExpr} {position : Nat} {first : Segment}
    {rest : List Segment} (reads : subject.ReadsType) (within : position ≤ rest.length)
    (remaining : Segment.Parted ((first :: rest).drop position))
    (trait : Segment.Parted ((first :: rest).take position))
    (each : ∀ segment ∈ first :: rest, segment.ReadsSegment) :
    Path.ReadsPath ⟨some (subject, position), first, rest⟩ := by
  cases position with
  | zero => exact reads_bareQualified reads remaining each
  | succ count =>
    obtain ⟨head, tail, shown⟩ : ∃ head tail, rest.drop count = head :: tail :=
      List.exists_cons_of_ne_nil (by rw [Ne, List.drop_eq_nil_iff]; omega)
    rw [List.drop_succ_cons, shown] at remaining
    exact reads_traitQualified reads shown remaining trait each

/-! ### Segments and arguments -/

theorem reads_output {found : Option TypeExpr} (each : ∀ result ∈ found, result.ReadsType)
    {steps : Nat} (enough : 8 * (TypeExpr.outputWords found).length + 1 ≤ steps) :
    Reads (output steps) (TypeExpr.outputWords found) found fun rest =>
      (Segment.call "" [] found).continuesAt (BareToken.ahead rest).kind = false := by
  obtain ⟨steps, rfl⟩ : ∃ less, steps = less + 1 := ⟨steps - 1, by omega⟩
  rw [output]
  cases found with
  | none =>
    refine .passed (fun rest fit => ?_) (.pure _)
    have noArrow : (BareToken.ahead rest).kind ≠ .arrow := by
      simpa [Segment.continuesAt] using fit
    simp [TypeExpr.outputWords, BareToken.fits, noArrow]
  | some result =>
    simp only [TypeExpr.outputWords, List.length_cons] at enough ⊢
    refine .taken rfl (.last (each result rfl steps (by omega)) fun rest fit => ?_)
    simpa [Segment.continuesAt] using fit

theorem reads_plainSegment (name : String) : (Segment.plain name).ReadsSegment := by
  intro steps enough
  obtain ⟨steps, rfl⟩ : ∃ less, steps = less + 1 := ⟨steps - 1, by omega⟩
  rw [TypeExpr.Parser.segment]
  have open_ : ∀ rest, (Segment.plain name).FollowedBy rest →
      (BareToken.ahead rest).kind ≠ .lessThan ∧ (BareToken.ahead rest).kind ≠ .openParen := by
    intro rest fit
    simpa [Segment.continuesAt] using fit.1
  refine .ensured rfl (.seen false (fun rest fit => ?_) ?_)
  · simp [BareToken.fits, (open_ rest fit).1]
  refine .byCases (fun rest => (BareToken.ahead rest).kind = .doubleColon) ?_ ?_
  · refine .seen true (fun rest fit => by simp [BareToken.fits, fit.2]) ?_
    refine .glimpsed fun rest fit => ⟨?_, ?_⟩
    · rintro rfl
      cases fit.2
    · simp [BareToken.fits, fit.1.2 fit.2]
  · refine .seen false (fun rest fit => by simp [BareToken.fits, fit.2]) ?_
    exact .passed (fun rest fit => by simp [BareToken.fits, (open_ rest fit.1).2]) (.pure _)

theorem reads_angleSegment (name : String) {found : List Argument}
    (starts : ∀ argument ∈ found, ∃ first rest, argument.words = first :: rest ∧
      first.kind ≠ .greaterThan)
    (each : ∀ argument ∈ found, argument.ReadsArgument) :
    (Segment.angle name found).ReadsSegment := by
  intro steps enough
  simp only [Segment.words, List.length_cons, List.length_append, List.length_nil] at enough
  obtain ⟨steps, rfl⟩ : ∃ less, steps = less + 2 := ⟨steps - 2, by omega⟩
  rw [TypeExpr.Parser.segment, Segment.words]
  refine .ensured rfl (.seen true (fun _ _ => rfl) (.last ?_ fun _ _ => trivial))
  rw [angleArguments]
  exact .ensured rfl (reads_arguments starts each (by omega))

theorem reads_callSegment (name : String) {inputs : List TypeExpr} {result : Option TypeExpr}
    (starts : ∀ expr ∈ inputs, BareToken.StartsType expr.words)
    (each : ∀ expr ∈ inputs, expr.ReadsType) (last : ∀ expr ∈ result, expr.ReadsType) :
    (Segment.call name inputs result).ReadsSegment := by
  intro steps enough
  simp only [Segment.words, List.length_cons, List.length_append] at enough
  obtain ⟨steps, rfl⟩ : ∃ less, steps = less + 1 := ⟨steps - 1, by omega⟩
  have split : (Segment.call name inputs result).words =
      .name name :: .symbol .openParen :: ((BareToken.join .comma (TypeExpr.wordsAll inputs) ++
        [.symbol .closeParen]) ++ TypeExpr.outputWords result) := by
    simp [Segment.words]
  rw [TypeExpr.Parser.segment, split]
  refine .ensured rfl (.seen false (fun _ _ => rfl) (.seen false (fun _ _ => rfl) (.taken rfl ?_)))
  refine (reads_types starts each (by omega)).bind ?_ fun _ _ => trivial
  refine .last (reads_output last (by omega)) fun rest fit => ?_
  cases result <;> exact fit.1

/-- A token that may follow an argument goes on with nothing. -/
theorem TokenKind.not_extending {kind : TokenKind} (follows : kind ∈ [comma, greaterThan]) :
    kind ∉ extending ∧ kind ≠ equals ∧ kind ≠ colon := by
  revert follows
  cases kind <;> decide

theorem reads_binding (name : String) {found : TypeExpr} (reads : found.ReadsType) :
    (Argument.binding name found).ReadsArgument := by
  intro steps enough
  simp only [Argument.words, List.length_cons] at enough
  obtain ⟨steps, rfl⟩ : ∃ less, steps = less + 1 := ⟨steps - 1, by omega⟩
  rw [argument, Argument.words]
  refine .looked fun placed bare => ?_
  have kind : placed.kind = .identifier := congrArg BareToken.kind bare
  simp only [kind]
  refine .moved fun token same => ?_
  have value : token.value = name := congrArg BareToken.value same
  rw [value]
  refine .taken rfl (.last (reads steps (by omega)) fun rest fit => ?_)
  exact found.continuesAt_eq_false (TokenKind.not_extending fit).1

theorem reads_constraint (name : String) {found : List TypeExpr} (shown : found ≠ [])
    (parted : TypeExpr.Parted found) (each : ∀ bound ∈ found, bound.ReadsBound) :
    (Argument.constraint name found).ReadsArgument := by
  intro steps enough
  simp only [Argument.words, List.length_cons] at enough
  obtain ⟨steps, rfl⟩ : ∃ less, steps = less + 1 := ⟨steps - 1, by omega⟩
  rw [argument, Argument.words]
  refine .looked fun placed bare => ?_
  have kind : placed.kind = .identifier := congrArg BareToken.kind bare
  simp only [kind]
  refine .moved fun token same => ?_
  have value : token.value = name := congrArg BareToken.value same
  rw [value]
  refine .passed (fun _ _ => rfl) (.taken rfl ?_)
  refine .last (reads_bounds shown parted each (by omega)) fun rest fit => ⟨?_, ?_⟩
  · intro plus
    simp [plus] at fit
  · exact TypeExpr.lastContinuesAt_eq_false (TokenKind.not_extending fit).1 found

theorem reads_lifetime (duration : Lifetime) :
    Reads lifetime [.lifetime duration] duration fun _ => True := by
  refine .ensured rfl ?_
  rw [BareToken.lifetime, Lifetime.ofMarked?_render]
  exact .pure _

theorem reads_lifetimeArgument (duration : Lifetime) :
    (Argument.type (.lifetime duration)).ReadsArgument := by
  intro steps enough
  obtain ⟨steps, rfl⟩ : ∃ less, steps = less + 1 := ⟨steps - 1, by omega⟩
  rw [argument]
  refine .looked fun placed bare => ?_
  have kind : placed.kind = .lifetime := congrArg BareToken.kind bare
  simp only [kind]
  exact .last (reads_lifetime duration) fun _ _ => trivial

theorem reads_constantArgument (value : String) :
    (Argument.type (.constant value)).ReadsArgument := by
  intro steps enough
  obtain ⟨steps, rfl⟩ : ∃ less, steps = less + 1 := ⟨steps - 1, by omega⟩
  rw [argument]
  refine .looked fun placed bare => ?_
  have kind : placed.kind = .number := congrArg BareToken.kind bare
  simp only [kind]
  refine .moved fun token same => ?_
  have shown : token.value = value := congrArg BareToken.value same
  rw [shown]
  exact .pure _

/-- A type among arguments. If it starts with a name, this is put back after a look at the token
behind it. -/
theorem reads_typeArgument {found : TypeExpr} (starts : BareToken.StartsType found.words)
    (reads : found.ReadsType) : (Argument.type found).ReadsArgument := by
  intro steps enough
  have length : (Argument.type found).words.length = found.words.length := rfl
  obtain ⟨steps, rfl⟩ : ∃ less, steps = less + 1 := ⟨steps - 1, by omega⟩
  have whole : Reads (type steps >>= fun type => pure (Argument.type type)) found.words
      (.type found) fun rest => (BareToken.ahead rest).kind ∈ [.comma, .greaterThan] := by
    refine .last (reads steps (by omega)) fun rest fit => ?_
    exact found.continuesAt_eq_false (TokenKind.not_extending fit).1
  rw [argument, Argument.words]
  cases shown : found.words with
  | nil => simp [shown, BareToken.StartsType] at starts
  | cons first others =>
    rw [shown] at starts whole
    refine .looked fun placed bare => ?_
    have kind : placed.kind = first.kind := congrArg BareToken.kind bare
    rw [kind]
    have start := starts.1
    split
    next other => rw [other] at start; cases start
    next other => rw [other] at start; cases start
    next name =>
      refine .moved fun token same => ?_
      have second : ∀ rest, (BareToken.ahead rest).kind ∈ [.comma, .greaterThan] →
          (BareToken.ahead (others ++ rest)).kind ≠ .equals ∧
            (BareToken.ahead (others ++ rest)).kind ≠ .colon := by
        intro rest fit
        cases others with
        | nil => exact (TokenKind.not_extending fit).2
        | cons second others => exact starts.2 second rfl name
      refine .passed (fun rest fit => by simp [BareToken.fits, (second rest fit).1]) ?_
      refine .passed (fun rest fit => by simp [BareToken.fits, (second rest fit).2]) ?_
      refine .returned token (by rw [same]; exact whole) ?_
      rw [show token.kind = first.kind from congrArg BareToken.kind same, name]
      decide
    next => exact whole

/-! ### Expressions -/

theorem TypeExpr.words_path (first : Segment) (rest : List Segment) :
    (TypeExpr.path first rest).words = first.words ++ Segment.wordsAfter rest :=
  Segment.join_wordsAll first rest

/-- The second token of a path makes no binding and no constraint of it. -/
theorem startsType_path (first : Segment) (rest : List Segment) :
    BareToken.StartsType (TypeExpr.path first rest).words := by
  rw [TypeExpr.words_path]
  cases first with
  | plain name =>
    cases rest with
    | nil => exact ⟨rfl, nofun⟩
    | cons second rest => exact ⟨rfl, by simp [Segment.wordsAfter, BareToken.symbol]⟩
  | angle name arguments => exact ⟨rfl, by simp [BareToken.symbol]⟩
  | call name inputs output => exact ⟨rfl, by simp [BareToken.symbol]⟩

theorem TypeExpr.exists_words_of_isBound {bound : TypeExpr} (isBound : bound.isBound = true) :
    ∃ first rest, bound.words = first :: rest ∧
      first.kind ∈ [.lifetime, .identifier, .lessThan, .openParen] := by
  cases bound with
  | lifetime duration => exact ⟨_, _, rfl, by simp [BareToken.lifetime]⟩
  | path first rest =>
    obtain ⟨others, shown⟩ := first.exists_words
    rw [TypeExpr.words_path, shown]
    exact ⟨_, _, rfl, by simp [BareToken.name]⟩
  | qualified => exact ⟨_, _, rfl, by simp [BareToken.symbol]⟩
  | group => exact ⟨_, _, rfl, by simp [BareToken.symbol]⟩
  | _ => cases isBound

/-- The first token of bounds makes no binding and no constraint of the word before them. -/
theorem head?_bounds {bounds : List TypeExpr} (isBound : ∀ bound ∈ bounds, bound.isBound = true) :
    ∀ second ∈ (BareToken.join .plus (TypeExpr.wordsAll bounds)).head?,
      second.kind ≠ .equals ∧ second.kind ≠ .colon := by
  cases bounds with
  | nil => nofun
  | cons bound rest =>
    obtain ⟨first, others, shown, kind⟩ :=
      TypeExpr.exists_words_of_isBound (isBound bound List.mem_cons_self)
    have head : (BareToken.join .plus (TypeExpr.wordsAll (bound :: rest))).head? = some first := by
      cases rest <;> simp [TypeExpr.wordsAll, BareToken.join, shown]
    intro second member
    rw [head] at member
    cases member
    revert kind
    cases first.kind <;> decide

theorem TypeExpr.startsType {strict : Prop} {expr : TypeExpr} (isType : expr.isType = true)
    (formed : expr.WellFormed strict) : BareToken.StartsType expr.words := by
  cases expr with
  | lifetime | constant => cases isType
  | inferred => exact ⟨rfl, nofun⟩
  | never => exact ⟨rfl, nofun⟩
  | verbatim text => exact formed.starts
  | path first rest => exact startsType_path first rest
  | qualified | array | slice | group | reference | pointer => exact ⟨rfl, nofun⟩
  | tuple elements =>
    match elements with
    | [] | [_] | _ :: _ :: _ => exact ⟨rfl, nofun⟩
  | function inputs output => exact ⟨rfl, by simp [BareToken.symbol]⟩
  | implTrait bounds => exact ⟨rfl, fun second member _ => head?_bounds formed.1 second member⟩
  | traitObject bounds => exact ⟨rfl, fun second member _ => head?_bounds formed.1 second member⟩

/-- A token leaves a path as it is where a type is expected if it is no bang and leaves it as it is
anywhere. -/
theorem Path.continuesAt_eq_false_iff {found : Path} {kind : TokenKind} :
    found.toExpr.continuesAt kind = false ↔
      kind ≠ .bang ∧ found.toExpr.boundContinuesAt kind = false := by
  obtain ⟨subject, first, rest⟩ := found
  cases subject <;>
    simp [Path.toExpr, TypeExpr.continuesAt, TypeExpr.boundContinuesAt, and_assoc]

/-- Where a type is expected, what starts with a path that has no reserved name is left to the function
for paths. -/
theorem reads_type_of_path {found : Path} (isType : found.toExpr.isType = true)
    {more : List BareToken} {value : TypeExpr} {follow : List BareToken → Prop} {steps : Nat}
    (whole : Reads (pathOrMacro steps) (found.toExpr.words ++ more) value follow) :
    Reads (type (steps + 1)) (found.toExpr.words ++ more) value follow := by
  rw [type]
  obtain ⟨subject, first, rest⟩ := found
  cases subject with
  | some pair =>
    refine .looked fun placed bare => ?_
    have kind : placed.kind = .lessThan := congrArg BareToken.kind bare
    simp only [kind]
    exact whole
  | none =>
    obtain ⟨others, shown⟩ := first.exists_words
    have unreserved : first.name ∉ TypeExpr.reserved := by
      simpa [Path.toExpr, TypeExpr.isType] using isType
    simp only [Path.toExpr, TypeExpr.words_path, shown, List.cons_append] at whole ⊢
    refine .looked fun placed bare => ?_
    have kind : placed.kind = .identifier := congrArg BareToken.kind bare
    have value : placed.value = first.name := congrArg BareToken.value bare
    rw [← value] at unreserved
    simp only [kind]
    split
    next same => exact absurd (by rw [same]; decide) unreserved
    next same => exact absurd (by rw [same]; decide) unreserved
    next same => exact absurd (by rw [same]; decide) unreserved
    next same => exact absurd (by rw [same]; decide) unreserved
    next => exact whole

theorem reads_pathType {found : Path} (reads : found.ReadsPath)
    (isType : found.toExpr.isType = true) : found.toExpr.ReadsType := by
  intro steps enough
  obtain ⟨steps, rfl⟩ : ∃ less, steps = less + 2 := ⟨steps - 2, by omega⟩
  have whole : Reads (pathOrMacro (steps + 1)) (found.toExpr.words ++ []) found.toExpr fun rest =>
      found.toExpr.continuesAt (BareToken.ahead rest).kind = false := by
    rw [pathOrMacro, List.append_nil]
    refine (reads steps (by omega)).before (.seen false (fun rest fit => ?_) (.pure _)) fun rest fit =>
      (Path.continuesAt_eq_false_iff.mp fit).2
    simp [BareToken.fits, (Path.continuesAt_eq_false_iff.mp fit).1]
  have read := reads_type_of_path isType whole
  rwa [List.append_nil] at read

theorem reads_pathBound {found : Path} (reads : found.ReadsPath) : found.toExpr.ReadsBound := by
  intro steps enough
  obtain ⟨steps, rfl⟩ : ∃ less, steps = less + 1 := ⟨steps - 1, by omega⟩
  have later : Reads (path steps >>= fun found => pure found.toExpr) found.toExpr.words found.toExpr
      fun rest => found.toExpr.boundContinuesAt (BareToken.ahead rest).kind = false :=
    .last (reads steps (by omega)) fun _ fit => fit
  have start : ∀ kind, kind = .lifetime ∨ kind = .openParen → ∀ rest,
      (BareToken.ahead (found.toExpr.words ++ rest)).fits kind none = false := by
    intro kind other rest'
    obtain ⟨subject, first, rest⟩ := found
    cases subject with
    | some pair => rcases other with rfl | rfl <;> rfl
    | none =>
      obtain ⟨others, shown⟩ := first.exists_words
      rw [Path.toExpr, TypeExpr.words_path, shown]
      rcases other with rfl | rfl <;> rfl
  rw [bound]
  refine .seen false (fun rest _ => start _ (.inl rfl) rest) ?_
  exact .passed (fun rest _ => start _ (.inr rfl) rest) later

theorem reads_inferred : TypeExpr.inferred.ReadsType := by
  intro steps enough
  obtain ⟨steps, rfl⟩ : ∃ less, steps = less + 1 := ⟨steps - 1, by omega⟩
  rw [type]
  refine .looked fun placed bare => ?_
  have kind : placed.kind = .identifier := congrArg BareToken.kind bare
  have value : placed.value = "_" := congrArg BareToken.value bare
  simp only [kind, value]
  exact .moved fun _ _ => .pure _

theorem reads_never : TypeExpr.never.ReadsType := by
  intro steps enough
  obtain ⟨steps, rfl⟩ : ∃ less, steps = less + 1 := ⟨steps - 1, by omega⟩
  rw [type]
  refine .looked fun placed bare => ?_
  have kind : placed.kind = .bang := congrArg BareToken.kind bare
  simp only [kind]
  exact .moved fun _ _ => .pure _

theorem reads_constant (length : String) :
    Reads constant [BareToken.measure length] length fun _ => True := by
  have kind : (BareToken.measure length).kind = .number ∨
      (BareToken.measure length).kind = .identifier := by
    unfold BareToken.measure
    split
    · exact .inl rfl
    · exact .inr rfl
  have value : (BareToken.measure length).value = length := by
    unfold BareToken.measure
    split <;> rfl
  refine .looked fun placed bare => ?_
  have same : placed.kind = (BareToken.measure length).kind := congrArg BareToken.kind bare
  have taken : Reads (TokenStream.next >>= fun token => pure token.value)
      [BareToken.measure length] length fun _ => True := by
    refine .moved fun token found => ?_
    have shown : token.value = length := (congrArg BareToken.value found).trans value
    rw [shown]
    exact .pure _
  rcases kind with kind | kind <;> (rw [same, kind]; exact taken)

theorem reads_array {element : TypeExpr} (length : String) (reads : element.ReadsType) :
    (TypeExpr.array element length).ReadsType := by
  intro steps enough
  simp only [TypeExpr.words, List.length_cons, List.length_append] at enough
  obtain ⟨steps, rfl⟩ : ∃ less, steps = less + 1 := ⟨steps - 1, by omega⟩
  rw [type, TypeExpr.words]
  refine .looked fun placed bare => ?_
  have kind : placed.kind = .openSquare := congrArg BareToken.kind bare
  simp only [kind]
  refine .moved fun _ _ => (reads steps (by omega)).bind ?_ fun _ _ =>
    element.continuesAt_eq_false (by simp [BareToken.symbol, TokenKind.extending])
  refine .taken rfl ((reads_constant length).bind ?_ fun _ _ => trivial)
  exact .ensured rfl (.pure _)

theorem reads_slice {element : TypeExpr} (reads : element.ReadsType) :
    (TypeExpr.slice element).ReadsType := by
  intro steps enough
  simp only [TypeExpr.words, List.length_cons, List.length_append] at enough
  obtain ⟨steps, rfl⟩ : ∃ less, steps = less + 1 := ⟨steps - 1, by omega⟩
  rw [type, TypeExpr.words]
  refine .looked fun placed bare => ?_
  have kind : placed.kind = .openSquare := congrArg BareToken.kind bare
  simp only [kind]
  refine .moved fun _ _ => (reads steps (by omega)).bind ?_ fun _ _ =>
    element.continuesAt_eq_false (by simp [BareToken.symbol, TokenKind.extending])
  exact .passed (fun _ _ => rfl) (.ensured rfl (.pure _))

theorem reads_parenthesis {found : TypeExpr} {words : List BareToken}
    (shown : found.words = .symbol .openParen :: words)
    (reads : ∀ steps, 8 * words.length + 5 ≤ steps →
      Reads (tupleOrGroup steps) words found fun _ => True) : found.ReadsType := by
  intro steps enough
  simp only [shown, List.length_cons] at enough
  obtain ⟨steps, rfl⟩ : ∃ less, steps = less + 1 := ⟨steps - 1, by omega⟩
  rw [type, shown]
  refine .looked fun placed bare => ?_
  have kind : placed.kind = .openParen := congrArg BareToken.kind bare
  simp only [kind]
  exact .moved fun _ _ => (reads steps (by omega)).strengthen fun _ _ => trivial

theorem reads_group {element : TypeExpr} (starts : BareToken.StartsType element.words)
    (reads : element.ReadsType) : (TypeExpr.group element).ReadsType := by
  refine reads_parenthesis rfl fun steps enough => ?_
  rw [List.length_append] at enough
  obtain ⟨steps, rfl⟩ : ∃ less, steps = less + 1 := ⟨steps - 1, by omega⟩
  rw [tupleOrGroup]
  refine .passed (fun rest _ => ?_) ?_
  · rw [List.append_assoc]
    exact starts.fits_eq_false rfl _ _
  refine (reads steps (by omega)).bind ?_ fun _ _ =>
    element.continuesAt_eq_false (by simp [BareToken.symbol, TokenKind.extending])
  exact .taken rfl (.pure _)

theorem reads_tuple {elements : List TypeExpr}
    (starts : ∀ element ∈ elements, BareToken.StartsType element.words)
    (each : ∀ element ∈ elements, element.ReadsType) :
    (TypeExpr.tuple elements).ReadsType := by
  cases elements with
  | nil =>
    refine reads_parenthesis rfl fun steps enough => ?_
    obtain ⟨steps, rfl⟩ : ∃ less, steps = less + 1 := ⟨steps - 1, by omega⟩
    rw [tupleOrGroup]
    exact .taken rfl (.pure _)
  | cons first rest =>
    have start := starts first List.mem_cons_self
    -- the comma behind the first element is written even if nothing else follows
    have shown : (TypeExpr.tuple (first :: rest)).words =
        .symbol .openParen :: (first.words ++ .symbol .comma ::
          (BareToken.join .comma (TypeExpr.wordsAll rest) ++ [.symbol .closeParen])) := by
      cases rest <;> simp [TypeExpr.words, TypeExpr.wordsAll, BareToken.join]
    refine reads_parenthesis shown fun steps enough => ?_
    simp only [List.length_append, List.length_cons] at enough
    obtain ⟨steps, rfl⟩ : ∃ less, steps = less + 1 := ⟨steps - 1, by omega⟩
    rw [tupleOrGroup]
    refine .passed (fun rest _ => ?_) ?_
    · rw [List.append_assoc]
      exact start.fits_eq_false rfl _ _
    refine (each first List.mem_cons_self steps (by omega)).bind ?_ fun _ _ =>
      first.continuesAt_eq_false (by simp [BareToken.symbol, TokenKind.extending])
    refine .passed (fun _ _ => rfl) (.ensured rfl (.last ?_ fun _ fit => fit))
    exact reads_types (fun other member => starts other (List.mem_cons_of_mem _ member))
      (fun other member => each other (List.mem_cons_of_mem _ member)) (by omega)

theorem reads_function {inputs : List TypeExpr} {result : Option TypeExpr}
    (starts : ∀ expr ∈ inputs, BareToken.StartsType expr.words)
    (each : ∀ expr ∈ inputs, expr.ReadsType) (last : ∀ expr ∈ result, expr.ReadsType) :
    (TypeExpr.function inputs result).ReadsType := by
  intro steps enough
  simp only [TypeExpr.words, List.length_cons, List.length_append] at enough
  obtain ⟨steps, rfl⟩ : ∃ less, steps = less + 1 := ⟨steps - 1, by omega⟩
  have split : (TypeExpr.function inputs result).words =
      .name "fn" :: .symbol .openParen :: ((BareToken.join .comma (TypeExpr.wordsAll inputs) ++
        [.symbol .closeParen]) ++ TypeExpr.outputWords result) := by
    simp [TypeExpr.words]
  rw [type, split]
  refine .looked fun placed bare => ?_
  have kind : placed.kind = .identifier := congrArg BareToken.kind bare
  have value : placed.value = "fn" := congrArg BareToken.value bare
  simp only [kind, value]
  refine .moved fun _ _ => .ensured rfl ?_
  refine (reads_types starts each (by omega)).bind ?_ fun _ _ => trivial
  refine .last (reads_output last (by omega)) fun rest fit => ?_
  cases result <;> exact fit

theorem reads_afterKeyword {found : List TypeExpr} (shown : found ≠ [])
    (parted : TypeExpr.Parted found) (each : ∀ bound ∈ found, bound.ReadsBound) :
    (TypeExpr.implTrait found).ReadsType ∧ (TypeExpr.traitObject found).ReadsType := by
  have read : ∀ steps, 8 * (BareToken.join .plus (TypeExpr.wordsAll found)).length + 4 ≤ steps →
      ∀ form : List TypeExpr → TypeExpr,
      (∀ kind, (form found).continuesAt kind =
        (kind = .plus || TypeExpr.lastContinuesAt kind found)) →
      Reads (bounds steps >>= fun bounds => pure (form bounds))
        (BareToken.join .plus (TypeExpr.wordsAll found)) (form found) fun rest =>
          (form found).continuesAt (BareToken.ahead rest).kind = false := by
    intro steps enough form continues
    refine .last (reads_bounds shown parted each enough) fun rest fit => ?_
    rw [continues] at fit
    simpa using fit
  constructor <;> intro steps enough <;>
    simp only [TypeExpr.words, List.length_cons] at enough <;>
    obtain ⟨steps, rfl⟩ : ∃ less, steps = less + 1 := ⟨steps - 1, by omega⟩ <;>
    rw [type, TypeExpr.words] <;> refine .looked fun placed bare => ?_
  · have kind : placed.kind = .identifier := congrArg BareToken.kind bare
    have value : placed.value = "impl" := congrArg BareToken.value bare
    simp only [kind, value]
    exact .moved fun _ _ => read steps (by omega) .implTrait fun _ => rfl
  · have kind : placed.kind = .identifier := congrArg BareToken.kind bare
    have value : placed.value = "dyn" := congrArg BareToken.value bare
    simp only [kind, value]
    exact .moved fun _ _ => read steps (by omega) .traitObject fun _ => rfl

theorem reads_reference (duration : Option Lifetime) (isMutable : Bool) {element : TypeExpr}
    (starts : BareToken.StartsType element.words) (reads : element.ReadsType)
    (plain : isMutable = false → BareToken.ahead element.words ≠ .name "mut") :
    (TypeExpr.reference duration isMutable element).ReadsType := by
  intro steps enough
  simp only [TypeExpr.words, List.length_cons, List.length_append] at enough
  obtain ⟨steps, rfl⟩ : ∃ less, steps = less + 1 := ⟨steps - 1, by omega⟩
  -- what is read after the lifetime
  have inner : Reads (do
      let isMutable ← nextIs .identifier (some "mut")
      let found ← type steps
      pure (TypeExpr.reference duration isMutable found))
      ((if isMutable then [.name "mut"] else []) ++ element.words)
      (.reference duration isMutable element)
      fun rest => element.continuesAt (BareToken.ahead rest).kind = false := by
    have last : Reads (type steps >>= fun found => pure (TypeExpr.reference duration isMutable found))
        element.words (.reference duration isMutable element)
        fun rest => element.continuesAt (BareToken.ahead rest).kind = false :=
      .last (reads steps (by omega)) fun _ fit => fit
    cases isMutable with
    | true => exact .taken (by decide) last
    | false =>
      refine .passed (fun rest _ => ?_) last
      have other := plain rfl
      rw [List.append_assoc, if_neg (by decide), List.nil_append,
        BareToken.ahead_append starts.ne_nil]
      exact BareToken.fits_name_of_ne other
  rw [type, TypeExpr.words]
  refine .looked fun placed bare => ?_
  have kind : placed.kind = .ampersand := congrArg BareToken.kind bare
  simp only [kind]
  refine .moved fun _ _ => ?_
  cases duration with
  | none =>
    refine .seen false (fun rest _ => ?_) inner
    cases isMutable with
    | true => rfl
    | false => exact starts.fits_eq_false rfl none rest
  | some duration =>
    refine .seen true (fun _ _ => rfl) ?_
    exact (Reads.map some (reads_lifetime duration)).bind inner fun _ _ => trivial

theorem reads_pointer (isMutable : Bool) {element : TypeExpr} (reads : element.ReadsType) :
    (TypeExpr.pointer isMutable element).ReadsType := by
  intro steps enough
  simp only [TypeExpr.words, List.length_cons] at enough
  obtain ⟨steps, rfl⟩ : ∃ less, steps = less + 1 := ⟨steps - 1, by omega⟩
  have last : ∀ isMutable, Reads (type steps >>= fun found => pure (TypeExpr.pointer isMutable found))
      element.words (.pointer isMutable element)
      fun rest => element.continuesAt (BareToken.ahead rest).kind = false :=
    fun _ => .last (reads steps (by omega)) fun _ fit => fit
  rw [type, TypeExpr.words]
  refine .looked fun placed bare => ?_
  have kind : placed.kind = .star := congrArg BareToken.kind bare
  simp only [kind]
  refine .moved fun _ _ => ?_
  cases isMutable with
  | true => exact .taken (by decide) (last true)
  | false => exact .passed (fun _ _ => rfl) (.ensured (by decide) (last false))

theorem reads_lifetimeBound (duration : Lifetime) : (TypeExpr.lifetime duration).ReadsBound := by
  intro steps enough
  obtain ⟨steps, rfl⟩ : ∃ less, steps = less + 1 := ⟨steps - 1, by omega⟩
  rw [bound]
  exact .seen true (fun _ _ => rfl) (.last (reads_lifetime duration) fun _ _ => trivial)

theorem reads_groupBound {found : Path} (reads : found.ReadsPath) :
    (TypeExpr.group found.toExpr).ReadsBound := by
  intro steps enough
  simp only [TypeExpr.words, List.length_cons, List.length_append] at enough
  obtain ⟨steps, rfl⟩ : ∃ less, steps = less + 1 := ⟨steps - 1, by omega⟩
  rw [bound, TypeExpr.words]
  refine .seen false (fun _ _ => rfl) (.taken rfl ?_)
  refine (reads steps (by omega)).bind ?_ fun _ _ =>
    found.toExpr.boundContinuesAt_eq_false (by simp [BareToken.symbol, TokenKind.extending])
  exact .ensured rfl (.pure _)

/-! ### Every well-formed expression -/

structure TypeExpr.Readable (expr : TypeExpr) : Prop where
  type : expr.isType = true → expr.ReadsType
  bound : expr.isBound = true → expr.ReadsBound
  path : ∀ found : Path, found.toExpr = expr → found.ReadsPath

theorem Path.toExpr_injective : Function.Injective Path.toExpr := by
  rintro ⟨_ | ⟨subject, position⟩, first, rest⟩ ⟨_ | ⟨subject', position'⟩, first', rest'⟩ same
  · cases same
    rfl
  · cases same
  · cases same
  · obtain ⟨rfl, positions, rfl, rfl⟩ := TypeExpr.qualified.inj same
    cases Int.ofNat_inj.mp positions
    rfl

theorem Path.ReadsPath.readable {found : Path} (reads : found.ReadsPath) :
    found.toExpr.Readable := by
  refine ⟨reads_pathType reads, fun _ => reads_pathBound reads, fun other same => ?_⟩
  rw [Path.toExpr_injective same]
  exact reads

/-- A form that is neither a path nor a bound. -/
theorem TypeExpr.ReadsType.readable {expr : TypeExpr} (reads : expr.ReadsType)
    (noBound : expr.isBound = false) : expr.Readable := by
  refine ⟨fun _ => reads, fun isBound => ?_, fun found same => ?_⟩
  · rw [noBound] at isBound
    cases isBound
  · obtain ⟨subject, first, rest⟩ := found
    subst same
    cases subject <;> cases noBound

theorem TypeExpr.wellFormed_of_mem {strict : Prop} {exprs : List TypeExpr}
    (formed : TypeExpr.WellFormedAll strict exprs) :
    ∀ expr ∈ exprs, expr.WellFormed strict := by
  induction exprs with
  | nil => nofun
  | cons first rest ih =>
    rintro expr (_ | ⟨_, member⟩)
    · exact formed.1
    · exact ih formed.2 expr member

theorem TypeExpr.startsTypeAll {strict : Prop} {exprs : List TypeExpr}
    (isType : ∀ expr ∈ exprs, expr.isType = true) (formed : TypeExpr.WellFormedAll strict exprs) :
    ∀ expr ∈ exprs, BareToken.StartsType expr.words := fun expr member =>
  TypeExpr.startsType (isType expr member) (TypeExpr.wellFormed_of_mem formed expr member)

theorem Path.toExpr_toNat {subject : TypeExpr} {position : Int} (low : 0 ≤ position)
    {first : Segment} {rest : List Segment} :
    (Path.mk (some (subject, position.toNat)) first rest).toExpr =
      .qualified subject position first rest := by
  change TypeExpr.qualified subject position.toNat first rest = _
  rw [Int.toNat_of_nonneg low]

theorem TypeExpr.isArgument_cases {expr : TypeExpr} (isArgument : expr.isArgument = true) :
    (∃ duration, expr = .lifetime duration) ∨ (∃ value, expr = .constant value) ∨
      expr.isType = true := by
  cases expr with
  | lifetime duration => exact .inl ⟨duration, rfl⟩
  | constant value => exact .inr (.inl ⟨value, rfl⟩)
  | _ => exact .inr (.inr isArgument)

/-- A well-formed path is the expression of what the parser holds for it. -/
theorem TypeExpr.exists_path {strict : Prop} {expr : TypeExpr} (isPath : expr.isPath = true)
    (formed : expr.WellFormed strict) : ∃ found : Path, found.toExpr = expr := by
  cases expr with
  | path first rest => exact ⟨⟨none, first, rest⟩, rfl⟩
  | qualified subject position first rest =>
    exact ⟨⟨some (subject, position.toNat), first, rest⟩, Path.toExpr_toNat formed.2.2.2.1.1⟩
  | _ => cases isPath

theorem Argument.exists_words {strict : Prop} {argument : Argument}
    (formed : argument.WellFormed strict) :
    ∃ first rest, argument.words = first :: rest ∧ first.kind ≠ .greaterThan := by
  cases argument with
  | binding | constraint => exact ⟨_, _, rfl, by simp [BareToken.name]⟩
  | type type =>
    rcases TypeExpr.isArgument_cases formed.1 with ⟨duration, rfl⟩ | ⟨value, rfl⟩ | isType
    · exact ⟨_, _, rfl, by simp [BareToken.lifetime]⟩
    · exact ⟨_, _, rfl, by simp⟩
    · have starts := TypeExpr.startsType isType formed.2
      rw [Argument.words]
      cases shown : type.words with
      | nil => simp [shown, BareToken.StartsType] at starts
      | cons first rest =>
        rw [shown] at starts
        refine ⟨first, rest, rfl, fun same => ?_⟩
        have start := starts.1
        rw [same] at start
        cases start

theorem Argument.exists_wordsAll {strict : Prop} {arguments : List Argument}
    (formed : Argument.WellFormedAll strict arguments) : ∀ argument ∈ arguments,
      ∃ first rest, argument.words = first :: rest ∧ first.kind ≠ .greaterThan := by
  induction arguments with
  | nil => nofun
  | cons first rest ih =>
    rintro argument (_ | ⟨_, member⟩)
    · exact Argument.exists_words formed.1
    · exact ih formed.2 argument member

mutual

theorem TypeExpr.readable {strict : Prop} (certain : strict) :
    (expr : TypeExpr) → expr.WellFormed strict → expr.Readable
  | .lifetime duration, _ => by
    refine ⟨nofun, fun _ => reads_lifetimeBound duration, fun found same => ?_⟩
    obtain ⟨subject, first, rest⟩ := found
    cases subject <;> cases same
  | .constant _, _ => by
    refine ⟨nofun, nofun, fun found same => ?_⟩
    obtain ⟨subject, first, rest⟩ := found
    cases subject <;> cases same
  | .inferred, _ => reads_inferred.readable rfl
  | .never, _ => reads_never.readable rfl
  | .verbatim text, isOpaque => by
    have reads : (TypeExpr.verbatim text).ReadsType := fun steps enough =>
      (isOpaque.reads steps enough).strengthen fun _ _ => trivial
    exact reads.readable rfl
  | .path first rest, formed => by
    have each : ∀ segment ∈ first :: rest, segment.ReadsSegment := by
      rintro segment (_ | ⟨_, member⟩)
      · exact first.readable certain formed.1
      · exact Segment.readableAll certain rest formed.2.1 segment member
    exact (reads_plainPath formed.2.2 each).readable
  | .qualified subject position first rest, formed => by
    obtain ⟨⟨isType, subjectFormed⟩, firstFormed, restFormed, ⟨low, high⟩, remaining, trait⟩ := formed
    have each : ∀ segment ∈ first :: rest, segment.ReadsSegment := by
      rintro segment (_ | ⟨_, member⟩)
      · exact first.readable certain firstFormed
      · exact Segment.readableAll certain rest restFormed segment member
    have reads := reads_qualifiedPath ((subject.readable certain subjectFormed).type isType) high
      remaining (trait certain) each
    rw [← Path.toExpr_toNat low]
    exact reads.readable
  | .array element length, formed =>
    (reads_array length ((element.readable certain formed.1.2).type formed.1.1)).readable rfl
  | .slice element, formed =>
    (reads_slice ((element.readable certain formed.2).type formed.1)).readable rfl
  | .tuple elements, formed =>
    (reads_tuple (TypeExpr.startsTypeAll formed.1 formed.2)
      fun element member => (TypeExpr.readableAll certain elements formed.2 element member).type
        (formed.1 element member)).readable rfl
  | .group element, formed => by
    have inner := element.readable certain formed
    refine ⟨fun isType => ?_, fun isBound => ?_, fun found same => ?_⟩
    · exact reads_group (TypeExpr.startsType isType formed) (inner.type isType)
    · obtain ⟨found, same⟩ := TypeExpr.exists_path isBound formed
      rw [← same]
      exact reads_groupBound (inner.path found same)
    · obtain ⟨subject, first, rest⟩ := found
      cases subject <;> cases same
  | .function inputs none, formed =>
    (reads_function (TypeExpr.startsTypeAll formed.1.1 formed.1.2)
      (fun input member => (TypeExpr.readableAll certain inputs formed.1.2 input member).type
        (formed.1.1 input member)) (by simp)).readable rfl
  | .function inputs (some output), formed =>
    (reads_function (TypeExpr.startsTypeAll formed.1.1 formed.1.2)
      (fun input member => (TypeExpr.readableAll certain inputs formed.1.2 input member).type
        (formed.1.1 input member))
      fun result same => by
        cases same
        exact (output.readable certain formed.2.2).type (formed.2.1 output rfl)).readable rfl
  | .reference duration isMutable element, formed =>
    (reads_reference duration isMutable (TypeExpr.startsType formed.2.1.1 formed.2.1.2)
      ((element.readable certain formed.2.1.2).type formed.2.1.1) formed.2.2).readable rfl
  | .pointer isMutable element, formed =>
    (reads_pointer isMutable ((element.readable certain formed.2).type formed.1)).readable rfl
  | .implTrait bounds, formed =>
    (reads_afterKeyword formed.2.2.1 formed.2.2.2 fun bound member =>
      (TypeExpr.readableAll certain bounds formed.2.1 bound member).bound
        (formed.1 bound member)).1.readable rfl
  | .traitObject bounds, formed =>
    (reads_afterKeyword formed.2.2.1 formed.2.2.2 fun bound member =>
      (TypeExpr.readableAll certain bounds formed.2.1 bound member).bound
        (formed.1 bound member)).2.readable rfl

theorem TypeExpr.readableAll {strict : Prop} (certain : strict) : (exprs : List TypeExpr) →
    TypeExpr.WellFormedAll strict exprs → ∀ expr ∈ exprs, expr.Readable
  | [], _ => nofun
  | first :: rest, formed => by
    rintro expr (_ | ⟨_, member⟩)
    · exact first.readable certain formed.1
    · exact TypeExpr.readableAll certain rest formed.2 expr member

theorem Segment.readable {strict : Prop} (certain : strict) : (segment : Segment) →
    segment.WellFormed strict → segment.ReadsSegment
  | .plain name, _ => reads_plainSegment name
  | .angle name arguments, formed =>
    reads_angleSegment name (Argument.exists_wordsAll formed.2)
      (Argument.readableAll certain arguments formed.2)
  | .call name inputs none, formed =>
    reads_callSegment name (TypeExpr.startsTypeAll formed.2.1.1 formed.2.1.2)
      (fun input member => (TypeExpr.readableAll certain inputs formed.2.1.2 input member).type
        (formed.2.1.1 input member)) (by simp)
  | .call name inputs (some output), formed =>
    reads_callSegment name (TypeExpr.startsTypeAll formed.2.1.1 formed.2.1.2)
      (fun input member => (TypeExpr.readableAll certain inputs formed.2.1.2 input member).type
        (formed.2.1.1 input member))
      fun result same => by
        cases same
        exact (output.readable certain formed.2.2.2).type (formed.2.2.1 output rfl)

theorem Segment.readableAll {strict : Prop} (certain : strict) : (segments : List Segment) →
    Segment.WellFormedAll strict segments → ∀ segment ∈ segments, segment.ReadsSegment
  | [], _ => nofun
  | first :: rest, formed => by
    rintro segment (_ | ⟨_, member⟩)
    · exact first.readable certain formed.1
    · exact Segment.readableAll certain rest formed.2 segment member

theorem Argument.readable {strict : Prop} (certain : strict) : (argument : Argument) →
    argument.WellFormed strict → argument.ReadsArgument
  | .type type, formed => by
    rcases TypeExpr.isArgument_cases formed.1 with ⟨duration, rfl⟩ | ⟨value, rfl⟩ | isType
    · exact reads_lifetimeArgument duration
    · exact reads_constantArgument value
    · exact reads_typeArgument (TypeExpr.startsType isType formed.2)
        ((type.readable certain formed.2).type isType)
  | .binding name value, formed =>
    reads_binding name ((value.readable certain formed.2.2).type formed.2.1)
  | .constraint name bounds, formed =>
    reads_constraint name formed.2.2.2.1 formed.2.2.2.2 fun bound member =>
      (TypeExpr.readableAll certain bounds formed.2.2.1 bound member).bound
        (formed.2.1 bound member)

theorem Argument.readableAll {strict : Prop} (certain : strict) : (arguments : List Argument) →
    Argument.WellFormedAll strict arguments → ∀ argument ∈ arguments, argument.ReadsArgument
  | [], _ => nofun
  | first :: rest, formed => by
    rintro argument (_ | ⟨_, member⟩)
    · exact first.readable certain formed.1
    · exact Argument.readableAll certain rest formed.2 argument member

end

end CowView
