import CowView.Proofs.Words

/-!
Two runs of the parser. `Alike` relates two streams that hold the same words, up to some words that only
the second one has at its end, and `Follows` says that an action on the second stream gives what the
action on the first one gave. The two runs may be given different numbers of steps, so the second one may
also run out of them. Where the first stream is used up and the second one is not, a test can come out
differently; it is then enough that the first action fails at the end of the input.
-/

namespace CowView

open TokenStream

def TokenStream.IsPlain (stream : TokenStream) : Prop :=
  ∀ token, Lexeme.token token ∈ stream.pending → token.kind ≠ .comment

/-- The streams hold the same words, up to those at the end of the second one. Groups of macros are read
with their comments, so either there are no macros or there are no comments. -/
structure Alike (rest : List BareToken) (first second : TokenStream) : Prop where
  left : first.Clean
  right : second.Clean
  words : second.words = first.words ++ rest
  docs : first.docs = second.docs
  groups : (∀ word ∈ second.words, word.kind ≠ .bang) ∨ (first.IsPlain ∧ second.IsPlain)

def Stops (rest : List BareToken) : Prop :=
  ∀ word ∈ rest.head?, word.kind.IsSolid ∧ word.kind ∉ TokenKind.extending

theorem Stops.solid {rest : List BareToken} (stops : Stops rest) : ∀ word ∈ rest.head?, word.kind ≠ .comment :=
  fun word member => (stops word member).1.2

theorem Stops.fits {rest : List BareToken} (stops : Stops rest) {kind : TokenKind} (own : kind ∈ TokenKind.extending)
    (wanted : Option String) : ∀ word ∈ rest.head?, word.fits kind wanted = false := by
  intro word member
  have other : word.kind ≠ kind := fun same => (stops word member).2 (same ▸ own)
  simp [BareToken.fits, other]

theorem stops_nil : Stops [] := by simp [Stops]

namespace TokenStream.IsPlain

variable {stream : TokenStream}

theorem advanced (plain : stream.IsPlain) : stream.advanced.IsPlain :=
  fun token member => plain token (List.mem_of_mem_tail member)

theorem skipped (plain : stream.IsPlain) : stream.skipped.IsPlain :=
  fun token member => plain token (dropComments_subset _ _ member)

theorem unget (plain : stream.IsPlain) {token : Token} (solid : token.kind ≠ .comment) :
    IsPlain { stream with pending := .token token :: stream.pending } := by
  intro other member
  rcases List.mem_cons.mp member with same | member
  · cases same
    exact solid
  · exact plain other member

end TokenStream.IsPlain

namespace Alike

variable {rest : List BareToken} {first second : TokenStream} {one two : Token}

theorem skipped (stops : Stops rest) (alike : Alike rest first second) :
    Alike rest first.skipped second.skipped where
  left := alike.left.skipped
  right := alike.right.skipped
  words := by
    rw [alike.left.words_skipped, alike.right.words_skipped, alike.words, BareToken.passed_append stops.solid]
  docs := by
    rw [alike.left.docs_skipped, alike.right.docs_skipped, alike.words, BareToken.noted_append stops.solid,
      alike.docs]
  groups := by
    refine alike.groups.imp (fun quiet word member => quiet word ?_) fun plain => ⟨plain.1.skipped, plain.2.skipped⟩
    rw [alike.right.words_skipped] at member
    exact (List.dropWhile_sublist _).subset member

theorem advanced (alike : Alike rest first second) (shown : first.front? = some one)
    (shown' : second.front? = some two) (solid : one.kind.IsSolid) (same : one.bare = two.bare) :
    Alike rest first.advanced second.advanced where
  left := alike.left.advanced
  right := alike.right.advanced
  words := by
    have solid' : two.kind.IsSolid := by
      have kind : one.kind = two.kind := congrArg BareToken.kind same
      rwa [← kind]
    have whole := alike.words
    rw [words_eq_cons shown solid, words_eq_cons shown' solid', same, List.cons_append] at whole
    exact List.tail_eq_of_cons_eq whole
  docs := alike.docs
  groups := by
    refine alike.groups.imp (fun quiet word member => quiet word ?_) fun plain => ⟨plain.1.advanced, plain.2.advanced⟩
    exact ((List.tail_sublist second.pending).filterMap Lexeme.word?).subset member

theorem unget (alike : Alike rest first second) (solid : one.kind.IsSolid) (quiet : one.kind ≠ .bang)
    (marked : one.Marked) (same : one.bare = two.bare) :
    Alike rest { first with pending := .token one :: first.pending }
      { second with pending := .token two :: second.pending } := by
  have kind : one.kind = two.kind := congrArg BareToken.kind same
  have value : one.value = two.value := congrArg BareToken.value same
  have solid' : two.kind.IsSolid := by rwa [← kind]
  have marked' : two.Marked := fun lifetime => by
    rw [← value]
    exact marked (kind.trans lifetime)
  refine ⟨alike.left.unget marked solid.1, alike.right.unget marked' solid'.1, ?_, alike.docs, ?_⟩
  · rw [words_unget _ solid, words_unget _ solid', alike.words, same, List.cons_append]
  · refine alike.groups.imp (fun others word member => ?_) fun plain => ⟨plain.1.unget solid.2, plain.2.unget solid'.2⟩
    rw [words_unget _ solid'] at member
    rcases List.mem_cons.mp member with rfl | member
    · exact fun bang => quiet (kind.trans bang)
    · exact others word member

theorem self (alike : Alike rest first second) : Alike [] first first where
  left := alike.left
  right := alike.left
  words := by rw [List.append_nil]
  docs := rfl
  groups := by
    refine alike.groups.imp (fun quiet word member => quiet word ?_) fun plain => ⟨plain.1, plain.1⟩
    rw [alike.words]
    exact List.mem_append_left _ member

/-- Either both streams show the same token, or the first one is used up. -/
theorem front? (stops : Stops rest) (alike : Alike rest first second) :
    ∃ one two, first.skipped.front? = some one ∧ second.skipped.front? = some two ∧ one.Marked ∧
      one.kind ≠ .comment ∧ (one.bare = two.bare ∨
        (first.extent = 0 ∧ one.bare = .last ∧ ∃ word ∈ rest.head?, two.bare = word)) := by
  obtain ⟨one, shown, marked, plain, same⟩ := alike.left.front?
  obtain ⟨two, shown', -, -, same'⟩ := alike.right.front?
  refine ⟨one, two, shown, shown', marked, plain, ?_⟩
  have words := (alike.skipped stops).words
  cases behind : first.skipped.words with
  | cons word words' =>
    left
    rw [same, same', words, behind]
    rfl
  | nil =>
    rw [behind] at same words
    cases rest with
    | nil =>
      left
      rw [same, same', words]
      rfl
    | cons word rest =>
      refine .inr ⟨alike.left.extent_eq_zero.mpr behind, same, word, rfl, ?_⟩
      rw [same', words]
      rfl

end Alike

section

variable {rest : List BareToken} {α β γ δ : Type}

/-- The result gives a value that goes with the first one and leaves a stream like the first one, or the
steps ran out. -/
def Matches (rest : List BareToken) (fit : α → β → Prop) (value : α) (left : TokenStream) :
    EStateM.Result Fault TokenStream β → Prop
  | .ok value' left' => fit value value' ∧ Alike rest left left'
  | .error fault _ => fault = .outOfSteps

def FollowsOn (rest : List BareToken) (fit : α → β → Prop) (one : Reading α) (two : Reading β)
    (first second : TokenStream) : Prop :=
  Alike rest first second → ∀ value left, one first = .ok value left → Matches rest fit value left (two second)

/-- The second action gives what the first one gives, on all streams that are alike. -/
def Follows (rest : List BareToken) (fit : α → β → Prop) (one : Reading α) (two : Reading β) : Prop :=
  ∀ first second, FollowsOn rest fit one two first second

def FollowsAt (rest : List BareToken) (front front' : Token) (fit : α → β → Prop) (one : Reading α)
    (two : Reading β) : Prop :=
  ∀ first second, first.front? = some front → second.front? = some front' →
    FollowsOn rest fit one two first second

def FailsAtEnd (action : Reading α) : Prop :=
  ∀ stream, stream.Clean → stream.extent = 0 → ∀ value left, action stream ≠ .ok value left

/-! ### Failing at the end -/

namespace FailsAtEnd

variable {action : Reading α} {next : α → Reading β} {kind : TokenKind} {wanted : Option String}

theorem throw {fault : Fault} : FailsAtEnd (throw fault : Reading α) :=
  fun _ _ _ _ _ read => by cases read

theorem bind (first : FailsAtEnd action) : FailsAtEnd (action >>= next) := by
  intro stream clean ended value left read
  obtain ⟨found, between, one, -⟩ := bind_eq_ok read
  exact first stream clean ended found between one

theorem front? {stream : TokenStream} (clean : stream.Clean) (ended : stream.extent = 0) :
    ∃ token, stream.skipped.front? = some token ∧ token.bare = .last := by
  obtain ⟨token, shown, -, -, same⟩ := clean.front?
  rw [clean.extent_eq_zero.mp ended] at same
  exact ⟨token, shown, same⟩

theorem looked {next : Token → Reading β} (later : ∀ token, token.kind = .endOfInput → FailsAtEnd (next token)) :
    FailsAtEnd (current >>= next) := by
  intro stream clean ended value left read
  obtain ⟨token, shown, same⟩ := front? clean ended
  rw [bind_apply, current_eq_ok_iff.mpr ⟨shown, rfl⟩] at read
  exact later token (congrArg BareToken.kind same) _ clean.skipped (by rw [extent_skipped, ended]) _ _ read

theorem fits_last {token : Token} (same : token.bare = .last) (solid : kind.IsSolid) :
    TokenStream.fits kind wanted token = false := by
  have last : token.kind = .endOfInput := congrArg BareToken.kind same
  simp [TokenStream.fits, last, Ne.symm solid.1]

theorem nextIs_eq {stream : TokenStream} (solid : kind.IsSolid) (clean : stream.Clean)
    (ended : stream.extent = 0) : TokenStream.nextIs kind wanted stream = .ok false stream.skipped := by
  obtain ⟨token, shown, same⟩ := front? clean ended
  exact nextIs_eq_ok_iff.mpr ⟨token, shown, (fits_last same solid).symm, rfl⟩

theorem nextIs {next : Bool → Reading β} (solid : kind.IsSolid) (later : FailsAtEnd (next false)) :
    FailsAtEnd (TokenStream.nextIs kind wanted >>= next) := by
  intro stream clean ended value left read
  rw [bind_apply, nextIs_eq solid clean ended] at read
  exact later _ clean.skipped (by rw [extent_skipped, ended]) _ _ read

theorem ensure (solid : kind.IsSolid) : FailsAtEnd (TokenStream.ensure kind wanted) := by
  intro stream clean ended value left read
  obtain ⟨token, shown, same⟩ := front? clean ended
  obtain ⟨other, shown', fit, -⟩ := ensure_eq_ok_iff.mp read
  cases shown.symm.trans shown'
  rw [fits_last same solid] at fit
  cases fit

end FailsAtEnd
/-! ### Rules -/

theorem FollowsOn.bind {fit : α → β → Prop} {fit' : γ → δ → Prop} {one : Reading α} {two : Reading β}
    {next : α → Reading γ} {next' : β → Reading δ} {first second : TokenStream}
    (front : FollowsOn rest fit one two first second)
    (later : ∀ value value' left left', one first = .ok value left → two second = .ok value' left' →
      fit value value' → FollowsOn rest fit' (next value) (next' value') left left') :
    FollowsOn rest fit' (one >>= next) (two >>= next') first second := by
  intro alike value left read
  obtain ⟨found, between, run, read⟩ := bind_eq_ok read
  have step := front alike found between run
  rw [bind_apply]
  cases run' : two second with
  | ok found' between' =>
    rw [run'] at step
    exact later found found' between between' run run' step.1 step.2 value left read
  | error fault left => rwa [run'] at step

/-- Where the first action ends at the end of the input and what follows fails there, nothing is claimed. -/
def FollowsInside (rest : List BareToken) (fit : α → β → Prop) (one : Reading α) (two : Reading β) : Prop :=
  ∀ first second, Alike rest first second → ∀ value left, one first = .ok value left →
    Matches rest fit value left (two second) ∨ (left.Clean ∧ left.extent = 0)

theorem TokenStream.fits_congr {front front' : Token} (same : front.bare = front'.bare) (kind : TokenKind)
    (wanted : Option String) : fits kind wanted front = fits kind wanted front' := by
  have kinds : front.kind = front'.kind := congrArg BareToken.kind same
  have values : front.value = front'.value := congrArg BareToken.value same
  simp only [fits, kinds, values]

/-- A test comes out the same unless the first stream is used up; there the first action may fail. -/
theorem FollowsOn.test {fit : γ → δ → Prop} {kind : TokenKind} {wanted : Option String} (stops : Stops rest)
    {next : Bool → Reading γ} {next' : Bool → Reading δ} {first second : TokenStream} (solid : kind.IsSolid)
    (ends : first.extent ≠ 0 ∨ (∀ word ∈ rest.head?, word.fits kind wanted = false) ∨ FailsAtEnd (next false))
    (later : ∀ found, FollowsOn rest fit (next found) (next' found)
      (if found then first.skipped.advanced else first.skipped)
      (if found then second.skipped.advanced else second.skipped)) :
    FollowsOn rest fit (nextIs kind wanted >>= next) (nextIs kind wanted >>= next') first second := by
  intro alike value left read
  obtain ⟨front, front', shown, shown', marked, -, same⟩ := alike.front? stops
  have skipped := alike.skipped stops
  rw [bind_apply, nextIs_eq_ok_iff.mpr ⟨front, shown, rfl, rfl⟩] at read
  rw [bind_apply, nextIs_eq_ok_iff.mpr ⟨front', shown', rfl, rfl⟩]
  rcases same with same | ⟨ended, last, word, member, own⟩
  · rw [← fits_congr same]
    cases fit : TokenStream.fits kind wanted front with
    | true =>
      rw [fit] at read
      have solid' : front.kind.IsSolid := by
        rw [kind_of_fits fit]
        exact solid
      exact later true (skipped.advanced shown shown' solid' same) value left read
    | false =>
      rw [fit] at read
      exact later false skipped value left read
  · rw [FailsAtEnd.fits_last last solid] at read
    rcases ends with more | other | never
    · exact absurd ended more
    · have missed : TokenStream.fits kind wanted front' = false := by
        rw [← other word member, ← own]
        rfl
      rw [missed]
      exact later false skipped value left read
    · exact absurd read (never _ skipped.left (by rw [extent_skipped, ended]) value left)

namespace Follows

variable {fit : α → β → Prop} {fit' : γ → δ → Prop} {one : Reading α} {two : Reading β}
  {next : α → Reading γ} {next' : β → Reading δ} {kind : TokenKind} {wanted : Option String}

theorem pure {value : α} {value' : β} (same : fit value value') :
    Follows rest fit (pure value) (pure value') := by
  intro first second alike found left read
  cases read
  exact ⟨same, alike⟩

theorem fails (never : ∀ stream left value, one stream ≠ .ok value left) : Follows rest fit one two :=
  fun first _ _ value left read => absurd read (never first left value)

theorem dry : Follows rest fit one (throw Fault.outOfSteps : Reading β) :=
  fun _ _ _ _ _ _ => rfl

theorem throw {fault : Fault} : Follows rest fit (throw fault) two :=
  fails fun _ _ _ read => by cases read

theorem bind (front : Follows rest fit one two)
    (later : ∀ value value', fit value value' → Follows rest fit' (next value) (next' value')) :
    Follows rest fit' (one >>= next) (two >>= next') :=
  fun first second => (front first second).bind fun value value' left left' _ _ same =>
    later value value' same left left'

theorem after {two : Reading α} {next' : α → Reading δ} (front : Follows rest Eq one two)
    (later : ∀ value, Follows rest fit' (next value) (next' value)) :
    Follows rest fit' (one >>= next) (two >>= next') :=
  front.bind fun value value' same => by
    cases same
    exact later value

theorem map {two : Reading α} (change : α → γ) (front : Follows rest Eq one two) :
    Follows rest Eq (change <$> one) (change <$> two) := by
  rw [map_eq_pure_bind, map_eq_pure_bind]
  exact front.after fun _ => .pure rfl

theorem ite {condition : Prop} [Decidable condition] {yes no : Reading α} {yes' no' : Reading β}
    (first : Follows rest fit yes yes') (second : Follows rest fit no no') :
    Follows rest fit (if condition then yes else no) (if condition then yes' else no') := by
  split
  · exact first
  · exact second

theorem get {next : TokenStream → Reading γ} {next' : TokenStream → Reading δ}
    (later : ∀ stream stream', Follows rest fit' (next stream) (next' stream')) :
    Follows rest fit' (get >>= next) (get >>= next') :=
  fun first second => later first second first second

theorem located (follows : Follows rest fit one two) (front front' : Token) :
    FollowsAt rest front front' fit one two :=
  fun first second _ _ => follows first second

theorem looked (stops : Stops rest) {next : Token → Reading γ} {next' : Token → Reading δ}
    (ends : ∀ token, token.kind = .endOfInput → FailsAtEnd (next token))
    (later : ∀ front front', front.bare = front'.bare → front.Marked →
      FollowsAt rest front front' fit' (next front) (next' front')) :
    Follows rest fit' (current >>= next) (current >>= next') := by
  intro first second alike value left read
  obtain ⟨front, front', shown, shown', marked, -, same⟩ := alike.front? stops
  rw [bind_apply, current_eq_ok_iff.mpr ⟨shown, rfl⟩] at read
  rw [bind_apply, current_eq_ok_iff.mpr ⟨shown', rfl⟩]
  rcases same with same | ⟨ended, last, -⟩
  · exact later front front' same marked _ _ shown shown' (alike.skipped stops) value left read
  · exact absurd read (ends front (congrArg BareToken.kind last) _ alike.left.skipped
      (by rw [extent_skipped, ended]) value left)

theorem test (stops : Stops rest) {next : Bool → Reading γ} {next' : Bool → Reading δ} (solid : kind.IsSolid)
    (ends : (∀ word ∈ rest.head?, word.fits kind wanted = false) ∨ FailsAtEnd (next false))
    (later : ∀ found, Follows rest fit' (next found) (next' found)) :
    Follows rest fit' (nextIs kind wanted >>= next) (nextIs kind wanted >>= next') :=
  fun _ _ => .test stops solid (.inr ends) fun found => later found _ _

theorem tested (stops : Stops rest) {yes no : Reading α} {yes' no' : Reading β} (solid : kind.IsSolid)
    (ends : (∀ word ∈ rest.head?, word.fits kind wanted = false) ∨ FailsAtEnd no)
    (first : Follows rest fit yes yes') (second : Follows rest fit no no') :
    Follows rest fit (nextIs kind wanted >>= fun found => if found = true then yes else no)
      (nextIs kind wanted >>= fun found => if found = true then yes' else no') :=
  .test stops solid ends fun _ => .ite first second

/-- The same for a test that takes nothing. -/
theorem glanced (stops : Stops rest) {yes no : Reading α} {yes' no' : Reading β}
    (solid : rest = [] ∨ kind.IsSolid)
    (ends : (∀ word ∈ rest.head?, word.fits kind wanted = false) ∨ FailsAtEnd no)
    (first : ∀ front front', front.bare = front'.bare → front.Marked → front.kind = kind →
      FollowsAt rest front front' fit yes yes')
    (second : Follows rest fit no no') :
    Follows rest fit (peekedIs kind wanted >>= fun found => if found = true then yes else no)
      (peekedIs kind wanted >>= fun found => if found = true then yes' else no') := by
  intro stream stream' alike value left read
  obtain ⟨front, front', shown, shown', marked, -, same⟩ := alike.front? stops
  have skipped := alike.skipped stops
  rw [bind_apply, peekedIs_eq_ok_iff.mpr ⟨front, shown, rfl, rfl⟩] at read
  rw [bind_apply, peekedIs_eq_ok_iff.mpr ⟨front', shown', rfl, rfl⟩]
  rcases same with same | ⟨ended, last, word, member, own⟩
  · rw [← fits_congr same]
    cases fit : TokenStream.fits kind wanted front with
    | true =>
      rw [fit] at read
      exact first front front' same marked (kind_of_fits fit) _ _ shown shown' skipped value left read
    | false =>
      rw [fit] at read
      exact second _ _ skipped value left read
  · have solid : kind.IsSolid := by
      rcases solid with none | solid
      · rw [none] at member
        cases member
      · exact solid
    rw [FailsAtEnd.fits_last last solid] at read
    rcases ends with other | never
    · have missed : TokenStream.fits kind wanted front' = false := by
        rw [← other word member, ← own]
        rfl
      rw [missed]
      exact second _ _ skipped value left read
    · exact absurd read (never _ skipped.left (by rw [extent_skipped, ended]) value left)

theorem ensured (stops : Stops rest) {next : String → Reading γ} {next' : String → Reading δ}
    (solid : kind.IsSolid) (later : ∀ value, Follows rest fit' (next value) (next' value)) :
    Follows rest fit' (ensure kind wanted >>= next) (ensure kind wanted >>= next') := by
  intro stream stream' alike value left read
  obtain ⟨found, between, run, read⟩ := bind_eq_ok read
  obtain ⟨front, shown, fit, rfl, rfl⟩ := ensure_eq_ok_iff.mp run
  obtain ⟨other, front', shown₁, shown', -, -, same⟩ := alike.front? stops
  cases shown.symm.trans shown₁
  rcases same with same | ⟨-, last, -⟩
  · have taken : ensure kind wanted false stream' = .ok front.value stream'.skipped.advanced := by
      refine ensure_eq_ok_iff.mpr ⟨front', shown', ?_, congrArg BareToken.value same, rfl⟩
      rw [← fits_congr same, fit]
    rw [bind_apply, taken]
    have solid' : front.kind.IsSolid := by
      rw [kind_of_fits fit]
      exact solid
    exact later front.value _ _ ((alike.skipped stops).advanced shown shown' solid' same) value left read
  · rw [FailsAtEnd.fits_last last solid] at fit
    cases fit

/-- A token that was taken is put back. -/
theorem returned {front front' : Token} {next : Unit → Reading γ} {next' : Unit → Reading δ}
    (same : front.bare = front'.bare) (solid : front.kind.IsSolid) (quiet : front.kind ≠ .bang)
    (marked : front.Marked) (later : Follows rest fit' (next ()) (next' ())) :
    Follows rest fit' (unget front >>= next) (unget front' >>= next') :=
  fun _ _ alike => later _ _ (alike.unget solid quiet marked same)

end Follows

theorem FollowsInside.before {fit : γ → δ → Prop} {one two : Reading α} {next : α → Reading γ}
    {next' : α → Reading δ} (front : FollowsInside rest Eq one two)
    (ends : ∀ value, FailsAtEnd (next value)) (later : ∀ value, Follows rest fit (next value) (next' value)) :
    Follows rest fit (one >>= next) (two >>= next') := by
  intro first second alike value left read
  obtain ⟨found, between, run, read⟩ := bind_eq_ok read
  rcases front first second alike found between run with step | ⟨clean, ended⟩
  · rw [bind_apply]
    cases run' : two second with
    | ok found' between' =>
      rw [run'] at step
      obtain ⟨rfl, alike⟩ := step
      exact later found between between' alike value left read
    | error fault left => rwa [run'] at step
  · exact absurd read (ends found between clean ended value left)

namespace FollowsAt

variable {fit : α → β → Prop} {fit' : γ → δ → Prop} {front front' : Token}

theorem bind {one : Reading α} {two : Reading β} {next : α → Reading γ} {next' : β → Reading δ}
    (step : FollowsAt rest front front' fit one two)
    (later : ∀ value value', fit value value' → Follows rest fit' (next value) (next' value')) :
    FollowsAt rest front front' fit' (one >>= next) (two >>= next') :=
  fun first second shown shown' => (step first second shown shown').bind
    fun value value' left left' _ _ same => later value value' same left left'

theorem moved {next : Token → Reading γ} {next' : Token → Reading δ} (solid : front.kind.IsSolid)
    (same : front.bare = front'.bare) (later : Follows rest fit' (next front) (next' front')) :
    FollowsAt rest front front' fit' (TokenStream.next >>= next) (TokenStream.next >>= next') := by
  intro first second shown shown' alike value left read
  rw [bind_apply, next_eq_ok_iff.mpr ⟨shown, rfl⟩] at read
  rw [bind_apply, next_eq_ok_iff.mpr ⟨shown', rfl⟩]
  exact later _ _ (alike.advanced shown shown' solid same) value left read

theorem peeked {next : Token → Reading γ} {next' : Token → Reading δ}
    (later : FollowsAt rest front front' fit' (next front) (next' front')) :
    FollowsAt rest front front' fit' (peek >>= next) (peek >>= next') := by
  intro first second shown shown' alike value left read
  rw [bind_apply, peek_eq_ok_iff.mpr ⟨shown, rfl⟩] at read
  rw [bind_apply, peek_eq_ok_iff.mpr ⟨shown', rfl⟩]
  exact later _ _ shown shown' alike value left read

end FollowsAt

end

end CowView
