import CowView.Proofs.Attribution
import CowView.Proofs.Registering

/-!
Where a field with a name is read, and what becomes of a fault in its annotations. `ReachesField` follows the parser
from the start of a text to the field, and on the way finds the name of the record, or of the union and the variant,
to which faults are charged. From there a fault ends the reading of the whole text.
-/

namespace CowView

open TokenStream

namespace Declaration.Parser

/-! ### The way to a field -/

section

variable (owner : String) (position : Nat) (place : TokenStream)

inductive ReachesNamed : Nat → TokenStream → Prop
  | here {stream : TokenStream} (more : nextIs .closeBrace none stream = .ok false place) : ReachesNamed position stream
  | further {index : Nat} {stream left behind last : TokenStream} {first : Field} {separated : Bool}
      (more : nextIs .closeBrace none stream = .ok false left) (read : namedField owner index left = .ok first behind)
      (comma : nextIs .comma none behind = .ok separated last) (later : ReachesNamed (index + 1) last) :
      ReachesNamed index stream

def ReachesField (stream : TokenStream) : Prop :=
  ∃ inside, nextIs .openBrace none stream = .ok true inside ∧ ReachesNamed owner position place 0 inside

inductive ReachesVariant (union : String) : TokenStream → Prop
  | here {stream left looked inside : TokenStream} {found : Bool} {name : String}
      (more : nextIs .closeBrace none stream = .ok false left) (looks : peekedIs .identifier none left = .ok found looked)
      (named : introduced "variant" true { looked with docs := "" } = .ok name inside) (own : owner = union ++ "." ++ name)
      (reaches : ReachesField owner position place inside) : ReachesVariant union stream
  | further {stream left behind last : TokenStream} {first : Variant} {separated : Bool}
      (more : nextIs .closeBrace none stream = .ok false left) (read : variant union left = .ok first behind)
      (comma : nextIs .comma none behind = .ok separated last) (later : ReachesVariant union last) :
      ReachesVariant union stream

inductive ReachesDeclared : TokenStream → Prop
  | record {stream left behind inside : TokenStream} {parameters : List Parameter}
      (keyword : ensure .identifier none false stream = .ok "record" left)
      (named : introduced "record" false { left with docs := "" } = .ok owner behind)
      (general : generics behind = .ok parameters inside) (reaches : ReachesField owner position place inside) :
      ReachesDeclared stream
  | union {stream left behind between inside : TokenStream} {name opening : String} {parameters : List Parameter}
      (keyword : ensure .identifier none false stream = .ok "union" left)
      (named : introduced "union" false { left with docs := "" } = .ok name behind)
      (general : generics behind = .ok parameters between) (opens : ensure .openBrace none false between = .ok opening inside)
      (reaches : ReachesVariant owner position place name inside) : ReachesDeclared stream

inductive ReachesContents (scope : Option String) : TokenStream → Prop
  | here {stream start : TokenStream} (more : another stream = .ok true start)
      (reaches : ReachesDeclared owner position place start) : ReachesContents scope stream
  | further {stream start behind last : TokenStream} {first : Declaration} (more : another stream = .ok true start)
      (read : complete scope start = .ok first behind) (skipped : consume .semicolon behind = .ok () last)
      (later : ReachesContents scope last) : ReachesContents scope stream

end

/-! ### What a fault of the field ends -/

section

variable {owner : String} {position : Nat} {place stream left : TokenStream} {fault : Fault}

theorem left_sane {α : Type} {takes : Bool} {action : Reading α} {value : α} (ends : Ends takes stream.extent action)
    (sane : stream.Sane) (read : action stream = .ok value left) : left.Sane ∧ left.extent + takes.toNat ≤ stream.extent := by
  have ended := ends stream sane (Nat.le_refl _)
  rwa [read] at ended

theorem lt_of_spent {steps whole before behind rest : Nat} (first : before ≤ whole) (second : behind + 1 ≤ before)
    (third : rest ≤ behind) (enough : whole < steps + 1) : rest < steps := by
  omega

theorem ReachesNamed.sane {index : Nat} (reaches : ReachesNamed owner position place index stream) (sane : stream.Sane) :
    place.Sane := by
  induction reaches with
  | here more => exact (left_sane ends_nextIs sane more).1
  | further more read comma later ih =>
    have first := (left_sane ends_nextIs sane more).1
    have second := (left_sane (ends_namedField owner _) first read).1
    exact ih (left_sane ends_nextIs second comma).1

theorem ReachesNamed.fails {index : Nat} (reaches : ReachesNamed owner position place index stream) (sane : stream.Sane)
    (failed : namedField owner position place = .error fault left) (steps : Nat) (enough : stream.extent < steps) :
    namedFields owner steps index stream = .error fault left := by
  induction reaches generalizing steps with
  | here more =>
    obtain ⟨less, rfl⟩ := Nat.exists_eq_succ_of_ne_zero (Nat.ne_zero_of_lt enough)
    rw [namedFields, bind_apply, more]
    dsimp only
    rw [if_neg (by decide), bind_apply, failed]
  | further more read comma later ih =>
    obtain ⟨less, rfl⟩ := Nat.exists_eq_succ_of_ne_zero (Nat.ne_zero_of_lt enough)
    have first := left_sane ends_nextIs sane more
    have second := left_sane (ends_namedField owner _) first.1 read
    have third := left_sane ends_nextIs second.1 comma
    have further := ih third.1 less (lt_of_spent first.2 second.2 third.2 enough)
    rw [namedFields, bind_apply, more]
    dsimp only
    rw [if_neg (by decide), bind_apply, read]
    dsimp only
    rw [bind_apply, comma]
    dsimp only
    rw [bind_apply, further]

theorem ReachesField.sane (reaches : ReachesField owner position place stream) (sane : stream.Sane) : place.Sane := by
  obtain ⟨inside, opens, further⟩ := reaches
  exact further.sane (left_sane ends_nextIs sane opens).1

theorem ReachesField.fails (reaches : ReachesField owner position place stream) (sane : stream.Sane)
    (failed : namedField owner position place = .error fault left) : fieldList owner stream = .error fault left := by
  obtain ⟨inside, opens, further⟩ := reaches
  have run := further.fails (left_sane ends_nextIs sane opens).1 failed _ (extent_lt_length inside)
  unfold fieldList
  rw [bind_apply, opens]
  dsimp only
  rw [if_pos rfl]
  change (namedFields owner (inside.pending.length + 1) 0 >>= _) inside = _
  rw [bind_apply, run]

theorem lastDocs_bind {α : Type} (next : String → Reading α) (stream : TokenStream) :
    (lastDocs >>= next) stream = next stream.docs { stream with docs := "" } := rfl

theorem ends_looking (role : String) (isMember : Bool) {looked : TokenStream} {name : String} (sane : looked.Sane)
    (named : introduced role isMember { looked with docs := "" } = .ok name left) :
    left.Sane ∧ left.extent + 1 ≤ looked.extent := by
  have ended : left.Sane ∧ left.extent + true.toNat ≤ extent { looked with docs := "" } :=
    left_sane (ends_introduced role isMember) ⟨sane.fault, sane.stuck, sane.marked⟩ named
  exact ended

theorem ReachesVariant.sane {union : String} (reaches : ReachesVariant owner position place union stream)
    (sane : stream.Sane) : place.Sane := by
  induction reaches with
  | here more looks named own reaches =>
    have first := (left_sane ends_nextIs sane more).1
    exact reaches.sane (ends_looking _ _ (left_sane ends_peekedIs first looks).1 named).1
  | further more read comma later ih =>
    have first := (left_sane ends_nextIs sane more).1
    have second := (left_sane (ends_variant _) first read).1
    exact ih (left_sane ends_nextIs second comma).1

theorem ReachesVariant.fails {union : String} (reaches : ReachesVariant owner position place union stream)
    (sane : stream.Sane) (failed : namedField owner position place = .error fault left) (steps : Nat)
    (enough : stream.extent < steps) : variants union steps stream = .error fault left := by
  induction reaches generalizing steps with
  | here more looks named own reaches =>
    obtain ⟨less, rfl⟩ := Nat.exists_eq_succ_of_ne_zero (Nat.ne_zero_of_lt enough)
    have first := (left_sane ends_nextIs sane more).1
    have run := reaches.fails (ends_looking _ _ (left_sane ends_peekedIs first looks).1 named).1 failed
    subst own
    rw [variants, bind_apply, more]
    dsimp only
    rw [if_neg (by decide), bind_apply, variant, bind_apply, looks]
    dsimp only
    rw [lastDocs_bind, bind_apply, named]
    dsimp only
    rw [bind_apply, run]
  | further more read comma later ih =>
    obtain ⟨less, rfl⟩ := Nat.exists_eq_succ_of_ne_zero (Nat.ne_zero_of_lt enough)
    have first := left_sane ends_nextIs sane more
    have second := left_sane (ends_variant _) first.1 read
    have third := left_sane ends_nextIs second.1 comma
    have further := ih third.1 less (lt_of_spent first.2 second.2 third.2 enough)
    rw [variants, bind_apply, more]
    dsimp only
    rw [if_neg (by decide), bind_apply, read]
    dsimp only
    rw [bind_apply, comma]
    dsimp only
    rw [bind_apply, further]

theorem ReachesVariant.failsUnion {union opening : String} {before : TokenStream}
    (reaches : ReachesVariant owner position place union stream)
    (opens : ensure .openBrace none false before = .ok opening stream) (sane : stream.Sane)
    (failed : namedField owner position place = .error fault left) : Parser.union union before = .error fault left := by
  have run := reaches.fails sane failed _ (extent_lt_length stream)
  unfold Parser.union
  rw [bind_apply, opens]
  change (variants union (stream.pending.length + 1) >>= _) stream = _
  rw [bind_apply, run]

theorem map_error {α β : Type} {change : α → β} {action : Reading α} (failed : action stream = .error fault left) :
    (change <$> action) stream = .error fault left := by
  rw [map_eq_pure_bind, bind_apply, failed]

theorem ReachesDeclared.fails (reaches : ReachesDeclared owner position place stream) (sane : stream.Sane)
    (failed : namedField owner position place = .error fault left) (scope : Option String) :
    place.Sane ∧ complete scope stream = .error fault left := by
  cases reaches with
  | record keyword named general reaches =>
    have first := (left_sane (ends_ensure (by decide)) sane keyword).1
    have second := (left_sane ends_generics (ends_looking _ _ first named).1 general).1
    have run := reaches.fails second failed
    refine ⟨reaches.sane second, ?_⟩
    unfold complete
    rw [bind_apply, keyword]
    dsimp only
    rw [if_neg (by decide), lastDocs_bind, bind_apply, named]
    dsimp only
    rw [bind_apply, general]
    dsimp only
    rw [if_pos rfl, bind_apply, map_error run]
  | union keyword named general opens reaches =>
    have first := (left_sane (ends_ensure (by decide)) sane keyword).1
    have second := (left_sane ends_generics (ends_looking _ _ first named).1 general).1
    have third := (left_sane (ends_ensure (by decide)) second opens).1
    refine ⟨reaches.sane third, ?_⟩
    unfold complete
    rw [bind_apply, keyword]
    dsimp only
    rw [if_neg (by decide), lastDocs_bind, bind_apply, named]
    dsimp only
    rw [bind_apply, general]
    dsimp only
    rw [if_neg (by decide), bind_apply, map_error (reaches.failsUnion opens third failed)]

theorem ends_another : Ends false room another := by
  refine (ends_consume (by decide)).bind fun _ => ends_peekedIs.bind fun finished => .ite (fun _ => .pure _) fun _ => ?_
  exact ends_peek.bind fun token => .ite (fun _ => .pure _) fun _ => .throw (refuses_unexpected _ _)

theorem complete_left {scope : Option String} {declaration : Declaration} (sane : stream.Sane)
    (read : complete scope stream = .ok declaration left) : left.Sane ∧ left.extent + 1 ≤ stream.extent := by
  unfold complete at read
  obtain ⟨keyword, between, ensured, read⟩ := bind_eq_ok read
  obtain ⟨sane, less⟩ := left_sane (ends_ensure (by decide)) sane ensured
  by_cases known : (keyword ≠ "record" && keyword ≠ "union") = true
  · rw [if_pos known] at read
    cases read
  rw [if_neg known] at read
  have ended : left.Sane ∧ left.extent + false.toNat ≤ between.extent := by
    refine left_sane ?_ sane read
    refine ends_lastDocs.bind fun docs => (ends_introduced _ _).taking fun name less _ => ends_generics.bind fun _ => ?_
    refine .ite (fun _ => ?_) fun _ => ?_
    · exact Ends.bind (.map (ends_fieldList name)) fun _ => .pure _
    · exact Ends.bind (.map (ends_union name).loose) fun _ => .pure _
  exact ⟨ended.1, Nat.le_trans (Nat.succ_le_succ ended.2) less⟩

theorem ReachesContents.fails {scope : Option String} (reaches : ReachesContents owner position place scope stream)
    (sane : stream.Sane) (failed : namedField owner position place = .error fault left) (steps : Nat)
    (enough : stream.extent < steps) : (contentsFrom scope steps stream).ending = .error fault left := by
  induction reaches generalizing steps with
  | here more reaches =>
    obtain ⟨less, rfl⟩ := Nat.exists_eq_succ_of_ne_zero (Nat.ne_zero_of_lt enough)
    have first := (left_sane ends_another sane more).1
    simp only [contentsFrom, more, (reaches.fails first failed scope).2]
  | further more read skipped later ih =>
    obtain ⟨less, rfl⟩ := Nat.exists_eq_succ_of_ne_zero (Nat.ne_zero_of_lt enough)
    have first := left_sane ends_another sane more
    have second := complete_left first.1 read
    have third := left_sane (ends_consume (by decide)) second.1 skipped
    have further := ih third.1 less (lt_of_spent first.2 second.2 third.2 enough)
    simp only [contentsFrom, more, read, skipped, further]

theorem ReachesContents.sane {scope : Option String} (reaches : ReachesContents owner position place scope stream)
    (sane : stream.Sane) : place.Sane := by
  induction reaches with
  | here more reaches =>
    cases reaches with
    | record keyword named general reaches =>
      have first := (left_sane (ends_ensure (by decide)) (left_sane ends_another sane more).1 keyword).1
      exact reaches.sane (left_sane ends_generics (ends_looking _ _ first named).1 general).1
    | union keyword named general opens reaches =>
      have first := (left_sane (ends_ensure (by decide)) (left_sane ends_another sane more).1 keyword).1
      have second := (left_sane ends_generics (ends_looking _ _ first named).1 general).1
      exact reaches.sane (left_sane (ends_ensure (by decide)) second opens).1
  | further more read skipped later ih =>
    have second := complete_left (left_sane ends_another sane more).1 read
    exact ih (left_sane (ends_consume (by decide)) second.1 skipped).1

end

end Declaration.Parser

open Declaration.Parser

/-- Reading the text comes to the field of the owner at this place: all declarations in front of it are new, and from
the start the parser gets there. -/
structure ReachesText (text : String) (registry : List Declaration) (owner : String) (position : Nat)
    (place : TokenStream) : Prop where
  new : fresh (registry.map (·.name)) (completeIn text) = completeIn text
  reaches : ∃ scope start, leading (TokenStream.ofText text) = .ok scope start ∧
    ReachesContents owner position place scope start

theorem ends_leading {room : Nat} : Ends false room leading := by
  refine ends_nextIs.bind fun found => .ite (fun _ => ?_) fun _ => (ends_consume (by decide)).bind fun _ => .pure _
  exact ends_qualifiedName.taking fun name less _ => (ends_consume (by decide)).bind fun _ => .pure _

section

variable {text owner : String} {registry : List Declaration} {position : Nat} {place left : TokenStream} {fault : Fault}

theorem ReachesText.sane (reaches : ReachesText text registry owner position place) : place.Sane := by
  obtain ⟨-, scope, start, first, further⟩ := reaches
  exact further.sane (left_sane ends_leading (sane_ofText text) first).1

theorem ReachesText.fails (reaches : ReachesText text registry owner position place)
    (failed : namedField owner position place = .error fault left) (other : ∀ problem, fault ≠ .naming problem) :
    (readUnit text registry).1 = some fault := by
  obtain ⟨new, scope, start, first, further⟩ := reaches
  obtain ⟨-, -, same, -⟩ := readUnit_registers text registry
  have run := further.fails (left_sane ends_leading (sane_ofText text) first).1 failed _ (extent_lt_length start)
  rw [(same new).1, faultIn?, Contents.ofText_of_leading first, Contents.fault?_of_error run, located_eq_self other]

/-- **Malformed annotations are charged to their field.** Where reading a text comes to annotations that are nested and
stand in front of a name and a colon, and that name is the first one outside of parentheses that does not stand directly
behind an at sign, a fault in the annotations ends the reading. It is charged to the declaration or variant that the
field is in and to the name of the field, at a token of the annotations or at the one right behind them. -/
theorem readUnit_charges {block gap : List Token} {name : Token} (reaches : ReachesText text registry owner position place)
    (annotated : Annotated block gap name place) (leads : LeadsToName (block ++ gap))
    (fails : Annotation.parseAll ⟨some owner, some name.value⟩ { place with docs := "" } = .error fault left) :
    (readUnit text registry).1 = some fault ∧ ∃ problem token,
      fault = .generation ⟨some owner, some name.value⟩
        (.misannotated problem (some token.line) (some token.column)) ∧
      (token ∈ block ∨ (gap ++ [name]).head? = some token) := by
  obtain ⟨failed, problem, token, rfl, near⟩ := namedField_charges reaches.sane annotated leads fails position
  refine ⟨reaches.fails failed nofun, problem, token, rfl, near.imp_right fun same => ?_⟩
  simpa using same

end

/-! ### Two texts -/

def leftBy {α : Type} : EStateM.Result Fault TokenStream α → TokenStream
  | .ok _ left | .error _ left => left

def gives {α : Type} [DecidableEq α] (value : α) : EStateM.Result Fault TokenStream α → Bool
  | .ok found _ => found = value
  | .error _ _ => false

theorem eq_ok_of_gives {α : Type} [DecidableEq α] {value : α} {result : EStateM.Result Fault TokenStream α}
    (given : gives value result = true) : result = .ok value (leftBy result) := by
  cases result with
  | ok found left => rw [of_decide_eq_true given, leftBy]
  | error fault left => cases given

def wayToFirstField (text : String) : List TokenStream :=
  let start := leftBy (leading (TokenStream.ofText text))
  let keyword := leftBy (another start)
  let named := leftBy (ensure .identifier none false keyword)
  let behind := leftBy (introduced "record" false { named with docs := "" })
  let inside := leftBy (generics behind)
  let first := leftBy (nextIs .openBrace none inside)
  [start, keyword, named, behind, inside, first, leftBy (nextIs .closeBrace none first)]

def startsWithField (text owner : String) : Bool :=
  match wayToFirstField text with
  | [start, keyword, named, behind, inside, first, _] =>
    gives none (leading (TokenStream.ofText text)) && gives true (another start) &&
      gives "record" (ensure .identifier none false keyword) &&
      gives owner (introduced "record" false { named with docs := "" }) && gives [] (generics behind) &&
      gives true (nextIs .openBrace none inside) && gives false (nextIs .closeBrace none first)
  | _ => false

theorem reachesText_first {text owner : String} {place : TokenStream} (starts : startsWithField text owner = true ∧
      (wayToFirstField text).getLast? = some place ∧ completeIn text = []) : ReachesText text [] owner 0 place := by
  obtain ⟨starts, last, new⟩ := starts
  obtain rfl : _ = place := Option.some.inj last
  refine ⟨by rw [new]; rfl, ?_⟩
  simp only [startsWithField, wayToFirstField, Bool.and_eq_true] at starts
  obtain ⟨⟨⟨⟨⟨⟨led, more⟩, keyword⟩, named⟩, general⟩, opens⟩, inside⟩ := starts
  exact ⟨none, _, eq_ok_of_gives led, .here (eq_ok_of_gives more) (.record (eq_ok_of_gives keyword) (eq_ok_of_gives named)
    (eq_ok_of_gives general) ⟨_, eq_ok_of_gives opens, .here (eq_ok_of_gives inside)⟩)⟩

def isFault {α : Type} : EStateM.Result Fault TokenStream α → Bool
  | .ok _ _ => false
  | .error _ _ => true

theorem eq_error_of_isFault {α : Type} {result : EStateM.Result Fault TokenStream α} (failed : isFault result = true) :
    ∃ fault left, result = .error fault left := by
  cases result with
  | ok found left => cases failed
  | error fault left => exact ⟨fault, left, rfl⟩

theorem readUnit_charges_separator : ∃ place block gap name fault left,
    ReachesText "record R { @butcher(x y) /* c */ x : i64 }" [] "R" 0 place ∧ Annotated block gap name place ∧
    LeadsToName (block ++ gap) ∧
    Annotation.parseAll ⟨some "R", some name.value⟩ { place with docs := "" } = .error fault left ∧
    (readUnit "record R { @butcher(x y) /* c */ x : i64 }" []).1 = some fault ∧ ∃ problem token,
      fault = .generation ⟨some "R", some name.value⟩ (.misannotated problem (some token.line) (some token.column)) ∧
      (token ∈ block ∨ (gap ++ [name]).head? = some token) := by
  let mark : Token := ⟨.atSign, "@", 11, 1, 12⟩
  let opening : Token := ⟨.openParen, "(", 19, 1, 20⟩
  let inner : List Token := [⟨.identifier, "x", 20, 1, 21⟩, ⟨.identifier, "y", 22, 1, 23⟩]
  let closing : Token := ⟨.closeParen, ")", 23, 1, 24⟩
  let block : List Token := mark :: ⟨.identifier, "butcher", 12, 1, 13⟩ :: opening :: (inner ++ closing :: [])
  let comment : Token := ⟨.comment, "/* c */", 25, 1, 26⟩
  let name : Token := ⟨.identifier, "x", 33, 1, 34⟩
  let colon : Token := ⟨.colon, ":", 35, 1, 36⟩
  let others : List Lexeme := [.token ⟨.identifier, "i64", 37, 1, 38⟩, .token ⟨.closeBrace, "\x7d", 41, 1, 42⟩]
  let here : TokenStream := ⟨block.map .token ++ ([comment].map .token ++ .token name :: .token colon :: others),
    .finished ⟨42, 1, 43⟩, ""⟩
  have reaches : ReachesText "record R { @butcher(x y) /* c */ x : i64 }" [] "R" 0 here :=
    reachesText_first (by decide +kernel)
  have nested : Nested block :=
    .single (by decide) (by decide) (.single (by decide) (by decide) (.group rfl
      (.single (by decide) (by decide) (.single (by decide) (by decide) .nil)) .nil))
  have annotated : Annotated block [comment] name here :=
    ⟨nested, ⟨mark, rfl, rfl⟩, by simp [comment], rfl, [], colon, others, nofun, rfl, rfl⟩
  have leads : LeadsToName (block ++ [comment]) := ⟨by decide, by decide⟩
  have failed : isFault ( Annotation.parseAll ⟨some "R", some "x"⟩ here) = true := by decide +kernel
  obtain ⟨fault, left, fails⟩ := eq_error_of_isFault failed
  exact ⟨here, block, [comment], name, fault, left, reaches, annotated, leads, fails,
    readUnit_charges reaches annotated leads fails⟩

/-- Behind a comment the name of the annotation does not stand directly behind the at sign, and is taken for that of the
field. -/
theorem readUnit_charges_annotation : ∃ place block name fault left,
    ReachesText "record R { @ /* c */ butcher(copy, x) x : i64 }" [] "R" 0 place ∧ Annotated block [] name place ∧
    name.value = "x" ∧ Annotation.parseAll ⟨some "R", some name.value⟩ { place with docs := "" } = .error fault left ∧
    (readUnit "record R { @ /* c */ butcher(copy, x) x : i64 }" []).1 = some (.generation ⟨some "R", some "butcher"⟩
      (.misannotated (.strategyNotFirst "x") (some 1) (some 36))) := by
  let mark : Token := ⟨.atSign, "@", 11, 1, 12⟩
  let opening : Token := ⟨.openParen, "(", 28, 1, 29⟩
  let inner : List Token :=
    [⟨.identifier, "copy", 29, 1, 30⟩, ⟨.comma, ",", 33, 1, 34⟩, ⟨.identifier, "x", 35, 1, 36⟩]
  let closing : Token := ⟨.closeParen, ")", 36, 1, 37⟩
  let block : List Token := mark :: ⟨.comment, "/* c */", 13, 1, 14⟩ :: ⟨.identifier, "butcher", 21, 1, 22⟩ :: opening ::
    (inner ++ closing :: [])
  let name : Token := ⟨.identifier, "x", 38, 1, 39⟩
  let colon : Token := ⟨.colon, ":", 40, 1, 41⟩
  let others : List Lexeme := [.token ⟨.identifier, "i64", 42, 1, 43⟩, .token ⟨.closeBrace, "\x7d", 46, 1, 47⟩]
  let here : TokenStream := ⟨block.map .token ++ .token name :: .token colon :: others, .finished ⟨47, 1, 48⟩, ""⟩
  have reaches : ReachesText "record R { @ /* c */ butcher(copy, x) x : i64 }" [] "R" 0 here :=
    reachesText_first (by decide +kernel)
  have nested : Nested block :=
    .single (by decide) (by decide) (.single (by decide) (by decide) (.single (by decide) (by decide) (.group rfl
      (.single (by decide) (by decide) (.single (by decide) (by decide) (.single (by decide) (by decide) .nil))) .nil)))
  have annotated : Annotated block [] name here :=
    ⟨nested, ⟨mark, rfl, rfl⟩, nofun, rfl, [], colon, others, nofun, rfl, rfl⟩
  have failed : isFault ( Annotation.parseAll ⟨some "R", some "x"⟩ here) = true := by decide +kernel
  obtain ⟨fault, left, fails⟩ := eq_error_of_isFault failed
  exact ⟨here, block, name, fault, left, reaches, annotated, rfl, fails, by decide +kernel⟩

end CowView
