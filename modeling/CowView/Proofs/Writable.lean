import CowView.Live.Load
import CowView.Proofs.BoundNames
import CowView.Proofs.Naming
import CowView.Proofs.Soundness

/-!
Names that can be written in the generated text. The lexer takes more for a name than the generated language does, but
what it reads in ASCII is a name there too, and stays one behind the prefixes of generated names. So all
names that a declaration is written with can be written if the names in its text are ASCII (`isWritable_of_mem`), and
they stay as they are when the text is compiled.
-/

namespace CowView

/-! ### Characters of names -/

namespace Text

def IsFluent (name : String) : Prop :=
  ∀ character ∈ name.toList, continuesIdentifier character ∧ character.toNat < 128

theorem IsFluent.append {first second : String} (front : IsFluent first) (back : IsFluent second) :
    IsFluent (first ++ second) := by
  intro character member
  rw [String.toList_append] at member
  exact (List.mem_append.mp member).elim (front character) (back character)

theorem IsFluent.identifier_eq {name : String} (fluent : IsFluent name) : identifier name = name :=
  identifier_of_ascii fun character member => (fluent character member).2

theorem isFluent_underscore : IsFluent "_" := by
  simp [IsFluent, continuesIdentifier]

theorem isFluent_toString (number : Nat) : IsFluent (toString number) := by
  intro character member
  rw [Nat.toString_eq_ofList_toDigits, String.toList_ofList] at member
  have digit := Nat.isDigit_of_mem_toDigits (by decide) (by decide) member
  have ascii : character.toNat < 128 := by
    simp only [Char.isDigit, Bool.and_eq_true, decide_eq_true_eq] at digit
    exact Nat.lt_of_le_of_lt (UInt32.le_iff_toNat_le.mp digit.2) (by decide)
  exact ⟨by simp [continuesIdentifier, ascii, Char.isAlphanum, digit], ascii⟩

end Text

open Text

structure IsPlainName (name : String) : Prop where
  identifier : isIdentifier name.toList
  fluent : IsFluent name

def Token.IsPlain (token : Token) : Prop := token.kind = .identifier → IsPlainName token.value

theorem NameOf.plain {name : String} (named : NameOf Token.IsPlain name) : IsPlainName name := by
  obtain ⟨token, plain, kind, rfl⟩ := named
  exact plain kind

/-- What the lexer takes for a name in ASCII is a name of the generated language. -/
theorem isPlainName_of_isWord {token : BareToken} (isWord : token.IsWord) (kind : token.kind = .identifier)
    (ascii : ∀ character ∈ token.value.toList, character.toNat < 128) : IsPlainName token.value := by
  cases isWord with
  | @identifier first rest noDigit start word =>
    simp only [String.toList_ofList, List.mem_cons, forall_eq_or_imp] at ascii
    obtain ⟨small, ascii⟩ := ascii
    have starts : startsIdentifier first := by
      simpa [startsIdentifier, small, Lexer.startsName, isLetter, or_comm] using start
    have goes : continuesIdentifier first := by
      simp only [startsIdentifier, small, if_true] at starts
      simp only [continuesIdentifier, small, if_true, Char.isAlphanum]
      simp only [Bool.or_eq_true] at starts ⊢
      exact starts.imp_left .inl
    have inner : ∀ character ∈ rest, continuesIdentifier character := by
      intro character member
      have known := word character member
      simp only [Lexer.isWordCharacter, isAlphanumeric, isLetter, ascii character member, if_true] at known
      simpa [continuesIdentifier, ascii character member, Char.isAlphanum, or_comm] using known
    refine ⟨?_, fun character member => ?_⟩
    · simpa [isIdentifier, starts] using inner
    · rw [String.toList_ofList] at member
      rcases List.mem_cons.mp member with rfl | member
      · exact ⟨goes, small⟩
      · exact ⟨inner character member, ascii character member⟩
  | number => cases kind
  | lifetime => cases kind

def hasAsciiNames (text : String) : Bool :=
  (Lexeme.ofText text).1.all fun
    | .token token => token.kind ≠ .identifier || token.value.toList.all (·.toNat < 128)
    | .fault _ => true

theorem isPlain_of_mem {text : String} (ascii : hasAsciiNames text) {token : Token}
    (member : Lexeme.token token ∈ (Lexeme.ofText text).1) : token.IsPlain := by
  intro kind
  have lexed : token.bare.Lexed := TokenStream.lexed_of_mem_ofText member
  have small := List.all_eq_true.mp ascii _ member
  have small : ∀ character ∈ token.value.toList, character.toNat < 128 := by simpa [kind] using small
  exact isPlainName_of_isWord (lexed.isWord (by simp [Token.bare, kind])) kind small

theorem readUnit_plain {text : String} {registry : List Declaration} {state : UnitState} (ascii : hasAsciiNames text)
    (read : readUnit text registry = (none, state)) :
    ∀ declaration ∈ state.declared, declaration.WellNamed (NameOf Token.IsPlain) :=
  readUnit_wellNamed (fun _ => isPlain_of_mem ascii) (fun _ kind => by cases kind) read

/-! ### Fields and parameters of well named declarations -/

namespace Declaration

variable {isWord : String → Prop} {declaration : Declaration}

theorem WellNamed.field (named : declaration.WellNamed isWord) {field : Field} (member : field ∈ declaration.fields) :
    (∃ name, field.name = some name ∧ PublicName true name ∧ isWord name) ∨ field.name = none := by
  have list {list : FieldList} (named : list.WellNamed isWord) (inside : field ∈ list.fields) :
      (∃ name, field.name = some name ∧ PublicName true name ∧ isWord name) ∨ field.name = none := by
    have shape := named.named
    split at shape
    · exact .inl (shape.1 field inside)
    · exact .inr (shape field inside)
    · rw [shape] at inside
      cases inside
  have body := named.body
  unfold fields Body.fields at member
  unfold Body.WellNamed at body
  cases own : declaration.body with
  | record fields =>
    rw [own] at body member
    exact list body member
  | union variants =>
    rw [own] at body member
    obtain ⟨variant, present, inside⟩ := List.mem_flatMap.mp member
    exact list (body.2 variant present).fields inside

theorem WellNamed.typeParameter (named : declaration.WellNamed isWord) {parameter : Parameter}
    (member : parameter ∈ declaration.typeParameters) : PublicName false parameter.name ∧ isWord parameter.name := by
  obtain ⟨present, isType⟩ := List.mem_filter.mp member
  have known := named.parameters parameter present
  cases parameter with
  | type => exact known
  | lifetime | constant => cases isType

theorem WellNamed.variant (named : declaration.WellNamed isWord) {settings : Settings} {view : VariantView}
    (member : view ∈ (View.resolved settings declaration).body.variants) : view.variant.WellNamed isWord := by
  have body := named.body
  change view ∈ (View.resolvedBody settings declaration).variants at member
  unfold View.resolvedBody at member
  cases own : declaration.body with
  | record fields =>
    rw [own] at member
    cases member
  | union variants =>
    rw [own] at body member
    obtain ⟨variant, present, rfl⟩ := List.mem_map.mp member
    exact body.2 variant present

end Declaration

/-! ### Written names -/

namespace Live

variable {declaration : Declaration} {name : String}

theorem isWritable_of_publicName {isMember : Bool} (public_ : PublicName isMember name) (plain : IsPlainName name) :
    isWritable name := by
  simp [isWritable, plain.identifier, public_.free]

theorem isWritable_of_head {first : Char} {rest : List Char} (shape : name.toList = first :: rest)
    (starts : startsIdentifier first) (fluent : IsFluent name)
    (free : ∀ keyword ∈ keywords, keyword.toList.head? ≠ some first) : isWritable name := by
  have inner : ∀ character ∈ rest, continuesIdentifier character := by
    intro character member
    exact (fluent character (by rw [shape]; exact List.mem_cons_of_mem first member)).1
  have other : name ∉ keywords := fun member => free name member (by rw [shape]; rfl)
  simpa [isWritable, shape, isIdentifier, starts, other] using inner

theorem isWritable_underscore (fluent : IsFluent name) : isWritable ("_" ++ name) := by
  have shape : ("_" ++ name).toList = '_' :: name.toList := by simp [String.toList_append]
  exact isWritable_of_head shape (by decide) (isFluent_underscore.append fluent) (by decide)

theorem isFluent_viewName (fluent : IsFluent name) : IsFluent (Settings.default.viewName name) := by
  have front : IsFluent "Butchered" := by simp [IsFluent, continuesIdentifier]
  exact front.append fluent

theorem isWritable_viewName (fluent : IsFluent name) : isWritable (Settings.default.viewName name) := by
  have shape : (Settings.default.viewName name).toList = 'B' :: ("utchered".toList ++ name.toList) := by
    simp [Settings.viewName, Settings.default, String.toList_append]
  exact isWritable_of_head shape (by decide) (isFluent_viewName fluent) (by decide)

theorem isFluent_privateName (named : declaration.WellNamed (NameOf Token.IsPlain)) {own : PrivateName}
    (member : own ∈ (View.resolved .default declaration).privateNames) : IsFluent own.owner ∧ IsFluent own.member := by
  rw [View.privateNames, List.mem_append, List.mem_append] at member
  rcases member with (member | member) | member
  · obtain ⟨parameter, present, rfl⟩ := List.mem_map.mp member
    exact ⟨named.word.plain.fluent, isFluent_underscore.append (named.typeParameter present).2.plain.fluent⟩
  · obtain ⟨variant, present, rfl⟩ := List.mem_map.mp member
    exact ⟨named.word.plain.fluent, (named.variant present).word.plain.fluent⟩
  · obtain ⟨variant, present, rfl⟩ := List.mem_map.mp member
    exact ⟨isFluent_viewName named.word.plain.fluent, (named.variant present).word.plain.fluent⟩

theorem isWritable_definedName (named : declaration.WellNamed (NameOf Token.IsPlain))
    (member : name ∈ (View.resolved .default declaration).definedNames) : isWritable name := by
  rw [(View.definedNames_perm _).mem_iff, List.mem_append, View.publicNames] at member
  rcases member with offered | private_
  · simp only [List.mem_cons, List.not_mem_nil, or_false] at offered
    rcases offered with rfl | rfl
    · exact isWritable_of_publicName named.shown named.word.plain
    · exact isWritable_viewName named.word.plain.fluent
  · obtain ⟨own, present, rfl⟩ := List.mem_map.mp private_
    obtain ⟨owner, inner⟩ := isFluent_privateName named present
    rw [PrivateName.bound, String.append_assoc, String.append_assoc]
    exact isWritable_underscore (owner.append (isFluent_underscore.append inner))

theorem isWritable_slot (named : declaration.WellNamed (NameOf Token.IsPlain)) {field : Field}
    (member : field ∈ declaration.fields) : isWritable field.slot := by
  rcases named.field member with ⟨name, shown, public_, plain⟩ | none
  · rw [Field.slot, shown]
    exact isWritable_of_publicName public_ plain.plain
  · rw [Field.slot, none]
    exact isWritable_underscore (isFluent_toString field.index)

theorem isFluent_slot (named : declaration.WellNamed (NameOf Token.IsPlain)) {field : Field}
    (member : field ∈ declaration.fields) : IsFluent field.slot := by
  rcases named.field member with ⟨name, shown, -, plain⟩ | none
  · rw [Field.slot, shown]
    exact plain.plain.fluent
  · rw [Field.slot, none]
    exact isFluent_underscore.append (isFluent_toString field.index)

theorem isFluent_definedName (named : declaration.WellNamed (NameOf Token.IsPlain))
    (member : name ∈ (View.resolved .default declaration).definedNames) : IsFluent name := by
  rw [(View.definedNames_perm _).mem_iff, List.mem_append, View.publicNames] at member
  rcases member with offered | private_
  · simp only [List.mem_cons, List.not_mem_nil, or_false] at offered
    rcases offered with rfl | rfl
    · exact named.word.plain.fluent
    · exact isFluent_viewName named.word.plain.fluent
  · obtain ⟨own, present, rfl⟩ := List.mem_map.mp private_
    obtain ⟨owner, inner⟩ := isFluent_privateName named present
    exact ((isFluent_underscore.append owner).append isFluent_underscore).append inner

theorem isWritable_of_mem (named : declaration.WellNamed (NameOf Token.IsPlain))
    (member : name ∈ writtenNames (View.resolved .default declaration)) : isWritable name := by
  rw [writtenNames, List.mem_append, List.mem_append] at member
  rcases member with (defined | variant) | slot
  · exact isWritable_definedName named defined
  · obtain ⟨view, present, rfl⟩ := List.mem_map.mp variant
    exact isWritable_of_publicName (named.variant present).shown (named.variant present).word.plain
  · obtain ⟨view, present, rfl⟩ := List.mem_map.mp slot
    change view ∈ (View.resolvedBody .default declaration).fields at present
    rw [View.fields_resolvedBody] at present
    obtain ⟨field, inside, rfl⟩ := List.mem_map.mp present
    exact isWritable_slot named inside

end Live

end CowView
