import CowView.Text.Normal

/-!
Names in their normal form. A name in ASCII is its own form, and an underscore is a border: nothing is composed
across it and no mark passes it, so the two parts of a name have their forms on their own
(`identifier_append_underscore`).
-/

namespace CowView.Text

variable {character first second start : Char} {text front back between : List Char}

/-! ### Characters of ASCII -/

theorem decompose_of_ascii (plain : character.toNat < 0x80) : decompose character = [character] := by
  rw [decompose, if_pos (by omega)]

theorem combiningClass_of_ascii (plain : character.toNat < 0x80) : combiningClass character = 0 := by
  rw [combiningClass, if_pos (by omega)]

theorem composite?_of_ascii (plain : second.toNat < 0x80) : composite? first second = none := by
  have low : ¬ 0x300 ≤ second.toNat := by omega
  simp [composite?, low]

theorem composite?_underscore (second : Char) : composite? '_' second = none := by
  have none : startsComposite '_' = false := by decide
  simp [composite?, none]

theorem place_of_class_zero (zero : combiningClass character = 0) (marks : List Char) :
    place character marks = character :: marks := by
  cases marks with
  | nil => rfl
  | cons mark rest => rw [place, zero, if_neg (by omega)]

/-! ### Texts in ASCII -/

theorem composeFrom_of_ascii (start : Char) (plain : ∀ character ∈ text, character.toNat < 0x80) :
    composeFrom start [] text = start :: text := by
  induction text generalizing start with
  | nil => rfl
  | cons character rest ih =>
    obtain ⟨own, others⟩ := List.forall_mem_cons.mp plain
    rw [composeFrom]
    simp only [List.head?_nil, Option.any_none, Bool.false_eq_true, if_false, composite?_of_ascii own,
      combiningClass_of_ascii own, if_true, ih character others]
    rfl

theorem normal_of_ascii (plain : ∀ character ∈ text, character.toNat < 0x80) : normal text = text := by
  have whole : text.flatMap decompose = text := by
    induction text with
    | nil => rfl
    | cons character rest ih =>
      obtain ⟨own, others⟩ := List.forall_mem_cons.mp plain
      rw [List.flatMap_cons, decompose_of_ascii own, ih others]
      rfl
  have ordered : order text = text := by
    clear whole
    induction text with
    | nil => rfl
    | cons character rest ih =>
      obtain ⟨own, others⟩ := List.forall_mem_cons.mp plain
      rw [order, ih others, place_of_class_zero (combiningClass_of_ascii own)]
  rw [normal, whole, ordered]
  cases text with
  | nil => rfl
  | cons character rest =>
    obtain ⟨own, others⟩ := List.forall_mem_cons.mp plain
    rw [compose, if_pos (combiningClass_of_ascii own), composeFrom_of_ascii character others]

theorem toList_identifier (name : String) : (identifier name).toList = normal name.toList := by
  unfold identifier
  split
  next plain =>
    rw [normal_of_ascii]
    simpa using plain
  · exact String.toList_ofList

theorem identifier_of_ascii {name : String} (plain : ∀ character ∈ name.toList, character.toNat < 0x80) :
    identifier name = name := by
  rw [identifier, if_pos (by simpa using plain)]

/-! ### An underscore in a name -/

theorem combiningClass_underscore : combiningClass '_' = 0 := combiningClass_of_ascii (by decide)

theorem place_append_underscore (character : Char) (marks rest : List Char) :
    place character (marks ++ '_' :: rest) = place character marks ++ '_' :: rest := by
  induction marks with
  | nil => simp [place, combiningClass_underscore]
  | cons mark marks ih =>
    change place character (mark :: (marks ++ '_' :: rest)) = _
    rw [place, place, ih]
    split <;> rfl

theorem order_append_underscore (front back : List Char) :
    order (front ++ '_' :: back) = order front ++ '_' :: order back := by
  induction front with
  | nil => exact place_of_class_zero combiningClass_underscore _
  | cons character front ih =>
    change place character (order (front ++ '_' :: back)) = _
    rw [ih, place_append_underscore]
    rfl

/-- Behind an underscore all starts again, the marks right behind it being kept as they are. -/
theorem composeFrom_underscore (between text : List Char) :
    composeFrom '_' between text = '_' :: (between.reverse ++ compose text) := by
  induction text generalizing between with
  | nil => simp [composeFrom, compose]
  | cons character rest ih =>
    rw [composeFrom, compose]
    simp only [composite?_underscore, ite_self]
    split
    · rfl
    · rw [ih]
      simp

theorem composeFrom_append_underscore (start : Char) (between front back : List Char) :
    composeFrom start between (front ++ '_' :: back) = composeFrom start between front ++ '_' :: compose back := by
  induction front generalizing start between with
  | nil =>
    have border : composite? start '_' = none := composite?_of_ascii (by decide)
    simp [composeFrom, border, combiningClass_underscore, composeFrom_underscore]
  | cons character front ih =>
    change composeFrom start between (character :: (front ++ '_' :: back)) = _
    rw [composeFrom, composeFrom]
    split
    · exact ih _ _
    · split
      · rw [ih, List.append_assoc]
      · exact ih _ _

theorem compose_append_underscore (front back : List Char) :
    compose (front ++ '_' :: back) = compose front ++ '_' :: compose back := by
  induction front with
  | nil =>
    have border : compose ('_' :: back) = composeFrom '_' [] back := by
      rw [compose, if_pos combiningClass_underscore]
    exact border.trans (composeFrom_underscore [] back)
  | cons character front ih =>
    change compose (character :: (front ++ '_' :: back)) = _
    rw [compose, compose, ih, composeFrom_append_underscore]
    split <;> rfl

theorem normal_append_underscore (front back : List Char) :
    normal (front ++ '_' :: back) = normal front ++ '_' :: normal back := by
  have parts : (front ++ '_' :: back).flatMap decompose =
      front.flatMap decompose ++ '_' :: back.flatMap decompose := by
    rw [List.flatMap_append, List.flatMap_cons, show decompose '_' = ['_'] from decompose_of_ascii (by decide)]
    rfl
  rw [normal, parts, order_append_underscore, compose_append_underscore]
  rfl

/-- The form of a name with an underscore in it is made of the forms of the parts. -/
theorem identifier_append_underscore (front back : String) :
    identifier (front ++ "_" ++ back) = identifier front ++ "_" ++ identifier back := by
  apply String.toList_inj.mp
  have split (first second : String) :
      (first ++ "_" ++ second).toList = first.toList ++ '_' :: second.toList := by
    simp [String.toList_append]
  rw [toList_identifier, split, normal_append_underscore, split, toList_identifier, toList_identifier]

end CowView.Text
