import CowView.Fault

/-!
Names that a declaration may introduce. Generated classes keep names with a leading underscore and the
names of their members to themselves, and a keyword of the generated language is no name.
-/

namespace CowView

def keywords : List String :=
  ["False", "None", "True", "and", "as", "assert", "async", "await", "break", "class", "continue",
    "def", "del", "elif", "else", "except", "finally", "for", "from", "global", "if", "import", "in",
    "is", "lambda", "nonlocal", "not", "or", "pass", "raise", "return", "try", "while", "with",
    "yield"]

def reservedMembers : List String :=
  ["SIGNATURE", "BOUNDS", "VARIANTS", "SOURCE", "DISCRIMINANT", "butcher", "unbutcher",
    "discriminant"]

/-- What keeps a name from being introduced in a role, if anything does. Members are held to the
reserved names too. -/
def nameProblem? (role name : String) (isMember : Bool) : Option DeclarationProblem :=
  if name.toList.head? = some '_' then some (.leadingUnderscore role name)
  else if name ∈ keywords then some (.keyword role name)
  else if isMember && name ∈ reservedMembers then some (.reservedMember role name)
  else none

def publicName (role name : String) (isMember : Bool := false) : Except Fault String :=
  match nameProblem? role name isMember with
  | some problem => .error (.naming problem)
  | none => .ok name

def firstRepeated? (seen : List String) : List String → Option String
  | [] => none
  | name :: rest => if name ∈ seen then some name else firstRepeated? (name :: seen) rest

theorem firstRepeated?_eq_none (seen names : List String) :
    firstRepeated? seen names = none ↔ names.Nodup ∧ ∀ name ∈ names, name ∉ seen := by
  induction names generalizing seen with
  | nil => simp [firstRepeated?]
  | cons name rest ih =>
    by_cases repeated : name ∈ seen
    · simp [firstRepeated?, repeated]
    · simp only [firstRepeated?, repeated, if_false, ih, List.nodup_cons, List.mem_cons,
        forall_eq_or_imp, not_false_eq_true, true_and, not_or]
      constructor
      · intro h
        exact ⟨⟨fun member => (h.2 name member).1 rfl, h.1⟩, fun other member => (h.2 other member).2⟩
      · intro h
        refine ⟨h.1.2, fun other member => ⟨?_, h.2 other member⟩⟩
        rintro rfl
        exact h.1.1 member

end CowView
