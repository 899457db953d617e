/-!
Code point ranges. A character class beyond ASCII is a list of inclusive ranges.
-/

namespace CowView.Text

def within (ranges : List (Nat × Nat)) (character : Char) : Bool :=
  ranges.any fun range => range.1 ≤ character.toNat && character.toNat ≤ range.2

theorem within_iff (ranges : List (Nat × Nat)) (character : Char) :
    within ranges character = true ↔
      ∃ range ∈ ranges, range.1 ≤ character.toNat ∧ character.toNat ≤ range.2 := by
  simp [within]

end CowView.Text
