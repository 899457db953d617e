/-!
Positions in a text: the offset counts characters from 0, lines and columns count from 1, and only
a line feed starts a new line.
-/

namespace CowView

structure Position where
  offset : Nat
  line : Nat
  column : Nat
  deriving DecidableEq, Repr

namespace Position

def start : Position := ⟨0, 1, 1⟩

def step (position : Position) (character : Char) : Position :=
  if character = '\n' then ⟨position.offset + 1, position.line + 1, 1⟩
  else ⟨position.offset + 1, position.line, position.column + 1⟩

def advance (position : Position) (characters : List Char) : Position :=
  characters.foldl step position

@[simp] theorem advance_nil (position : Position) : position.advance [] = position := rfl

@[simp] theorem advance_cons (position : Position) (character : Char) (rest : List Char) :
    position.advance (character :: rest) = (position.step character).advance rest := rfl

theorem advance_append (position : Position) (left right : List Char) :
    position.advance (left ++ right) = (position.advance left).advance right := by
  simp [advance]

@[simp] theorem step_offset (position : Position) (character : Char) :
    (position.step character).offset = position.offset + 1 := by
  unfold step
  split <;> rfl

theorem advance_offset (position : Position) (characters : List Char) :
    (position.advance characters).offset = position.offset + characters.length := by
  induction characters generalizing position with
  | nil => rfl
  | cons character rest ih =>
    simp only [advance_cons, ih, step_offset, List.length_cons]
    omega

end Position

end CowView
