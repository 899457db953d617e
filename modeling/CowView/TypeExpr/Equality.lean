import CowView.TypeExpr

/-!
Equality of type expressions is decidable: form by form, part by part.
-/

namespace CowView

mutual

def TypeExpr.decEq (left right : TypeExpr) : Decidable (left = right) := by
  cases left with
  | lifetime a0 =>
    cases right with
    | lifetime b0 =>
      exact decidable_of_iff (a0 = b0) (by simp)
    | _ => exact isFalse nofun
  | constant a0 =>
    cases right with
    | constant b0 =>
      exact decidable_of_iff (a0 = b0) (by simp)
    | _ => exact isFalse nofun
  | inferred =>
    cases right with
    | inferred => exact isTrue rfl
    | _ => exact isFalse nofun
  | never =>
    cases right with
    | never => exact isTrue rfl
    | _ => exact isFalse nofun
  | verbatim a0 =>
    cases right with
    | verbatim b0 =>
      exact decidable_of_iff (a0 = b0) (by simp)
    | _ => exact isFalse nofun
  | path a0 a1 =>
    cases right with
    | path b0 b1 =>
      have := Segment.decEq a0 b0
      have := Segment.decEqAll a1 b1
      exact decidable_of_iff (a0 = b0 ∧ a1 = b1) (by simp)
    | _ => exact isFalse nofun
  | qualified a0 a1 a2 a3 =>
    cases right with
    | qualified b0 b1 b2 b3 =>
      have := TypeExpr.decEq a0 b0
      have := Segment.decEq a2 b2
      have := Segment.decEqAll a3 b3
      exact decidable_of_iff (a0 = b0 ∧ a1 = b1 ∧ a2 = b2 ∧ a3 = b3) (by simp)
    | _ => exact isFalse nofun
  | array a0 a1 =>
    cases right with
    | array b0 b1 =>
      have := TypeExpr.decEq a0 b0
      exact decidable_of_iff (a0 = b0 ∧ a1 = b1) (by simp)
    | _ => exact isFalse nofun
  | slice a0 =>
    cases right with
    | slice b0 =>
      have := TypeExpr.decEq a0 b0
      exact decidable_of_iff (a0 = b0) (by simp)
    | _ => exact isFalse nofun
  | tuple a0 =>
    cases right with
    | tuple b0 =>
      have := TypeExpr.decEqAll a0 b0
      exact decidable_of_iff (a0 = b0) (by simp)
    | _ => exact isFalse nofun
  | group a0 =>
    cases right with
    | group b0 =>
      have := TypeExpr.decEq a0 b0
      exact decidable_of_iff (a0 = b0) (by simp)
    | _ => exact isFalse nofun
  | function a0 a1 =>
    cases right with
    | function b0 b1 =>
      have := TypeExpr.decEqAll a0 b0
      have := TypeExpr.decEqOption a1 b1
      exact decidable_of_iff (a0 = b0 ∧ a1 = b1) (by simp)
    | _ => exact isFalse nofun
  | reference a0 a1 a2 =>
    cases right with
    | reference b0 b1 b2 =>
      have := TypeExpr.decEq a2 b2
      exact decidable_of_iff (a0 = b0 ∧ a1 = b1 ∧ a2 = b2) (by simp)
    | _ => exact isFalse nofun
  | pointer a0 a1 =>
    cases right with
    | pointer b0 b1 =>
      have := TypeExpr.decEq a1 b1
      exact decidable_of_iff (a0 = b0 ∧ a1 = b1) (by simp)
    | _ => exact isFalse nofun
  | implTrait a0 =>
    cases right with
    | implTrait b0 =>
      have := TypeExpr.decEqAll a0 b0
      exact decidable_of_iff (a0 = b0) (by simp)
    | _ => exact isFalse nofun
  | traitObject a0 =>
    cases right with
    | traitObject b0 =>
      have := TypeExpr.decEqAll a0 b0
      exact decidable_of_iff (a0 = b0) (by simp)
    | _ => exact isFalse nofun

def TypeExpr.decEqAll (left right : List TypeExpr) : Decidable (left = right) :=
  match left, right with
  | [], [] => isTrue rfl
  | [], _ :: _ => isFalse nofun
  | _ :: _, [] => isFalse nofun
  | first :: rest, second :: others =>
    have := TypeExpr.decEq first second
    have := TypeExpr.decEqAll rest others
    decidable_of_iff (first = second ∧ rest = others) (by simp)

def TypeExpr.decEqOption (left right : Option TypeExpr) : Decidable (left = right) :=
  match left, right with
  | none, none => isTrue rfl
  | none, some _ => isFalse nofun
  | some _, none => isFalse nofun
  | some first, some second =>
    have := TypeExpr.decEq first second
    decidable_of_iff (first = second) (by simp)

def Segment.decEq (left right : Segment) : Decidable (left = right) := by
  cases left with
  | plain a0 =>
    cases right with
    | plain b0 =>
      exact decidable_of_iff (a0 = b0) (by simp)
    | _ => exact isFalse nofun
  | angle a0 a1 =>
    cases right with
    | angle b0 b1 =>
      have := Argument.decEqAll a1 b1
      exact decidable_of_iff (a0 = b0 ∧ a1 = b1) (by simp)
    | _ => exact isFalse nofun
  | call a0 a1 a2 =>
    cases right with
    | call b0 b1 b2 =>
      have := TypeExpr.decEqAll a1 b1
      have := TypeExpr.decEqOption a2 b2
      exact decidable_of_iff (a0 = b0 ∧ a1 = b1 ∧ a2 = b2) (by simp)
    | _ => exact isFalse nofun

def Segment.decEqAll (left right : List Segment) : Decidable (left = right) :=
  match left, right with
  | [], [] => isTrue rfl
  | [], _ :: _ => isFalse nofun
  | _ :: _, [] => isFalse nofun
  | first :: rest, second :: others =>
    have := Segment.decEq first second
    have := Segment.decEqAll rest others
    decidable_of_iff (first = second ∧ rest = others) (by simp)

def Argument.decEq (left right : Argument) : Decidable (left = right) := by
  cases left with
  | type a0 =>
    cases right with
    | type b0 =>
      have := TypeExpr.decEq a0 b0
      exact decidable_of_iff (a0 = b0) (by simp)
    | _ => exact isFalse nofun
  | binding a0 a1 =>
    cases right with
    | binding b0 b1 =>
      have := TypeExpr.decEq a1 b1
      exact decidable_of_iff (a0 = b0 ∧ a1 = b1) (by simp)
    | _ => exact isFalse nofun
  | constraint a0 a1 =>
    cases right with
    | constraint b0 b1 =>
      have := TypeExpr.decEqAll a1 b1
      exact decidable_of_iff (a0 = b0 ∧ a1 = b1) (by simp)
    | _ => exact isFalse nofun

def Argument.decEqAll (left right : List Argument) : Decidable (left = right) :=
  match left, right with
  | [], [] => isTrue rfl
  | [], _ :: _ => isFalse nofun
  | _ :: _, [] => isFalse nofun
  | first :: rest, second :: others =>
    have := Argument.decEq first second
    have := Argument.decEqAll rest others
    decidable_of_iff (first = second ∧ rest = others) (by simp)

end

instance : DecidableEq TypeExpr := TypeExpr.decEq

instance : DecidableEq Segment := Segment.decEq

instance : DecidableEq Argument := Argument.decEq

end CowView
