import CowView.Fault.Category
import CowView.Generation

/-!
Why an operation on values fails.
-/

namespace CowView.Live

/-- A use of a value that its kind does not allow. `exported` bytes are shown by a window and cannot grow,
`tooDeep` marks a nesting without an end, and `unset` a name that nothing was put under. -/
inductive Misuse where
  | noMember
  | wrongType
  | notImplemented
  | exhausted
  | outOfRange
  | noEntry
  | badValue
  | overflow
  | badText
  | changed
  | exported
  | tooDeep
  | unset
  deriving DecidableEq, Repr

/-- A failed operation: a value of a kind lacks a capability, a borrow outlived its scope, a value was
misused, or no unit could be generated. -/
inductive Failure where
  | unsatisfied (kindName capability : String)
  | expired (scope : String)
  | misuse (problem : Misuse)
  | generation (fault : GenerationFault)
  deriving DecidableEq, Repr

def Failure.category? : Failure → Option FaultCategory
  | unsatisfied .. => some .unsatisfied
  | expired _ => some .expired
  | generation (.unit fault) => some fault.category
  | _ => none

def Failure.message? : Failure → Option String
  | unsatisfied kindName capability =>
    some ("Value of type '" ++ kindName ++ "' does not satisfy '" ++ capability ++ "'")
  | expired scope => some ("Borrow used after its scope (" ++ scope ++ ") was closed")
  | _ => none

end CowView.Live
