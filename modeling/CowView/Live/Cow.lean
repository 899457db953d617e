import CowView.Live.Ownership

/-!
Copy-on-write pointers: a value that is owned, or one that is borrowed in a scope.
-/

namespace CowView.Live

def answerCow (form : CowForm) (request : CowRequest) (pointer : Value) : Run Value := do
  match form, request, ← object? pointer with
  | .base, _, _ => misuse .notImplemented
  | .owned, .owned, _ => return pointer
  | .owned, _, some (.owned value) => return value
  | .borrowed, .get, some (.borrowed referent scope) =>
    checkScope scope
    return referent
  | .borrowed, .intoOwned, some (.borrowed referent scope) =>
    checkScope scope
    toOwned referent
  | .borrowed, .owned, some (.borrowed referent scope) =>
    checkScope scope
    create (.owned (← toOwned referent))
  | _, _, _ => misuse .noMember

def isOwned (pointer : Value) : Run Bool := do
  return (← get).isTrue (← member pointer "is_owned")

def ask (call : Call) (pointer : Value) (request : String) : Run Value := do
  call.on (← member pointer request) []

/-- A pointer to a borrowed value. Without a scope that counts as true, the borrow never ends. -/
def createBorrowed (referent scope : Value) : Run Value := do
  let scope := if (← get).isTrue scope then scope else .object staticScope
  create (.borrowed referent scope)

def asDeref (call : Call) (pointer : Value) : Run Value := do
  if ← isOwned pointer then
    create (.owned (← intoTarget call (← ask call pointer "into_owned")))
  else
    let target ← deref call (← member pointer "referent")
    createBorrowed target (← member pointer "scope")

/-- One pointer in the place of a pointer to a pointer. Only the innermost value is ever copied. -/
def unnest (call : Call) (pointer : Value) : Run Value := do
  let inner ← ask call pointer "get"
  if ← isOwned pointer then
    if ← isOwned inner then
      return inner
  create (.owned (← toOwned (← ask call inner "get")))

def cowIter (call : Call) (pointer : Value) : Run Value := do
  if ← isOwned pointer then
    create (.cowIter (← iterate (← ask call pointer "into_owned")) .none)
  else
    let elements ← iterate (← member pointer "referent")
    create (.cowIter elements (← member pointer "scope"))

/-- Closes a scope for good; one that never closes stays open. -/
def closeScope (scope : Value) : Run Unit := do
  match ← object? scope with
  | some (.scope name _ false) => write scope (.scope name false false)
  | some (.scope _ _ true) => return
  | _ => misuse .noMember

end CowView.Live
