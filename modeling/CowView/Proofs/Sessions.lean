import CowView.Live.Script
import CowView.Proofs.Loading

/-!
Steps of scripts. A relation of stores that every basic run keeps, and that is kept from one run to the
next, holds between the stores before and after any steps (`Lasting.leads`). The first such relation is
that units are loaded from texts (`Session.Reached.fromTexts`).
-/

namespace CowView.Live

/-! ### Runs that only scripts use -/

/-- A write that comes after a look at other values. -/
theorem EvolvesFrom.writeLater {before now : Store} {target : Value} {object new : Object}
    (evolves : before.Evolves now) (held : before.object? target = some object)
    (becomes : ∀ other, object.Becomes other → other.Becomes new) : EvolvesFrom now (Live.write target new) := by
  obtain ⟨other, held', became⟩ := evolves.object? held
  exact .write held' (becomes other became)

theorem EvolvesFrom.writeBoth {α β : Type} {first : Run α} {second : Run β} {store : Store} {target : Value}
    {object : Object} (one : Evolving first) (two : Evolving second)
    (held : store.object? target = some object) {made : α → β → Object}
    (becomes : ∀ found also other, object.Becomes other → other.Becomes (made found also)) :
    EvolvesFrom store (first >>= fun found => second >>= fun also => Live.write target (made found also)) :=
  (one store).bind fun found between ran => (two between).bind fun also _ ran' =>
    .writeLater ((one.result ran).trans (two.result ran')) held (becomes found also)

namespace Evolving

/-- Items of collections and bytes are changed where they are held. -/
theorem setItem (target index value : Value) : Evolving (Live.setItem target index value) := by
  have list (items others : List Value) (other : Object) (became : (Object.list items).Becomes other) :
      other.Becomes (.list others) := by cases became <;> exact .list _ _
  have dict (entries others : List (Value × Value)) (other : Object)
      (became : (Object.dict entries).Becomes other) : other.Becomes (.dict others) := by
    cases became <;> exact .dict _ _
  have bytearray (content others : List UInt8) (other : Object)
      (became : (Object.bytearray content).Becomes other) : other.Becomes (.bytearray others) := by
    cases became <;> exact .bytearray _ _
  have array (content others : List UInt8) (other : Object)
      (became : (Object.array content).Becomes other) : other.Becomes (.array others) := by
    cases became <;> exact .array _ _
  intro store
  refine .then (object?_apply target store) ?_
  split
  next held =>
    exact (position _ _ store).bind fun _ between ran =>
      .writeLater ((position _ _).result ran) held (list _ _)
  next held =>
    refine (requireKey index store).bind fun _ between ran => ?_
    exact .then rfl (.writeLater ((requireKey index).result ran) held (dict _ _))
  next held =>
    dsimp only
    refine .ite (.refl store) ?_
    exact .writeBoth (byteOf .badValue value) (position _ index) held fun _ _ => bytearray _ _
  next held => exact .writeBoth (position _ index) (byteOf .overflow value) held fun _ _ => array _ _
  next held =>
    refine .then (object?_apply _ store) ?_
    split
    next held => exact .writeBoth (position _ index) (byteOf .badValue value) held fun _ _ => bytearray _ _
    next held => exact .writeBoth (position _ index) (byteOf .badValue value) held fun _ _ => array _ _
    · exact .refl store
  · exact .refl store

theorem slice (value : Value) (first last : Int) : Evolving (Live.slice value first last) := by
  refine (Evolving.object? value).bind fun found => ?_
  split
  · exact .create _
  · exact .misuse _

theorem snapshotObject {look : Value → Run Snapshot} (each : ∀ value, Evolving (look value))
    (value : Value) (object : Object) : Evolving (Live.snapshotObject look value object) := by
  unfold Live.snapshotObject
  split
  all_goals try exact .pure _
  · exact (mapM each _).bind fun _ => .pure _
  · exact (mapM each _).bind fun _ => .pure _
  · exact (mapM (fun _ => (each _).bind fun _ => (each _).bind fun _ => .pure _) _).bind fun _ => .pure _
  · exact Evolving.get.bind fun _ => .pure _
  · exact (each _).bind fun _ => .pure _
  · exact (each _).bind fun _ => .pure _
  · refine (Evolving.object? _).bind fun found => ?_
    split
    · exact (each _).bind fun _ => .pure _
    · exact .pure _
    · exact .misuse _
  · refine Evolving.get.bind fun store => ?_
    split
    · exact (mapM (fun _ => (each _).bind fun _ => .pure _) _).bind fun _ => .pure _
    · exact (mapM (fun _ => (each _).bind fun _ => .pure _) _).bind fun _ => .pure _
    · exact .ite ((each _).bind fun _ => .pure _) (.pure _)

theorem snapshotWithin (steps : Nat) (outer : List Value) (value : Value) :
    Evolving (Live.snapshotWithin steps outer value) := by
  induction steps generalizing outer value with
  | zero => exact .misuse _
  | succ steps ih =>
    refine Evolving.get.bind fun store => ?_
    split
    all_goals try exact .pure _
    split
    · exact .pure _
    · exact snapshotObject (ih _) _ _
    · exact .pure _

theorem snapshot (value : Value) : Evolving (Live.snapshot value) :=
  Evolving.depth.bind fun steps => snapshotWithin steps [] value

end Evolving

/-! ### Relations that last -/

def Operator.assigns : Operator → Bool
  | .setMember _ => true
  | _ => false

def Expression.assigns : Expression → Bool
  | .plain _ | .register _ | .named _ => false
  | .apply operator operands => operator.assigns || someAssigns operands
  | .call callee inOrder byName => callee.assigns || someAssigns inOrder || someNamedAssigns byName
where
  someAssigns : List Expression → Bool
    | [] => false
    | first :: rest => first.assigns || someAssigns rest
  someNamedAssigns : List (String × Expression) → Bool
    | [] => false
    | (_, first) :: rest => first.assigns || someNamedAssigns rest

def Step.assigns : Step → Bool
  | .evaluate _ expression => expression.assigns
  | .load .. => false

def Leading (related : Store → Store → Prop) {α : Type} (run : Run α) : Prop :=
  ∀ store, Ends run store (fun _ after => related store after) fun _ after => related store after

/-- Whatever is done to a store, the stores before and after are related; assigning attributes may be left
out. -/
structure Lasting (related : Store → Store → Prop) (mayAssign : Bool) : Prop where
  refl : ∀ store, related store store
  trans : ∀ {before between after}, related before between → related between after → related before after
  evolves : ∀ {before after}, before.Evolves after → related before after
  owners : ∀ (store : Store) owners, related store { store with owners }
  targets : ∀ (store : Store) targets, related store { store with targets }
  loads : ∀ name text settings, Leading related (load name text settings)
  assigns : mayAssign = true → ∀ target name value, Leading related (setMember target name value)

def Play.Leading (related : Store → Store → Prop) {α : Type} (play : Play α) : Prop :=
  ∀ session, match play session with
    | .ok _ after => related session.store after.store
    | .error _ after => related session.store after.store

namespace Lasting

variable {related : Store → Store → Prop} {mayAssign : Bool} (lasting : Lasting related mayAssign)
  {α β : Type}

include lasting

theorem pure (value : α) : Play.Leading related (pure value) := fun session => lasting.refl session.store

theorem throw (failure : Failure) : Play.Leading related (throw failure : Play α) :=
  fun session => lasting.refl session.store

theorem get : Play.Leading related (get : Play Session) := fun session => lasting.refl session.store

theorem bind {play : Play α} {next : α → Play β} (first : Play.Leading related play)
    (rest : ∀ found, Play.Leading related (next found)) : Play.Leading related (play >>= next) := by
  intro session
  have one := first session
  show match EStateM.bind play next session with
    | .ok _ after => related session.store after.store
    | .error _ after => related session.store after.store
  unfold EStateM.bind
  split at one
  next found between shown =>
    have two := rest found between
    rw [shown]
    dsimp only
    split at two <;> exact lasting.trans one two
  next shown =>
    rw [shown]
    exact one

theorem modify {change : Session → Session} (same : ∀ session, (change session).store = session.store) :
    Play.Leading related (modify change : Play Unit) := by
  intro session
  show related session.store (change session).store
  rw [same]
  exact lasting.refl _

omit lasting in
theorem onStore {run : Run α} (leading : Leading related run) : Play.Leading related (Play.onStore run) := by
  intro session
  have ends := leading session.store
  unfold Ends at ends
  unfold Play.onStore
  cases shown : run session.store with
  | ok result after =>
    rw [shown] at ends
    exact ends
  | error failure after =>
    rw [shown] at ends
    exact ends

theorem evolving {run : Run α} (evolving : Evolving run) : Leading related run :=
  fun store => (evolving store).mono (fun _ _ => lasting.evolves) fun _ _ => lasting.evolves

theorem onStoreEvolving {run : Run α} (evolving : Evolving run) : Play.Leading related (Play.onStore run) :=
  onStore (lasting.evolving evolving)

theorem found (entry : Option α) : Play.Leading related (Play.found entry) := by
  cases entry with
  | none => exact lasting.throw _
  | some value => exact lasting.pure value

theorem named (path : List String) : Play.Leading related (Play.named path) := by
  unfold Play.named
  split
  · exact lasting.throw _
  · exact lasting.bind (lasting.found _) fun _ => lasting.pure _
  · refine lasting.bind lasting.get fun session => lasting.bind (lasting.found _) fun number => ?_
    split
    · exact lasting.throw _
    · exact lasting.onStoreEvolving (.foldlM (fun _ _ => .member _ _) _ _)

theorem effect {run : Run Unit} (leading : Leading related run) : Play.Leading related (Play.effect run) :=
  lasting.bind (onStore leading) fun _ => lasting.pure _

theorem append (target value : Value) : Play.Leading related (Play.append target value) := by
  refine lasting.bind lasting.get fun session => ?_
  split
  · exact lasting.bind (lasting.onStoreEvolving (.grown _ _)) fun _ => lasting.throw _
  · exact lasting.effect (lasting.evolving (.append _ _))

theorem operate (operator : Operator) (operands : List Value)
    (allowed : operator.assigns = true → mayAssign = true) :
    Play.Leading related (Play.operate operator operands) := by
  unfold Play.operate
  split
  · exact lasting.onStoreEvolving (.create _)
  · exact lasting.onStoreEvolving (.create _)
  · exact lasting.onStoreEvolving (.createDict _)
  · exact lasting.onStoreEvolving (.create _)
  · exact lasting.onStoreEvolving (.create _)
  · exact lasting.onStoreEvolving (.createWindow _)
  · exact lasting.onStoreEvolving (.slice _ _ _)
  · exact lasting.onStoreEvolving (.member _ _)
  · exact lasting.effect (lasting.assigns (allowed rfl) _ _ _)
  · exact lasting.onStoreEvolving (.item _ _)
  · exact lasting.effect (lasting.evolving (.setItem _ _ _))
  · exact lasting.append _ _
  · exact lasting.bind (lasting.onStoreEvolving (.equal _ _)) fun _ => lasting.pure _
  · exact lasting.bind (lasting.onStoreEvolving (.equal _ _)) fun _ => lasting.pure _
  · exact lasting.pure _
  · exact lasting.bind lasting.get fun _ => lasting.pure _
  · exact lasting.effect (lasting.evolving (.requireKey _))
  · exact lasting.bind (lasting.onStoreEvolving (.describe _)) fun _ => lasting.pure _
  · exact lasting.onStoreEvolving (.advance _)
  · exact lasting.onStoreEvolving ((Evolving.collect _).bind fun _ => .create _)
  · exact lasting.bind lasting.get fun _ => lasting.pure _
  · exact lasting.bind lasting.get fun _ => lasting.pure _
  · exact lasting.effect fun store => lasting.owners store _
  · exact lasting.effect fun store => lasting.targets store _
  · refine lasting.bind (lasting.onStoreEvolving (.openScope _)) fun scope => ?_
    refine lasting.bind (lasting.modify fun _ => rfl) fun _ => ?_
    exact lasting.onStoreEvolving (.createBorrowed _ _)
  · refine lasting.bind lasting.get fun session => lasting.bind (lasting.found _) fun scope => ?_
    exact lasting.bind (lasting.onStoreEvolving (.closeScope _)) fun _ => lasting.pure _
  · exact lasting.throw _

mutual

theorem evaluate (expression : Expression) (allowed : expression.assigns = true → mayAssign = true) :
    Play.Leading related (Play.evaluate expression) :=
  match expression with
  | .plain value => lasting.pure value
  | .register name => lasting.bind lasting.get fun _ => lasting.found _
  | .named path => lasting.named path
  | .apply operator operands => by
    simp only [Expression.assigns, Bool.or_eq_true] at allowed
    exact lasting.bind (evaluateAll operands fun some_ => allowed (.inr some_)) fun values =>
      lasting.operate operator values fun own => allowed (.inl own)
  | .call callee inOrder byName => by
    simp only [Expression.assigns, Bool.or_eq_true] at allowed
    refine lasting.bind (evaluate callee fun own => allowed (.inl (.inl own))) fun callee => ?_
    refine lasting.bind (evaluateAll inOrder fun some_ => allowed (.inl (.inr some_))) fun inOrder => ?_
    refine lasting.bind (evaluateNamed byName fun some_ => allowed (.inr some_)) fun byName => ?_
    split
    · exact lasting.append _ _
    · exact lasting.onStoreEvolving (.call _ _)

theorem evaluateAll (operands : List Expression)
    (allowed : Expression.assigns.someAssigns operands = true → mayAssign = true) :
    Play.Leading related (Play.evaluate.evaluateAll operands) :=
  match operands with
  | [] => lasting.pure []
  | first :: rest => by
    simp only [Expression.assigns.someAssigns, Bool.or_eq_true] at allowed
    refine lasting.bind (evaluate first fun own => allowed (.inl own)) fun value => ?_
    exact lasting.bind (evaluateAll rest fun some_ => allowed (.inr some_)) fun _ => lasting.pure _

theorem evaluateNamed (operands : List (String × Expression))
    (allowed : Expression.assigns.someNamedAssigns operands = true → mayAssign = true) :
    Play.Leading related (Play.evaluate.evaluateNamed operands) :=
  match operands with
  | [] => lasting.pure []
  | (_, first) :: rest => by
    simp only [Expression.assigns.someNamedAssigns, Bool.or_eq_true] at allowed
    refine lasting.bind (evaluate first fun own => allowed (.inl own)) fun value => ?_
    exact lasting.bind (evaluateNamed rest fun some_ => allowed (.inr some_)) fun _ => lasting.pure _

end

theorem step (action : Step) (allowed : action.assigns = true → mayAssign = true) :
    Play.Leading related (Play.step action) := by
  cases action with
  | evaluate register expression =>
    refine lasting.bind (lasting.evaluate expression allowed) fun value => ?_
    have outcome : Play.Leading related (do
        return Play.Outcome.value (← Play.onStore (snapshot value)) : Play Play.Outcome) :=
      lasting.bind (lasting.onStoreEvolving (.snapshot value)) fun _ => lasting.pure _
    cases register with
    | none => exact outcome
    | some name => exact lasting.bind (lasting.modify fun _ => rfl) fun _ => outcome
  | load register text settings =>
    exact lasting.bind (onStore (lasting.loads register text settings)) fun number =>
      lasting.bind (lasting.modify fun _ => rfl) fun _ => lasting.pure _

end Lasting

/-! ### Sequences of steps -/

namespace Session

def after (session : Session) (action : Step) : Session :=
  match Play.step action session with
  | .ok _ after => after
  | .error _ after => after

inductive Leads (sort : Step → Prop) : Session → Session → Prop
  | refl (session : Session) : Leads sort session session
  | step {session between : Session} (leads : Leads sort session between) (action : Step)
    (own : sort action) : Leads sort session (between.after action)

theorem Leads.mono {sort wider : Step → Prop} {session later : Session} (leads : Leads sort session later)
    (wide : ∀ action, sort action → wider action) : Leads wider session later := by
  induction leads with
  | refl => exact .refl _
  | step _ action own ih => exact .step ih action (wide action own)

theorem Leads.trans {sort : Step → Prop} {session between later : Session} (first : Leads sort session between)
    (second : Leads sort between later) : Leads sort session later := by
  induction second with
  | refl => exact first
  | step _ action own ih => exact .step ih action own

theorem Leads.foldl {sort : Step → Prop} (actions : List Step) (session : Session)
    (own : ∀ action ∈ actions, sort action) : Leads sort session (actions.foldl Session.after session) := by
  induction actions generalizing session with
  | nil => exact .refl session
  | cons action rest ih =>
    have first : Leads sort session (session.after action) :=
      .step (.refl session) action (own action List.mem_cons_self)
    exact first.trans (ih _ fun other member => own other (List.mem_cons_of_mem action member))

/-- States that steps lead to from the start. -/
def Reached (session : Session) : Prop := Leads (fun _ => True) {} session

theorem Reached.foldl (actions : List Step) : Reached (actions.foldl Session.after {}) :=
  Leads.foldl actions {} fun _ _ => trivial

end Session

variable {related : Store → Store → Prop} {mayAssign : Bool}

theorem Lasting.after (lasting : Lasting related mayAssign) (session : Session) (action : Step)
    (allowed : action.assigns = true → mayAssign = true) :
    related session.store (session.after action).store := by
  have leading := lasting.step action allowed session
  unfold Session.after
  split at leading
  next shown =>
    rw [shown]
    exact leading
  next shown =>
    rw [shown]
    exact leading

theorem Lasting.leads (lasting : Lasting related mayAssign) {session later : Session}
    (leads : session.Leads (fun action => action.assigns = true → mayAssign = true) later) :
    related session.store later.store := by
  induction leads with
  | refl => exact lasting.refl _
  | step _ action own ih => exact lasting.trans ih (lasting.after _ action own)

/-- Assigning an attribute changes objects where they are, and nothing else. -/
theorem setMember_frame (target : Value) (name : String) (value : Value) :
    Leading (fun before after => after.units = before.units ∧ after.objects.size = before.objects.size)
      (setMember target name value) := by
  have write_frame (store : Store) (object : Object) : Ends (write target object) store
      (fun _ after => after.units = store.units ∧ after.objects.size = store.objects.size)
      (fun _ after => after.units = store.units ∧ after.objects.size = store.objects.size) := by
    cases target with
    | object address => exact ⟨rfl, Array.size_setIfInBounds⟩
    | _ => exact ⟨rfl, rfl⟩
  intro store
  refine .ofGet ?_
  split
  · split
    · exact ⟨rfl, rfl⟩
    · exact write_frame store _
  · split
    · exact write_frame store _
    · exact ⟨rfl, rfl⟩
  · split
    · exact write_frame store _
    · exact ⟨rfl, rfl⟩
  · split
    · exact write_frame store _
    · split
      · exact write_frame store _
      · exact ⟨rfl, rfl⟩
  · split
    · exact write_frame store _
    · exact write_frame store _
    · exact ⟨rfl, rfl⟩
  · split
    · exact write_frame store _
    · split
      · exact write_frame store _
      · exact ⟨rfl, rfl⟩
  · exact ⟨rfl, rfl⟩

/-- Steps of all kinds keep units that are loaded from texts. -/
theorem lasting_fromTexts :
    Lasting (fun before after => before.units.FromTexts → after.units.FromTexts) true where
  refl _ := id
  trans first second texts := second (first texts)
  evolves evolves texts := evolves.units ▸ texts
  owners _ _ := id
  targets _ _ := id
  loads name text settings store := by
    by_cases texts : store.units.FromTexts
    · exact (load_ends name text settings texts).mono (fun _ _ loaded _ => loaded) fun _ _ loaded _ => loaded
    · unfold Ends
      split <;> exact fun known => absurd known texts
  assigns _ target name value store := by
    refine (setMember_frame target name value store).mono (fun _ _ same texts => ?_)
      fun _ _ same texts => ?_
    · exact same.1 ▸ texts
    · exact same.1 ▸ texts

theorem Session.Reached.fromTexts {session : Session} (reached : session.Reached) :
    session.store.units.FromTexts :=
  lasting_fromTexts.leads (reached.mono fun _ _ _ => rfl) .nil

end CowView.Live
