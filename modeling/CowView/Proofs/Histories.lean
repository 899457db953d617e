import CowView.Proofs.Generation
import CowView.Proofs.Registering
import Mathlib.Data.List.DropRight

/-!
Histories of a context. Texts are parsed or generated from, declarations are looked up, and now and then all of them
are forgotten. Each step answers as `ContextStep.Answers` says and adds what is new in its text, so the registry is
what the steps since the last reset have added, and no text that declares anything is accepted twice
(`Context.history_registers`). All of it is about contexts that leave the packaged templates alone: a template of the
user is handed the context, and may do with it what it likes.
-/

namespace CowView

inductive ContextStep where
  | parse (text : String)
  | generate (text : String)
  | find (name : String)
  | get (name : String)
  | list
  | reset
  deriving DecidableEq, Repr

inductive ContextAnswer where
  | parsed (result : Except Fault (List Declaration))
  | generated (result : Except GenerationFault Generated.Rendered)
  | found (result : Option Declaration)
  | got (result : Except Fault Declaration)
  | listed (all : List Declaration)
  | done

def ContextAnswer.Refuses (fault : Fault) : ContextAnswer → Prop
  | parsed result => result = .error fault
  | generated result => result = .error (.unit fault)
  | found _ | got _ | listed _ | done => False

namespace ContextStep

def text? : ContextStep → Option String
  | parse text | generate text => some text
  | find _ | get _ | list | reset => none

def isReset : ContextStep → Bool
  | reset => true
  | parse _ | generate _ | find _ | get _ | list => false

def perform (context : Context) : ContextStep → ContextAnswer × Context
  | parse text => (.parsed (context.parse text).1, (context.parse text).2)
  | generate text => (.generated (context.generate text).1, (context.generate text).2)
  | find name => (.found (context.find? name), context)
  | get name => (.got (context.get name), context)
  | list => (.listed context.registry, context)
  | reset => (.done, context.reset)

end ContextStep

structure Turn where
  step : ContextStep
  before : Context
  answer : ContextAnswer
  after : Context

def Turn.of (context : Context) (step : ContextStep) : Turn :=
  ⟨step, context, (step.perform context).1, (step.perform context).2⟩

namespace Context

def after (context : Context) (steps : List ContextStep) : Context :=
  steps.foldl (fun reached step => (Turn.of reached step).after) context

def history (context : Context) : List ContextStep → List Turn
  | [] => []
  | step :: later => .of context step :: history (Turn.of context step).after later

def adding (context : Context) (declarations : List Declaration) : Context :=
  { context with registry := context.registry ++ declarations }

end Context

def Turn.registered (turn : Turn) : List Declaration := turn.after.registry.drop turn.before.registry.length

/-! ### One step -/

/-- Reading a text where some names are taken gives a result and registers declarations. All of them are registered
if the text is accepted; if it is not, those that were complete before its fault or before a name that is taken. -/
inductive Parses (names : List String) (text : String) : Except Fault (List Declaration) → List Declaration → Prop
  | accepted (new : fresh names (completeIn text) = completeIn text) (sound : faultIn? text = none) :
      Parses names text (.ok (completeIn text)) (completeIn text)
  | faulty {fault : Fault} (new : fresh names (completeIn text) = completeIn text)
      (cause : faultIn? text = some fault) : Parses names text (.error fault) (completeIn text)
  | taken {fault : Fault} {complete later : List Declaration} {declaration : Declaration}
      (order : completeIn text = complete ++ declaration :: later)
      (taken : declaration.name ∈ names ++ complete.map (·.name)) (place : fault.isSource = true) :
      Parses names text (.error fault) complete

inductive ContextStep.Answers (context : Context) : ContextStep → ContextAnswer → List Declaration → Prop
  | parse {text : String} {result : Except Fault (List Declaration)} {registered : List Declaration}
      (parses : Parses context.names text result registered) : Answers context (.parse text) (.parsed result) registered
  | generate {text : String} {declared registered : List Declaration}
      (parses : Parses context.names text (.ok declared) registered) :
      Answers context (.generate text) (.generated (context.reset.generate text).1) registered
  | refuse {text : String} {fault : Fault} {registered : List Declaration}
      (parses : Parses context.names text (.error fault) registered) :
      Answers context (.generate text) (.generated (.error (.unit fault))) registered
  | find (name : String) : Answers context (.find name) (.found (context.find? name)) []
  | get (name : String) : Answers context (.get name) (.got (context.get name)) []
  | list : Answers context .list (.listed context.registry) []
  | reset : Answers context .reset .done []

/-- The step answers as said, and adds to the registry what it registers. Nothing that is registered is replaced. -/
structure Turn.Sound (turn : Turn) : Prop where
  answer : turn.step.Answers turn.before turn.answer turn.registered
  after : turn.after = if turn.step.isReset then turn.before.reset else turn.before.adding turn.registered
  kept : turn.step.isReset = false → ∀ name declaration,
    turn.before.find? name = some declaration → turn.after.find? name = some declaration

theorem fresh_eq_self_iff {names : List String} {declarations : List Declaration} :
    fresh names declarations = declarations ↔
      (declarations.map (·.name)).Nodup ∧ ∀ declaration ∈ declarations, declaration.name ∉ names := by
  constructor
  · intro all
    have distinct := fresh_distinct names declarations
    rwa [all] at distinct
  · rintro ⟨distinct, apart⟩
    rcases fresh_stops names declarations with all | ⟨declaration, rest, order, taken⟩
    · exact all
    · rw [order, List.map_append, List.map_cons, List.nodup_append] at distinct
      rcases List.mem_append.mp taken with known | earlier
      · exact absurd known (apart declaration (by rw [order]; simp))
      · exact absurd rfl (distinct.2.2 _ earlier _ List.mem_cons_self)

namespace Context

variable {context : Context} {text : String}

theorem parse_of_new (new : fresh context.names (completeIn text) = completeIn text) :
    (context.parse text).1 = match faultIn? text with
      | none => .ok (completeIn text)
      | some fault => .error fault := by
  obtain ⟨given, -, own, -⟩ := readUnit_registers text context.registry
  have found := (own new).1
  cases cause : faultIn? text <;> simp only [parse_fst, found, cause, given.trans new]

theorem parse_of_taken (taken : fresh context.names (completeIn text) ≠ completeIn text) :
    ∃ fault, (context.parse text).1 = .error fault ∧ fault.isSource = true := by
  obtain ⟨-, -, -, other⟩ := readUnit_registers text context.registry
  obtain ⟨fault, refused, place⟩ := other taken
  exact ⟨fault, by rw [parse_fst, refused], place⟩

theorem parse_parses (context : Context) (text : String) :
    Parses context.names text (context.parse text).1 (fresh context.names (completeIn text)) := by
  by_cases all : fresh context.names (completeIn text) = completeIn text
  · rw [parse_of_new all, all]
    cases own : faultIn? text with
    | none => exact .accepted all own
    | some fault => exact .faulty all own
  · obtain ⟨fault, refused, place⟩ := parse_of_taken all
    rw [refused]
    rcases fresh_stops context.names (completeIn text) with new | ⟨declaration, later, order, taken⟩
    · exact absurd new all
    · exact .taken order taken place

/-- What the packaged templates generate depends on what was read alone. -/
theorem render_congr {context other : Context} {state state' : UnitState} (settings : context.settings = other.settings)
    (loader : context.loader = other.loader) (leaves : context.loader.LeavesPackaged)
    (declared : state.declared = state'.declared) (scope : state.scope = state'.scope) :
    context.render "module" state = other.render "module" state' := by
  unfold render
  rw [← loader, settings, declared, scope]
  cases View.resolveAll other.settings state'.declared with
  | error fault => rfl
  | ok views =>
    dsimp only
    rw [Generated.render_of_leavesPackaged leaves, Generated.render_of_leavesPackaged leaves]
    rfl

/-- What is generated from an accepted text does not depend on what is registered. -/
theorem generate_of_ok {declared : List Declaration} (leaves : context.loader.LeavesPackaged)
    (accepted : (context.parse text).1 = .ok declared) :
    (context.generate text).1 = (context.reset.generate text).1 := by
  obtain ⟨-, new, sound⟩ := parse_eq_ok accepted
  have alone : fresh context.reset.names (completeIn text) = completeIn text :=
    fresh_eq_self_iff.mpr ⟨(fresh_eq_self_iff.mp new).1, fun _ _ => List.not_mem_nil⟩
  have reading (registry : List Declaration) (new : fresh (registry.map (·.name)) (completeIn text) = completeIn text) :
      (readUnit text registry).1 = none ∧ (readUnit text registry).2.declared = completeIn text ∧
        (readUnit text registry).2.scope = (Contents.ofText text).1 := by
    obtain ⟨given, -, own, -⟩ := readUnit_registers text registry
    have none := (own new).1.trans sound
    exact ⟨none, given.trans new, (own new).2 none⟩
  obtain ⟨read, declared, scope⟩ := reading context.registry new
  obtain ⟨read', declared', scope'⟩ := reading context.reset.registry alone
  rw [generate_fst, generate_fst, read, read']
  exact render_congr rfl rfl leaves (declared.trans declared'.symm) (scope.trans scope'.symm)

/-- A text that is not accepted generates nothing. -/
theorem generate_of_error {fault : Fault} (refused : (context.parse text).1 = .error fault) :
    (context.generate text).1 = .error (.unit fault) := by
  rw [parse_fst] at refused
  rw [generate_fst]
  cases read : (readUnit text context.registry).1 with
  | none =>
    rw [read] at refused
    cases refused
  | some cause =>
    rw [read] at refused
    cases refused
    rfl

theorem generate_answers (leaves : context.loader.LeavesPackaged) (text : String) :
    (ContextStep.generate text).Answers context (.generated (context.generate text).1)
      (fresh context.names (completeIn text)) := by
  have parses := parse_parses context text
  cases read : (context.parse text).1 with
  | ok declared =>
    rw [read] at parses
    rw [generate_of_ok leaves read]
    exact .generate parses
  | error fault =>
    rw [read] at parses
    rw [generate_of_error read]
    exact .refuse parses

end Context

namespace Turn

variable {context : Context} {step : ContextStep}

/-- A step that reads a text registers what is new in it, and other steps register nothing. -/
theorem registered_of (context : Context) (step : ContextStep) : (of context step).registered =
    match step.text? with
    | some text => fresh context.names (completeIn text)
    | none => [] := by
  have reading (text : String) :
      (context.parse text).2.registry.drop context.registry.length = fresh context.names (completeIn text) := by
    rw [Context.parse_registry, List.drop_left]
  unfold registered of
  cases step with
  | parse text => exact reading text
  | generate text => exact reading text
  | find | get | list => exact List.drop_length
  | reset => exact List.drop_nil

theorem after_of (context : Context) (step : ContextStep) : (of context step).after =
    if step.isReset then context.reset else context.adding (of context step).registered := by
  have reading (text : String) : (context.parse text).2 = context.adding (fresh context.names (completeIn text)) :=
    Context.parse_registry context text
  have nothing : context = context.adding [] := by rw [Context.adding, List.append_nil]
  rw [registered_of]
  cases step with
  | parse text => exact reading text
  | generate text => exact reading text
  | find | get | list => exact nothing
  | reset => rfl

theorem sound_of (leaves : context.loader.LeavesPackaged) (step : ContextStep) : (of context step).Sound := by
  refine ⟨?_, after_of context step, fun keeps name declaration found => ?_⟩
  · rw [registered_of]
    cases step with
    | parse text => exact .parse (Context.parse_parses context text)
    | generate text => exact Context.generate_answers leaves text
    | find name => exact .find name
    | get name => exact .get name
    | list => exact .list
    | reset => exact .reset
  · have keeps : step.isReset = false := keeps
    rw [after_of, if_neg (by rw [keeps]; simp)]
    exact (List.find?_append ..).trans (by rw [show context.registry.find? _ = some declaration from found]; rfl)

theorem loader_of (context : Context) (step : ContextStep) : (of context step).after.loader = context.loader := by
  rw [after_of]
  cases step.isReset <;> rfl

theorem names_of (keeps : step.isReset = false) :
    (of context step).after.names = context.names ++ (of context step).registered.map (·.name) := by
  rw [after_of, keeps, if_neg (by simp), Context.names, Context.adding, List.map_append]
  rfl

theorem names_subset (keeps : step.isReset = false) : context.names ⊆ (of context step).after.names := by
  rw [names_of keeps]
  exact List.subset_append_left _ _

theorem names_nodup (distinct : context.names.Nodup) : (of context step).after.names.Nodup := by
  cases keeps : step.isReset with
  | true =>
    rw [after_of, keeps, if_pos rfl]
    exact .nil
  | false =>
    rw [names_of keeps, registered_of]
    cases step.text? with
    | none => simpa using distinct
    | some text =>
      obtain ⟨own, apart⟩ := fresh_distinct context.names (completeIn text)
      refine List.nodup_append.mpr ⟨distinct, own, fun name known other member same => ?_⟩
      obtain ⟨declaration, new, rfl⟩ := List.mem_map.mp member
      exact apart declaration new (same ▸ known)

end Turn

/-! ### Many steps -/

namespace Context

variable {context : Context} {steps : List ContextStep}

theorem after_cons (context : Context) (first : ContextStep) (later : List ContextStep) :
    context.after (first :: later) = (Turn.of context first).after.after later := rfl

theorem after_append (context : Context) (earlier later : List ContextStep) :
    context.after (earlier ++ later) = (context.after earlier).after later := List.foldl_append

theorem after_concat (context : Context) (steps : List ContextStep) (step : ContextStep) :
    context.after (steps ++ [step]) = (Turn.of (context.after steps) step).after := by
  rw [after_append, after_cons]
  rfl

theorem history_concat (context : Context) (steps : List ContextStep) (step : ContextStep) :
    context.history (steps ++ [step]) = context.history steps ++ [.of (context.after steps) step] := by
  induction steps generalizing context with
  | nil => rfl
  | cons first later ih =>
    rw [List.cons_append, history, history, ih, List.cons_append, after_cons]

theorem history_sound (leaves : context.loader.LeavesPackaged) (steps : List ContextStep) :
    ∀ turn ∈ context.history steps, turn.Sound := by
  induction steps generalizing context with
  | nil => exact List.forall_mem_nil _
  | cons first later ih =>
    rw [history]
    exact List.forall_mem_cons.mpr ⟨Turn.sound_of leaves first, ih ((Turn.loader_of context first).symm ▸ leaves)⟩

theorem names_after_nodup (distinct : context.names.Nodup) (steps : List ContextStep) :
    (context.after steps).names.Nodup := by
  induction steps generalizing context with
  | nil => exact distinct
  | cons first later ih =>
    rw [after_cons]
    exact ih (Turn.names_nodup distinct)

/-- Until they are forgotten all names are kept. -/
theorem names_subset_after (keeps : ∀ step ∈ steps, step.isReset = false) :
    context.names ⊆ (context.after steps).names := by
  induction steps generalizing context with
  | nil => exact fun _ known => known
  | cons first later ih =>
    obtain ⟨now, then_⟩ := List.forall_mem_cons.mp keeps
    rw [after_cons]
    exact fun name known => ih then_ (Turn.names_subset now known)

theorem registry_after (empty : context.registry = []) (steps : List ContextStep) : (context.after steps).registry =
    ((context.history steps).rtakeWhile fun turn => !turn.step.isReset).flatMap Turn.registered := by
  -- From behind: it is the last step that decides whether anything in front of it still counts.
  induction steps using List.reverseRecOn with
  | nil => exact empty
  | append_singleton steps step ih =>
    rw [after_concat, history_concat, List.rtakeWhile_concat, Turn.after_of]
    have own : (Turn.of (context.after steps) step).step.isReset = step.isReset := rfl
    rw [own]
    cases step.isReset with
    | true => rfl
    | false =>
      rw [if_neg (by simp), if_pos (by simp), List.flatMap_append, ← ih, List.flatMap_singleton]
      rfl

/-- Since all was forgotten, a step has read the text and found declarations in it. -/
def HasRead (start : Context) (steps : List ContextStep) (text : String) : Prop :=
  ∃ (earlier : List ContextStep) (first : ContextStep) (later : List ContextStep) (declared : List Declaration),
    steps = earlier ++ first :: later ∧ first.text? = some text ∧
      ((start.after earlier).parse text).1 = .ok declared ∧ declared ≠ [] ∧
        ∀ step ∈ later, step.isReset = false

theorem HasRead.refused {start : Context} {again : ContextStep} {text : String} (read : start.HasRead steps text)
    (same : again.text? = some text) : ∃ fault, fault.isSource = true ∧
      (Turn.of (start.after steps) again).answer.Refuses fault ∧
        (Turn.of (start.after steps) again).after = start.after steps := by
  obtain ⟨earlier, first, later, declared, rfl, own, accepted, some, keeps⟩ := read
  obtain ⟨rfl, new, -⟩ := parse_eq_ok accepted
  obtain ⟨declaration, rest, complete⟩ := List.exists_cons_of_ne_nil some
  have stays : first.isReset = false := by cases first <;> first | rfl | cases own
  have known : declaration.name ∈ (start.after (earlier ++ first :: later)).names := by
    rw [after_append, after_cons]
    refine names_subset_after keeps ?_
    rw [Turn.names_of stays, Turn.registered_of, own]
    dsimp only
    rw [new, complete]
    simp
  generalize start.after (earlier ++ first :: later) = context at known ⊢
  -- Its first declaration is known, so nothing of the text is new, and it is not empty.
  have none : fresh context.names (completeIn text) = [] := by rw [complete, fresh_cons_of_mem known]
  have unchanged : (Turn.of context again).after = context := by
    have stays : again.isReset = false := by
      cases again <;> first | rfl | cases same
    rw [Turn.after_of, stays, if_neg (by simp), Turn.registered_of, same]
    dsimp only
    rw [none, adding, List.append_nil]
  obtain ⟨fault, refused, place⟩ := parse_of_taken (by rw [none]; exact some.symm)
  refine ⟨fault, place, ?_, unchanged⟩
  cases again with
  | parse other =>
    cases same
    exact refused
  | generate other =>
    cases same
    exact generate_of_error refused
  | find | get | list | reset => cases same

/-- **The history of a registry.** In whatever order a context parses texts, generates from them with the packaged
templates, looks up declarations and forgets them all, the registered names differ from each other, and the registry is
what the steps since the last reset have registered. Each step answers and registers as it should, and a text in which
declarations were found is refused from then on, with nothing changed, until all is forgotten. -/
theorem history_registers {start : Context} (empty : start.registry = []) (leaves : start.loader.LeavesPackaged)
    (steps : List ContextStep) :
    (start.after steps).names.Nodup ∧
    (start.after steps).registry =
      ((start.history steps).rtakeWhile fun turn => !turn.step.isReset).flatMap Turn.registered ∧
    (∀ turn ∈ start.history steps, turn.Sound) ∧
    ∀ text, start.HasRead steps text → ∀ again : ContextStep, again.text? = some text →
      ∃ fault, fault.isSource = true ∧
        (Turn.of (start.after steps) again).answer.Refuses fault ∧
          (Turn.of (start.after steps) again).after = start.after steps := by
  have distinct : start.names.Nodup := by
    rw [names, empty]
    exact .nil
  exact ⟨names_after_nodup distinct steps, registry_after empty steps, history_sound leaves steps,
    fun _ read _ same => read.refused same⟩

theorem history_registers_notes :
    let start := ofSettings .default ⟨[.single "notes" "Notes"], ".tpl"⟩
    let steps : List ContextStep := [.parse "record A record B record A", .reset, .generate "record C", .find "A"]
    start.registry = [] ∧ start.loader.LeavesPackaged ∧ (start.after steps).names = ["C"] ∧
      ∃ fault, fault.isSource = true ∧
        (Turn.of (start.after steps) (.parse "record C")).answer.Refuses fault ∧
          (Turn.of (start.after steps) (.parse "record C")).after = start.after steps := by
  intro start steps
  have leaves : start.loader.LeavesPackaged := by
    intro template name named directory member
    rw [List.mem_singleton.mp member]
    refine ⟨if_neg ?_, if_neg ?_⟩
    · rintro rfl
      revert named
      cases template <;> decide
    · show name ++ Template.defaultExtension ≠ "notes"
      rw [← named]
      cases template <;> decide
  have read : start.HasRead steps "record C" := by
    have found : ((start.after (steps.take 2)).parse "record C").1.toOption.map (·.map (·.name)) = some ["C"] := by
      decide +kernel
    cases parsed : ((start.after (steps.take 2)).parse "record C").1 with
    | error fault =>
      rw [parsed] at found
      cases found
    | ok declared =>
      refine ⟨steps.take 2, .generate "record C", [.find "A"], declared, rfl, rfl, parsed, ?_,
        by simp [ContextStep.isReset]⟩
      rintro rfl
      rw [parsed] at found
      cases found
  exact ⟨rfl, leaves, by decide +kernel, (history_registers rfl leaves steps).2.2.2 _ read (.parse "record C") rfl⟩

/-- A text that fails at its last declaration leaves the others behind. -/
example : ((ofSettings .default).after [.parse "record A record B record A", .find "C", .parse "record C"]).names =
    ["A", "B", "C"] := by decide +kernel

end Context

end CowView
