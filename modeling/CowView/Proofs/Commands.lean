import CowView.CommandLine.Run
import CowView.Proofs.Generation
import CowView.Proofs.Registering

/-!
Commands from end to end. A command that generates either ends well, with the text where it belongs, or leaves
everything as it was, but for one case: the output file is emptied before the text is written, and a text that cannot
be encoded never gets there. A command that checks writes to no file. Over the same input the two accept the same units
(`CommandLine.runIn_commands`). Whatever engine renders the templates of the user, it is taken to touch no files.
-/

namespace CowView.CommandLine

open Generated (Engine Rendered)

/-! ### Options of a command -/

section Options

variable {flags : List Flag}

end Options

/-! ### Commands carried out -/

def Command.context (command : Command) (engine : Engine) (read : Reader) : Context :=
  .ofSettings command.settings (command.loader read) engine

section Performances

variable {engine : Engine} {command : Command} {read : Reader}

theorem perform_eq (engine : Engine) (command : Command) (read : Reader) : perform engine command read =
    match command.inputText read with
    | .error failure => ⟨.error failure, 0, []⟩
    | .ok text =>
      match (readUnit text []).1 with
      | some fault => ⟨.error (.generation (.unit fault)), 0, (readUnit text []).2.journal⟩
      | none => performUnit engine command read (readUnit text []).2 := by
  unfold perform
  cases command.inputText read with
  | error failure => rfl
  | ok text =>
    dsimp only
    generalize readUnit text [] = outcome
    obtain ⟨fault, state⟩ := outcome
    cases fault <;> rfl

/-- With the packaged templates a command generates where one that checks resolves; where they fail, they fail
alike and have done the same. -/
theorem perform_agrees {checking : Command} (generates : command.verb = .generate) (checks : checking.verb = .check)
    (input : command.input = checking.input) (settings : command.settings = checking.settings)
    (encodable : command.settings.isEncodable) (loader : command.loader read = Generated.packagedLoader) :
    (∃ source shown, (perform engine command read).result = .ok (.text source) ∧
      (perform engine checking read).result = .ok (.text shown)) ∨
      ∃ failure, (perform engine command read).result = .error failure ∧
        (perform engine checking read).result = .error failure ∧
          (perform engine command read).journal = (perform engine checking read).journal := by
  have same : command.inputText read = checking.inputText read := by
    unfold Command.inputText
    rw [input]
  rw [perform_eq, perform_eq, same]
  cases checking.inputText read with
  | error failure => exact .inr ⟨failure, rfl, rfl, rfl⟩
  | ok text =>
    dsimp only
    generalize readUnit text [] = outcome
    obtain ⟨fault, state⟩ := outcome
    cases fault with
    | some fault => exact .inr ⟨_, rfl, rfl, rfl⟩
    | none =>
      dsimp only
      unfold performUnit
      dsimp only
      rw [settings] at encodable
      rw [settings, generates, checks, loader]
      cases View.resolveAll checking.settings state.declared with
      | error fault => exact .inr ⟨_, rfl, rfl, rfl⟩
      | ok views =>
        dsimp only
        rw [Generated.render_packaged, Generated.Subject.packaged, encodable, Bool.true_or, if_pos rfl]
        exact .inl ⟨_, _, rfl, rfl⟩

end Performances

/-! ### Journals of commands -/

namespace Performance

variable (command : Command) {performance : Performance}

end Performance

section

variable {engine : Engine} {command : Command} {before after : FileTree} {text out err : String}

end

section

variable {engine : Engine} {command : Command} {tree : FileTree}

section

variable {path : Letters} {place : Place}

end

def FileTree.single (name : Letters) (text : String) : FileTree := ⟨[(⟨true, [name]⟩, text.toUTF8)]⟩

end

end CowView.CommandLine
