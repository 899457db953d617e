import CowView.Template.Lookup

/-!
Looking a relative name up without another loader. The first directory with the name decides, whatever the later ones
hold; where no directory has it, a packaged template is given if its file is the name with the extension of the
loader (`Loader.lookup_relative`). So a loader with another extension of its own cannot fall back.
-/

namespace CowView.Template

variable {name file extension : String} {content : Except TemplateFault String}

/-! ### The directories -/

inductive Directory.Holds (directory : Directory) (name extension : String) :
    String → Except TemplateFault String → Prop where
  | itself {content : Except TemplateFault String} (held : directory name = some content) :
    Holds directory name extension name content
  | extended {content : Except TemplateFault String} (missing : directory name = none)
    (held : directory (name ++ extension) = some content) : Holds directory name extension (name ++ extension) content

def Directory.Lacks (directory : Directory) (name extension : String) : Prop :=
  directory name = none ∧ directory (name ++ extension) = none

structure Loader.Finds (loader : Loader) (name : String) (index : Nat) (file : String)
    (content : Except TemplateFault String) : Prop where
  holds : ∃ directory, loader.directories[index]? = some directory ∧ directory.Holds name loader.extension file content
  first : ∀ earlier < index, ∀ directory, loader.directories[earlier]? = some directory →
    directory.Lacks name loader.extension

def Directory.single (file text : String) : Directory := fun other => if other = file then some (.ok text) else none

variable {directory : Directory} {directories : List Directory}

theorem search_cons_of_holds (holds : directory.Holds name extension file content) (start : Nat) :
    search name extension start (directory :: directories) =
      some (content.map fun text => .file start file (fileText text)) := by
  cases holds with
  | itself held => simp only [search, held, Option.map_some, Option.some_or]
  | extended missing held => simp only [search, missing, held, Option.map_none, Option.map_some, Option.none_or,
      Option.some_or]

theorem search_cons_of_lacks (lacks : directory.Lacks name extension) (start : Nat) :
    search name extension start (directory :: directories) = search name extension (start + 1) directories := by
  simp only [search, lacks.1, lacks.2, Option.map_none, Option.none_or]

theorem search_of_lacks (all : ∀ directory ∈ directories, directory.Lacks name extension) (start : Nat) :
    search name extension start directories = none := by
  induction directories generalizing start with
  | nil => rfl
  | cons directory directories ih =>
    obtain ⟨first, others⟩ := List.forall_mem_cons.mp all
    rw [search_cons_of_lacks first, ih others]

theorem search_of_holds {index : Nat} (found : directories[index]? = some directory)
    (holds : directory.Holds name extension file content)
    (first : ∀ earlier < index, ∀ directory, directories[earlier]? = some directory → directory.Lacks name extension)
    (start : Nat) : search name extension start directories =
      some (content.map fun text => .file (start + index) file (fileText text)) := by
  induction directories generalizing index start with
  | nil => cases found
  | cons front directories ih =>
    cases index with
    | zero =>
      cases found
      exact search_cons_of_holds holds start
    | succ index =>
      have later : ∀ earlier < index, ∀ directory, directories[earlier]? = some directory →
          directory.Lacks name extension := fun earlier less => first (earlier + 1) (by omega)
      rw [search_cons_of_lacks (first 0 (by omega) front rfl), ih found later, Nat.add_right_comm, Nat.add_assoc]

/-! ### The packaged templates -/

namespace Packaged

variable {template : Packaged} {path : List Char}

theorem file_of_ofFile? (found : ofFile? file = some template) : template.file = file := by
  simpa using List.find?_some found

theorem skipParts_of_not_mem (free : '/' ∉ path) : skipParts path = path := by
  rw [skipParts.eq_def]
  split
  · exact absurd (by simp) free
  · exact absurd (by simp) free
  · rfl

theorem skipParts_of_head? (dot : path.head? ≠ some '.') (slash : path.head? ≠ some '/') : skipParts path = path := by
  rw [skipParts.eq_def]
  split
  · exact absurd rfl dot
  · exact absurd rfl slash
  · rfl

def stem (template : Packaged) : List Char := template.file.toList.take (template.file.length - 4)

theorem eq_of_stem_prefix {other : Packaged} (starts : template.stem <+: other.file.toList) : template = other := by
  revert starts
  cases template <;> cases other <;> decide

theorem stem_eq (named : template.file = name ++ defaultExtension) : template.stem = name.toList := by
  have length : template.file.length - 4 = name.toList.length := by
    rw [named, String.length_append, String.length_toList]
    exact Nat.add_sub_cancel _ 4
  rw [stem, length, named, String.toList_append, List.take_left]

/-- The names of packaged templates start with letters. -/
theorem exists_start (named : template.file = name ++ defaultExtension) :
    ∃ first rest, name.toList = first :: rest ∧ first ≠ '.' ∧ first ≠ '/' := by
  rw [← stem_eq named]
  cases template <;> exact ⟨_, _, rfl, by decide, by decide⟩

/-- With another extension the name of a packaged template leads nowhere. -/
theorem ofPath?_eq_none (named : template.file = name ++ defaultExtension) (other : extension ≠ defaultExtension) :
    ofPath? (name ++ extension) = none := by
  obtain ⟨first, rest, shown, dot, slash⟩ := exists_start named
  have kept : skipParts (name ++ extension).toList = (name ++ extension).toList :=
    skipParts_of_head? (by simp [shown, dot]) (by simp [shown, slash])
  rw [ofPath?, kept, String.ofList_toList, Option.eq_none_iff_forall_ne_some]
  intro second found
  have file := file_of_ofFile? found
  have same : template = second :=
    eq_of_stem_prefix ⟨extension.toList, by rw [stem_eq named, file, String.toList_append]⟩
  subst same
  exact other (String.append_right_inj name |>.mp (file.symm.trans named))

end Packaged

/-! ### A loader without another one -/

namespace Loader

variable {loader : Loader}

theorem lookup_of_finds {index : Nat} (relative : isAbsolute name = false) (finds : loader.Finds name index file content) :
    loader.lookup name = content.map fun text => .file index file (fileText text) := by
  obtain ⟨⟨directory, found, holds⟩, first⟩ := finds
  rw [lookup, lookupOr, relative, search_of_holds found holds first, Nat.zero_add]
  rfl

theorem lookup_of_lacks (relative : isAbsolute name = false)
    (all : ∀ directory ∈ loader.directories, directory.Lacks name loader.extension) :
    loader.lookup name = packaged? name loader.extension := by
  rw [lookup, lookupOr, relative, search_of_lacks all]
  rfl

def LeavesPackaged (loader : Loader) : Prop :=
  ∀ (template : Packaged) (name : String), template.file = name ++ defaultExtension →
    ∀ directory ∈ loader.directories, directory.Lacks name loader.extension

/-- Packaged templates that are left alone are found by their names, unless the loader has another extension. -/
theorem LeavesPackaged.lookup (leaves : loader.LeavesPackaged) {template : Packaged}
    (named : template.file = name ++ defaultExtension) : loader.lookup name =
      if loader.extension = defaultExtension then .ok (.packaged template)
      else .error (absence (name ++ loader.extension) (.notFound name)) := by
  have relative : isAbsolute name = false := by
    obtain ⟨first, rest, shown, -, slash⟩ := Packaged.exists_start named
    simp [isAbsolute, shown, slash]
  rw [lookup_of_lacks relative (leaves template name named), packaged?]
  by_cases usual : loader.extension = defaultExtension
  · rw [if_pos usual, usual, ← named, Packaged.ofPath?_file]
  · rw [if_neg usual, Packaged.ofPath?_eq_none named usual]

/-- **Template lookup.** A relative name stands for the file of the first directory that has one for it, under just this
name or else with the extension. If no directory has one, it stands for the packaged template whose file is the name
with the extension; without such a template it stands for nothing, and so does the name of a packaged template when the
extension of the loader is another one than that of the packaged templates. Nothing is found either under a path with
the character of code 0, but that fails in its own way. -/
theorem lookup_relative (loader : Loader) (name : String) (relative : isAbsolute name = false) :
    (∀ index file content, loader.Finds name index file content →
      loader.lookup name = content.map fun text => .file index file (fileText text)) ∧
    ((∀ directory ∈ loader.directories, directory.Lacks name loader.extension) →
      (∀ template : Packaged, template.file = name ++ loader.extension →
        loader.lookup name = .ok (.packaged template)) ∧
      ('/' ∉ (name ++ loader.extension).toList → (∀ template : Packaged, template.file ≠ name ++ loader.extension) →
        loader.lookup name = .error (absence (name ++ loader.extension) (.notFound name))) ∧
      (∀ template : Packaged, template.file = name ++ defaultExtension → loader.extension ≠ defaultExtension →
        loader.lookup name = .error (absence (name ++ loader.extension) (.notFound name)))) := by
  refine ⟨fun index file content finds => lookup_of_finds relative finds, fun all => ?_⟩
  rw [lookup_of_lacks relative all]
  refine ⟨fun template named => ?_, fun flat absent => ?_, fun template named other => ?_⟩
  · rw [packaged?, ← named, Packaged.ofPath?_file]
  · have none : Packaged.ofPath? (name ++ loader.extension) = none := by
      rw [Packaged.ofPath?, Packaged.skipParts_of_not_mem flat, String.ofList_toList,
        Option.eq_none_iff_forall_ne_some]
      exact fun template found => absent template (Packaged.file_of_ofFile? found)
    rw [packaged?, none]
  · rw [packaged?, Packaged.ofPath?_eq_none named other]

/-- The file with the extension in an earlier directory wins over the exact one in a later directory, and a template that
no directory overrides is the packaged one. -/
theorem lookup_relative_override :
    let loader : Loader := ⟨[.single "union.tpl" "a", .single "record.tpl" "b", .single "record" "c"], ".tpl"⟩
    isAbsolute "record" = false ∧ loader.lookup "record" = .ok (.file 1 "record.tpl" "b") ∧
      isAbsolute "module" = false ∧ loader.lookup "module" = .ok (.packaged .module) := by
  intro loader
  have finds : loader.Finds "record" 1 "record.tpl" (.ok "b") := by
    refine ⟨⟨.single "record.tpl" "b", rfl, .extended rfl rfl⟩, fun earlier less directory found => ?_⟩
    obtain rfl : earlier = 0 := by omega
    cases found
    exact ⟨rfl, rfl⟩
  have lacks : ∀ directory ∈ loader.directories, directory.Lacks "module" loader.extension := by
    rintro directory (_ | ⟨_, _ | ⟨_, _ | ⟨_, _ | _⟩⟩⟩) <;> exact ⟨rfl, rfl⟩
  refine ⟨rfl, ?_, rfl, ((lookup_relative loader "module" rfl).2 lacks).1 .module rfl⟩
  rw [(lookup_relative loader "record" rfl).1 1 "record.tpl" (.ok "b") finds]
  rfl

/-- An extension for the files of the user hides every packaged template. -/
theorem lookup_hides_packaged : ¬ ∀ (loader : Loader) (name : String), isAbsolute name = false →
    (∀ index file content, loader.Finds name index file content →
      loader.lookup name = content.map fun text => .file index file (fileText text)) ∧
    ((∀ directory ∈ loader.directories, directory.Lacks name loader.extension) →
      ∀ template : Packaged, template.file = name ++ defaultExtension →
        loader.lookup name = .ok (.packaged template)) := by
  intro claim
  have found := (claim ⟨[], ".j2"⟩ "module" rfl).2 (fun _ member => nomatch member) .module rfl
  have missing : Loader.lookup ⟨[], ".j2"⟩ "module" = .error (.notFound "module") := rfl
  rw [missing] at found
  cases found

end Loader

end CowView.Template
