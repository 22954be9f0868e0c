import Mathlib.Data.List.Nodup
import ProtoSchema.Proofs.Collection.Checked
import ProtoSchema.Proofs.Collection.NameTable
import ProtoSchema.Source.Modules

/-!
# What is in the files of modules

A module gathers the source of its files in order (`SourceModules.gathers_ofFiles`), and
each module is written to a file, in the order of their names, before the file that
declares all modules is written (`SourceDirectory.ofModules_eq_ok`).

The file of a module is named after the module without the marks of a raw name.  So a
module that is written later may take over the file of an earlier one, and the file that
declares all modules takes over the file of a module `mod` or `r#mod`.  Any other module
is kept (`SourceModules.IsKept`): its file has the source of all its files in the end.
All modules are kept exactly when no file is written twice
(`SourceDirectory.holds_of_writeModules`).
-/

namespace ProtoSchema

open Checked

/-! ## Modules -/

/-- Each of several texts that are joined stands in the result. -/
theorem exists_intercalate_eq {separator text : String} {texts : List String} (h : text ∈ texts) :
    ∃ before after, separator.intercalate texts = before ++ text ++ after := by
  induction texts with
  | nil => cases h
  | cons first rest ih =>
    cases rest with
    | nil =>
      rw [List.mem_singleton.mp h, String.intercalate_singleton]
      exact ⟨"", "", by rw [String.empty_append, String.append_empty]⟩
    | cons next rest =>
      rw [String.intercalate_cons_cons]
      rcases List.mem_cons.mp h with rfl | h
      · exact ⟨"", separator ++ separator.intercalate (next :: rest),
          by rw [String.empty_append, String.append_assoc]⟩
      · obtain ⟨before, after, hrest⟩ := ih h
        exact ⟨first ++ separator ++ before, after, by rw [hrest]; simp only [String.append_assoc]⟩

namespace SourceModules

/-- The files of a module, in order. -/
def filesOf (files : List GeneratedFile) (module : String) : List GeneratedFile :=
  files.filter fun file => file.module == module

/-- The source that belongs into a module. -/
def textOf (files : List GeneratedFile) (module : String) : String :=
  "\n".intercalate ((filesOf files module).map entry)

/-- Whether modules are those of some files, with the source of these files. -/
structure Gathers (modules : SourceModules) (files : List GeneratedFile) : Prop where
  none : ∀ module, module ∉ files.map GeneratedFile.module → modules.find? module = none
  some : ∀ module ∈ files.map GeneratedFile.module,
    modules.find? module = some (textOf files module)

variable {modules : SourceModules} {files : List GeneratedFile} {file : GeneratedFile}
  {module : String}

theorem mem_filesOf : file ∈ filesOf files module ↔ file ∈ files ∧ file.module = module := by
  rw [filesOf, List.mem_filter, beq_iff_eq]

theorem filesOf_append_of_ne (h : module ≠ file.module) (files : List GeneratedFile) :
    filesOf (files ++ [file]) module = filesOf files module := by
  have hfile : (file.module == module) = false := beq_false_of_ne h.symm
  simp only [filesOf, List.filter_append, List.filter_cons, hfile, List.filter_nil,
    Bool.false_eq_true, if_false, List.append_nil]

theorem filesOf_append_self (file : GeneratedFile) (files : List GeneratedFile) :
    filesOf (files ++ [file]) file.module = filesOf files file.module ++ [file] := by
  simp only [filesOf, List.filter_append, List.filter_cons, beq_self_eq_true, List.filter_nil,
    if_true]

/-- The source of the first file of a module. -/
theorem textOf_append_of_not_mem (h : file.module ∉ files.map GeneratedFile.module) :
    textOf (files ++ [file]) file.module = entry file := by
  have hnone : filesOf files file.module = [] := by
    refine List.eq_nil_iff_forall_not_mem.mpr fun other hother => h ?_
    obtain ⟨hother, hmodule⟩ := mem_filesOf.mp hother
    exact List.mem_map.mpr ⟨other, hother, hmodule⟩
  rw [textOf, filesOf_append_self, hnone, List.nil_append, List.map_singleton,
    String.intercalate_singleton]

/-- The source of a further file of a module. -/
theorem textOf_append_of_mem (h : file.module ∈ files.map GeneratedFile.module) :
    textOf (files ++ [file]) file.module = textOf files file.module ++ "\n" ++ entry file := by
  obtain ⟨other, hother, hmodule⟩ := List.mem_map.mp h
  have hsome : (filesOf files file.module).map entry ≠ [] :=
    List.ne_nil_of_mem (List.mem_map_of_mem (mem_filesOf.mpr ⟨hother, hmodule⟩))
  rw [textOf, filesOf_append_self, List.map_append, List.map_singleton,
    String.intercalate_append_of_ne_nil hsome (List.cons_ne_nil _ _), String.intercalate_singleton]
  rfl

/-- The source of a file stands in the text of its module, under a comment with the name
of the file. -/
theorem exists_textOf_eq (h : file ∈ files) :
    ∃ before after, textOf files file.module = before ++ entry file ++ after :=
  exists_intercalate_eq (List.mem_map_of_mem (mem_filesOf.mpr ⟨h, rfl⟩))

theorem entry_ne_empty (file : GeneratedFile) : entry file ≠ "" := by
  intro h
  have hmark : ("// " : String) = "" := by
    simp only [entry, String.append_eq_empty_iff] at h
    exact h.1.1.1
  exact absurd hmark (by decide)

/-- No module is without text. -/
theorem textOf_ne_empty (h : module ∈ files.map GeneratedFile.module) :
    textOf files module ≠ "" := by
  obtain ⟨file, hfile, rfl⟩ := List.mem_map.mp h
  obtain ⟨before, after, htext⟩ := exists_textOf_eq hfile
  rw [htext]
  intro hempty
  obtain ⟨hbefore, -⟩ := String.append_eq_empty_iff.mp hempty
  exact entry_ne_empty file (String.append_eq_empty_iff.mp hbefore).2

theorem add_of_none (h : modules.find? file.module = none) :
    modules.add file = modules.insert file.module (entry file) := by
  rw [add, h]
  exact congrArg _ (String.empty_append ..)

theorem add_of_some {text : String} (h : modules.find? file.module = some text)
    (hne : text ≠ "") :
    modules.add file = modules.insert file.module (text ++ "\n" ++ entry file) := by
  rw [add, h]
  split
  · next hnone => cases hnone
  · next hempty => exact absurd (Option.some.inj hempty) hne
  · next hsome =>
    cases hsome
    rfl

/-- The source of a further file is put after that of the earlier files of its module. -/
theorem Gathers.add (h : modules.Gathers files) (file : GeneratedFile) :
    (modules.add file).Gathers (files ++ [file]) := by
  have hadd : modules.add file =
      modules.insert file.module (textOf (files ++ [file]) file.module) := by
    by_cases hmem : file.module ∈ files.map GeneratedFile.module
    · rw [add_of_some (h.some _ hmem) (textOf_ne_empty hmem), textOf_append_of_mem hmem]
    · rw [add_of_none (h.none _ hmem), textOf_append_of_not_mem hmem]
  rw [hadd]
  constructor
  · intro module hmem
    rw [List.map_append, List.mem_append, not_or] at hmem
    rw [NameTable.find?_insert, if_neg fun heq => hmem.2 (List.mem_singleton.mpr heq)]
    exact h.none module hmem.1
  · intro module hmem
    rw [NameTable.find?_insert]
    by_cases heq : module = file.module
    · rw [if_pos heq, heq]
    · rw [List.map_append, List.mem_append] at hmem
      have hbefore := hmem.resolve_right fun hself => heq (List.mem_singleton.mp hself)
      rw [if_neg heq, h.some module hbefore, textOf, textOf, filesOf_append_of_ne heq]

theorem Gathers.foldl (h : modules.Gathers files) (rest : List GeneratedFile) :
    (rest.foldl SourceModules.add modules).Gathers (files ++ rest) := by
  induction rest generalizing modules files with
  | nil => rwa [List.append_nil]
  | cons file rest ih =>
    have hrest := ih (h.add file)
    rwa [List.append_assoc] at hrest

theorem gathers_ofFiles (files : List GeneratedFile) : (ofFiles files).Gathers files := by
  have hempty : Gathers .empty [] := ⟨fun _ _ => rfl, fun _ hmem => (List.not_mem_nil hmem).elim⟩
  exact hempty.foldl files

/-- The names of the modules are those that the files have. -/
theorem mem_names_ofFiles :
    module ∈ (ofFiles files).names ↔ ∃ file ∈ files, file.module = module := by
  rw [← List.mem_map]
  constructor
  · intro hmem
    by_contra hnot
    obtain ⟨⟨name, text⟩, hentry, rfl⟩ := List.mem_map.mp hmem
    have hnone := (gathers_ofFiles files).none _ hnot
    rw [(ofFiles files).find?_of_mem_entries hentry] at hnone
    cases hnone
  · intro hmem
    exact List.mem_map.mpr
      ⟨_, Ascending.mem_of_find?_eq_some ((gathers_ofFiles files).some module hmem), rfl⟩

/-- What is put into the modules of some files is the source of these files. -/
theorem text_eq_of_mem_entries {text : String} (h : (module, text) ∈ (ofFiles files).entries) :
    text = textOf files module := by
  have hmem := List.mem_map.mpr (mem_names_ofFiles.mp (List.mem_map_of_mem h))
  exact Option.some.inj (((ofFiles files).find?_of_mem_entries h).symm.trans
    ((gathers_ofFiles files).some module hmem))

/-- Whether the file of a module is the last that is written under its name. -/
def IsKept (modules : List String) (module : String) : Prop :=
  moduleFile module ≠ rootFile ∧
    ∀ other ∈ modules, module < other → moduleFile other ≠ moduleFile module

end SourceModules

/-! ## Directories -/

namespace SourceDirectory

variable {directory after : SourceDirectory}

theorem write_eq_ok {name text : String} (h : directory.write name text = .ok after) :
    after = { written := directory.written ++ [name]
              texts := directory.texts.insert name text } := by
  unfold write at h
  split at h
  · cases h
  · cases h
    rfl

/-- The modules are written one after the other. -/
theorem foldlM_write_eq_ok {entries : List (String × String)}
    (h : entries.foldlM (fun (directory : SourceDirectory) (module, text) =>
      directory.write (moduleFile module) text) directory = .ok after) :
    after = { written := directory.written ++ entries.map fun entry => moduleFile entry.1
              texts := directory.texts.insertAll
                (entries.map fun entry => (moduleFile entry.1, entry.2)) } := by
  induction entries generalizing directory with
  | nil =>
    cases h
    rw [List.map_nil, List.append_nil]
    rfl
  | cons entry entries ih =>
    rw [List.foldlM_cons] at h
    obtain ⟨next, hnext, hrest⟩ := bind_eq_ok.mp h
    rw [ih hrest, write_eq_ok hnext, List.append_assoc]
    rfl

/-- Every module is written, and then the file that declares them. -/
theorem ofModules_eq_ok {modules : SourceModules} (h : ofModules modules = .ok directory) :
    directory =
      { written := modules.names.map moduleFile ++ [rootFile]
        texts := (NameTable.empty.insertAll
            (modules.entries.map fun entry => (moduleFile entry.1, entry.2))).insert rootFile
          (String.join (modules.names.map fun module => s!"pub mod {module};\n")) } := by
  obtain ⟨before, hbefore, hroot⟩ := bind_eq_ok.mp h
  have hfiles : modules.names.map moduleFile =
      modules.entries.map fun entry => moduleFile entry.1 := List.map_map
  rw [write_eq_ok hroot, foldlM_write_eq_ok hbefore, hfiles]
  rfl

/-- What is written for some files into a directory, and what is there in the end.  The
modules are those of the files, in the order in which they are written. -/
structure Holds (directory : SourceDirectory) (files : List GeneratedFile)
    (modules : List String) : Prop where
  /-- Every module has its own name. -/
  ascending : modules.Pairwise (· < ·)
  mem_modules : ∀ module, module ∈ modules ↔ ∃ file ∈ files, file.module = module
  /-- The file that declares all modules is the last. -/
  written : directory.written = modules.map moduleFile ++ [rootFile]
  /-- It has one line for each module, and nothing else. -/
  root : directory.texts.find? rootFile =
    some (String.join (modules.map fun module => s!"pub mod {module};\n"))
  /-- A module that is kept has the source of all its files, in order. -/
  text : ∀ module ∈ modules, SourceModules.IsKept modules module →
    directory.texts.find? (moduleFile module) = some (SourceModules.textOf files module)
  /-- So the source of a file stands there under a comment with the name of the file. -/
  source : ∀ file ∈ files, SourceModules.IsKept modules file.module →
    ∃ before after, directory.texts.find? (moduleFile file.module) =
      some (before ++ SourceModules.entry file ++ after)

/-- The text of a module that is kept is found under the name of its file. -/
theorem find?_texts_of_isKept {modules : SourceModules} (h : ofModules modules = .ok directory)
    {module text : String} (hentry : (module, text) ∈ modules.entries)
    (hkept : SourceModules.IsKept modules.names module) :
    directory.texts.find? (moduleFile module) = some text := by
  obtain ⟨before, later, hentries⟩ := List.append_of_mem hentry
  have hascending := modules.ascending
  rw [hentries, List.map_append, List.pairwise_append, List.map_cons, List.pairwise_cons]
    at hascending
  have hlater : moduleFile module ∉
      (later.map fun entry => (moduleFile entry.1, entry.2)).map Prod.fst := by
    rw [List.map_map]
    intro hmem
    obtain ⟨other, hother, hfile⟩ := List.mem_map.mp hmem
    have hnames : other.1 ∈ modules.names := by
      rw [NameTable.names, hentries]
      exact List.mem_map_of_mem (List.mem_append_right _ (.tail _ hother))
    exact hkept.2 _ hnames (hascending.2.1.1 _ (List.mem_map_of_mem hother)) hfile
  rw [ofModules_eq_ok h, NameTable.find?_insert, if_neg hkept.1, hentries, List.map_append,
    List.map_cons, NameTable.insertAll_append, NameTable.insertAll_cons,
    NameTable.find?_insertAll_of_not_mem hlater, NameTable.find?_insert, if_pos rfl]

/-- No file is written twice when every module is kept, and then only. -/
theorem nodup_written_iff {modules : List String} (hascending : modules.Pairwise (· < ·)) :
    (modules.map moduleFile ++ [rootFile]).Nodup ↔
      ∀ module ∈ modules, SourceModules.IsKept modules module := by
  rw [List.nodup_append]
  constructor
  · rintro ⟨hnodup, -, hroot⟩ module hmodule
    refine ⟨hroot _ (List.mem_map_of_mem hmodule) _ (.head _), fun other hother hlt hfile => ?_⟩
    have hsame := List.inj_on_of_nodup_map hnodup hother hmodule hfile
    exact String.lt_irrefl _ (hsame ▸ hlt)
  · intro hkept
    refine ⟨List.pairwise_map.mpr (hascending.imp_of_mem ?_), List.nodup_singleton _, ?_⟩
    · exact fun hfirst hsecond hlt heq => (hkept _ hfirst).2 _ hsecond hlt heq.symm
    · intro name hname root hroot
      obtain ⟨module, hmodule, rfl⟩ := List.mem_map.mp hname
      rw [List.mem_singleton.mp hroot]
      exact (hkept module hmodule).1

/-- After generated files are written, the file of every module that is kept has the
source of the files of the module in order, and the last file declares the modules.  All
modules are kept exactly when no file was written twice. -/
theorem holds_of_writeModules {files : List GeneratedFile}
    (h : writeModules files = .ok directory) :
    ∃ modules, directory.Holds files modules ∧
      (directory.written.Nodup ↔ ∀ module ∈ modules, SourceModules.IsKept modules module) := by
  have hdirectory := ofModules_eq_ok h
  have htext : ∀ module ∈ (SourceModules.ofFiles files).names,
      SourceModules.IsKept (SourceModules.ofFiles files).names module →
      directory.texts.find? (moduleFile module) = some (SourceModules.textOf files module) := by
    intro module hmodule hkept
    obtain ⟨⟨name, text⟩, hentry, rfl⟩ := List.mem_map.mp hmodule
    rw [find?_texts_of_isKept h hentry hkept, SourceModules.text_eq_of_mem_entries hentry]
  refine ⟨(SourceModules.ofFiles files).names, ?_, ?_⟩
  · exact
      { ascending := (SourceModules.ofFiles files).ascending
        mem_modules := fun module => SourceModules.mem_names_ofFiles
        written := by rw [hdirectory]
        root := by rw [hdirectory, NameTable.find?_insert, if_pos rfl]
        text := htext
        source := by
          intro file hfile hkept
          obtain ⟨before, after, hsource⟩ := SourceModules.exists_textOf_eq hfile
          refine ⟨before, after, ?_⟩
          rw [htext _ (SourceModules.mem_names_ofFiles.mpr ⟨file, hfile, rfl⟩) hkept, hsource] }
  · rw [hdirectory]
    exact nodup_written_iff (SourceModules.ofFiles files).ascending

/-- Two files of one package, and one of another. -/
theorem holds_of_writeModules_shared :
    let file (name module source : String) : GeneratedFile :=
      { tables := { file := name, package := module, dependencies := [] }, module, source }
    let files := [
      file "a.proto" "shared" "pub struct A {}", file "b.proto" "shared" "pub struct B {}",
      file "c.proto" "other" "pub struct C {}"]
    ∃ directory modules, writeModules files = .ok directory ∧
      directory.written = ["other.rs", "shared.rs", "mod.rs"] ∧
      directory.Holds files modules ∧
      ∀ module ∈ modules, SourceModules.IsKept modules module := by
  intro file files
  have hok : (writeModules files).isOk = true := by decide +kernel
  obtain ⟨directory, h⟩ := exists_eq_ok_of_isOk hok
  obtain ⟨modules, hholds, hnodup⟩ := holds_of_writeModules h
  have hwritten : (writeModules files).toOption.map written =
      some ["other.rs", "shared.rs", "mod.rs"] := by
    decide +kernel
  rw [h] at hwritten
  have hwritten := Option.some.inj hwritten
  refine ⟨directory, modules, h, hwritten, hholds, hnodup.mp ?_⟩
  rw [hwritten]
  decide

/-- The module of a file `mod.proto` and that of a file `type.proto` have raw names.  The
file that declares all modules takes over the file of the first, and the module of a package
`type` that of the second. -/
theorem exists_overwritten_module :
    let set : FileSet := ⟨[
      { name := some "mod.proto", messages := [{ name := some "A" }] },
      { name := some "type.proto", messages := [{ name := some "B" }] },
      { name := some "p.proto", package := some "type", messages := [{ name := some "C" }] }]⟩
    ∃ generated directory, (Scope.of set {}).generate .flat = .ok generated ∧
      writeModules generated = .ok directory ∧ ¬ directory.written.Nodup ∧
      ¬ ∀ file ∈ generated, ∃ before after,
        directory.texts.find? (moduleFile file.module) =
          some (before ++ SourceModules.entry file ++ after) := by
  intro set
  have hmodules : ((Scope.of set {}).generate .flat).toOption.map (List.map GeneratedFile.module) =
      some ["r#mod", "r#type", "type"] := by
    decide +kernel
  have hruns : ((Scope.of set {}).generate .flat >>= writeModules).toOption.map
        (fun directory => (directory.written, directory.texts.find? "mod.rs")) =
      some (["mod.rs", "type.rs", "type.rs", "mod.rs"],
        some "pub mod r#mod;\npub mod r#type;\npub mod type;\n") := by
    decide +kernel
  obtain ⟨directory, hdirectory⟩ := exists_eq_ok_of_isOk
    (by decide +kernel : ((Scope.of set {}).generate .flat >>= writeModules).isOk = true)
  obtain ⟨generated, hgenerated, hwrites⟩ := bind_eq_ok.mp hdirectory
  rw [hdirectory] at hruns
  rw [hgenerated] at hmodules
  obtain ⟨hwritten, hroot⟩ := Prod.mk.inj (Option.some.inj hruns)
  obtain ⟨file, rest, rfl, hfile, -⟩ := List.map_eq_cons_iff.mp (Option.some.inj hmodules)
  refine ⟨_, directory, hgenerated, hwrites, ?_, fun hall => ?_⟩
  · rw [hwritten]
    decide
  · obtain ⟨before, after, hsource⟩ := hall file (.head _)
    have hname : moduleFile file.module = "mod.rs" := by
      rw [hfile]
      decide +kernel
    rw [hname, hroot] at hsource
    -- The comment above the source has slashes, and there is none in what is found.
    have hslash : '/' ∈ (before ++ SourceModules.entry file ++ after).toList := by
      simp only [SourceModules.entry, String.toList_append, List.mem_append]
      exact Or.inl (Or.inr (Or.inl (Or.inl (Or.inl (by decide)))))
    rw [← Option.some.inj hsource] at hslash
    exact absurd hslash (by decide +kernel)

end SourceDirectory

end ProtoSchema
