import ProtoSchema.Proofs.Catalog.Contents
import ProtoSchema.Proofs.Table.Declared
import ProtoSchema.Proofs.Text.FullName

/-!
# A load as a transaction

A load builds the tables of every file before it puts any of them in.  So it either
fails, with the fault of the first file that has one, and the catalog stays as it
was, or it puts in the tables of all files.

In the second case the report tells what changed.  `Footprint` says so name by name.
Under a reported name stands the last table of this name that was built, in the order
of the set, and under every other name what stood there before.  Reported names are
bare, and a look-up drops the dots in front of a name, so what is said of the bare
name holds for every number of dots.

`load_transaction` puts both cases together.
-/

namespace ProtoSchema

open Checked

/-! ## The last item of a name -/

/-- The last of several items with a property. -/
def IsLast {α : Type} (p : α → Prop) (items : List α) (item : α) : Prop :=
  ∃ before after, items = before ++ item :: after ∧ p item ∧ ∀ later ∈ after, ¬ p later

/-- Of the items that are put in under a name the last one is found. -/
theorem NameTable.exists_isLast_of_insertAll {α β : Type} (table : NameTable α)
    {entry : β → String × α} {items : List β} {k : String}
    (h : k ∈ (items.map entry).map Prod.fst) :
    ∃ item, IsLast (fun item => (entry item).1 = k) items item ∧
      (table.insertAll (items.map entry)).find? k = some (entry item).2 := by
  induction items generalizing table with
  | nil => cases h
  | cons item items ih =>
    rw [List.map_cons, insertAll_cons]
    -- The first item counts only when no later one has its name.
    by_cases hlater : k ∈ (items.map entry).map Prod.fst
    · obtain ⟨last, ⟨before, after, rfl, hlast⟩, hfound⟩ := ih (table.insert _ _) hlater
      exact ⟨last, ⟨item :: before, after, rfl, hlast⟩, hfound⟩
    · have hname : (entry item).1 = k := by
        rcases List.mem_cons.mp h with hfirst | hmem
        · exact hfirst.symm
        · exact absurd hmem hlater
      refine ⟨item, ⟨[], items, rfl, hname, fun later hmem heq => hlater ?_⟩, ?_⟩
      · exact List.mem_map.mpr ⟨entry later, List.mem_map_of_mem hmem, heq⟩
      · rw [find?_insertAll_of_not_mem hlater, find?_insert, if_pos hname.symm]

/-! ## Reports -/

namespace LoadReport

theorem files_ofTables (files : List FileTable) :
    (ofTables files).files = (files.map FileTable.entry).map Prod.fst := by
  rw [List.map_map]
  rfl

theorem messages_ofTables (files : List FileTable) :
    (ofTables files).messages =
      ((files.flatMap FileTable.messages).map MessageTable.entry).map Prod.fst := by
  rw [MessageTable.map_fst_entry, List.map_flatMap]
  rfl

theorem enums_ofTables (files : List FileTable) :
    (ofTables files).enums =
      ((files.flatMap FileTable.enums).map EnumTable.entry).map Prod.fst := by
  rw [EnumTable.map_fst_entry, List.map_flatMap]
  rfl

end LoadReport

namespace Catalog

/-! ## What a load leaves behind -/

/-- What the tables of some files and a report of them have to do with the catalogs
before and after a load. -/
structure Footprint (before : Catalog) (built : List FileTable) (report : LoadReport)
    (after : Catalog) : Prop where
  /-- The report lists what was built, in order. -/
  report_eq : report = .ofTables built
  /-- Reported names are bare. -/
  bare : ∀ name ∈ report.messages ++ report.enums, FullName.bare name = name
  /-- The loaded files are those from before and the reported ones. -/
  files : ∀ file, after.containsFile file = true ↔
    before.containsFile file = true ∨ file ∈ report.files
  /-- Under a reported name stands the last message of this name. -/
  messages : ∀ name, FullName.bare name ∈ report.messages →
    ∃ table, IsLast (fun table => table.fullName = FullName.bare name)
      (built.flatMap FileTable.messages) table ∧ after.message? name = some table
  /-- Under any other name stands the message that stood there before. -/
  otherMessages : ∀ name, FullName.bare name ∉ report.messages →
    after.message? name = before.message? name
  /-- Under a reported name stands the last enum of this name. -/
  enums : ∀ name, FullName.bare name ∈ report.enums →
    ∃ table, IsLast (fun table => table.fullName = FullName.bare name)
      (built.flatMap FileTable.enums) table ∧ after.enum? name = some table
  /-- Under any other name stands the enum that stood there before. -/
  otherEnums : ∀ name, FullName.bare name ∉ report.enums → after.enum? name = before.enum? name
  /-- What the report has is in the catalog. -/
  contains : ∀ name, report.contains name = true → after.containsType name = true

/-- The names of built tables are bare. -/
theorem bare_of_mem_report {catalog : Catalog} {set : FileSet} {files : List FileTable}
    (htables : (Scope.of set catalog).tables = .ok files) {name : String}
    (hname : name ∈ (LoadReport.ofTables files).messages ++ (LoadReport.ofTables files).enums) :
    FullName.bare name = name := by
  have htablesOf := Scope.tablesOf htables
  rw [LoadReport.messages_ofTables, LoadReport.enums_ofTables, MessageTable.map_fst_entry,
    EnumTable.map_fst_entry] at hname
  rcases List.mem_append.mp hname with hmessage | henum
  · obtain ⟨d, -, -, rfl⟩ := htablesOf.exists_of_mem_messages hmessage
    exact FullName.bare_bare d.name
  · obtain ⟨table, htable, rfl⟩ := List.mem_map.mp henum
    obtain ⟨d, -, -, hfound⟩ := htablesOf.exists_of_mem_enums htable
    obtain ⟨d', hd', -, hdeclared⟩ := FileSet.exists_of_enumTables hfound
    rw [(FileSet.isSound_of_mem_declarations hd').fullName_eq hdeclared]
    exact FullName.bare_bare d'.name

/-- Tables that are put in leave their footprint. -/
theorem footprint_addFiles {catalog : Catalog} {set : FileSet} {files : List FileTable}
    (htables : (Scope.of set catalog).tables = .ok files) :
    catalog.Footprint files (.ofTables files) (catalog.addFiles files).1 where
  report_eq := rfl
  bare := fun _ hname => bare_of_mem_report htables hname
  files := by
    intro file
    rw [containsFile, NameTable.contains, addFiles_fst, NameTable.isSome_find?_insertAll,
      LoadReport.files_ofTables]
    exact or_comm
  messages := by
    intro name hname
    rw [LoadReport.messages_ofTables] at hname
    rw [message?, addFiles_fst]
    exact catalog.messages.exists_isLast_of_insertAll hname
  otherMessages := by
    intro name hname
    rw [LoadReport.messages_ofTables] at hname
    rw [message?, addFiles_fst]
    exact NameTable.find?_insertAll_of_not_mem hname
  enums := by
    intro name hname
    rw [LoadReport.enums_ofTables] at hname
    rw [enum?, addFiles_fst]
    exact catalog.enums.exists_isLast_of_insertAll hname
  otherEnums := by
    intro name hname
    rw [LoadReport.enums_ofTables] at hname
    rw [enum?, addFiles_fst]
    exact NameTable.find?_insertAll_of_not_mem hname
  contains := by
    intro name hname
    have hmem : FullName.bare name ∈
        (LoadReport.ofTables files).messages ++ (LoadReport.ofTables files).enums :=
      List.contains_iff_mem.mp hname
    rw [LoadReport.messages_ofTables, LoadReport.enums_ofTables] at hmem
    rw [containsType, message?, enum?, addFiles_fst, Bool.or_eq_true]
    rcases List.mem_append.mp hmem with hmessage | henum
    · exact Or.inl (NameTable.isSome_find?_insertAll_of_mem hmessage)
    · exact Or.inr (NameTable.isSome_find?_insertAll_of_mem henum)

/-! ## Loads -/

/-- A load fails with the fault of the first file that has one and leaves the catalog as
it was, or it leaves the footprint of the tables of all files. -/
theorem load_transaction (catalog : Catalog) (set : FileSet) :
    (∃ failure, catalog.load set = .error failure ∧ catalog.afterLoad set = catalog ∧
      ∃ before file after, set.files = before ++ file :: after ∧
        (∀ earlier ∈ before, ∃ tables, earlier.tables (Scope.of set catalog) = .ok tables) ∧
        file.tables (Scope.of set catalog) = .error failure) ∨
    (∃ loaded files, catalog.load set = .ok loaded ∧ catalog.afterLoad set = loaded.catalog ∧
      (Scope.of set catalog).tables = .ok files ∧
      catalog.Footprint files loaded.report loaded.catalog) := by
  unfold afterLoad
  cases hload : catalog.load set with
  | error failure =>
    left
    refine ⟨failure, rfl, rfl, ?_⟩
    cases htables : (Scope.of set catalog).tables with
    | error e =>
      have he : failure = e := by
        rw [load, htables] at hload
        cases hload
        rfl
      subst he
      exact exists_of_mapM_eq_error htables
    | ok files =>
      rw [load, htables] at hload
      cases hload
  | ok loaded =>
    right
    obtain ⟨files, htables, rfl⟩ := load_eq_ok.mp hload
    exact ⟨_, files, rfl, rfl, htables, footprint_addFiles htables⟩

end Catalog

end ProtoSchema
