import ProtoSchema.Catalog.Load
import ProtoSchema.Wire.Record
import ProtoSchema.Proofs.Collection.NameTable

/-!
# What a catalog holds after a load

Loading goes through the tables of a file, and through the files of a set.  In
the end it comes to one list of items for each of the three tables of a catalog:
`Catalog.addFiles_fst` puts in all messages, all enums and all file names, in
order.  What is found afterwards then follows from what is found in a table that
was filled from a list.
-/

namespace ProtoSchema

/-- A message with the name that it is put in under. -/
def MessageTable.entry (table : MessageTable) : String × MessageTable := (table.fullName, table)

/-- An enum with the name that it is put in under. -/
def EnumTable.entry (table : EnumTable) : String × EnumTable := (table.fullName, table)

/-- The name of a file as it is put in. -/
def FileTable.entry (tables : FileTable) : String × Unit := (tables.file, ())

theorem MessageTable.map_fst_entry (tables : List MessageTable) :
    (tables.map entry).map Prod.fst = tables.map fullName := by
  rw [List.map_map]
  rfl

theorem EnumTable.map_fst_entry (tables : List EnumTable) :
    (tables.map entry).map Prod.fst = tables.map fullName := by
  rw [List.map_map]
  rfl

theorem MessageTable.mem_map_entry {tables : List MessageTable} {name : String}
    {table : MessageTable} :
    (name, table) ∈ tables.map entry ↔ table ∈ tables ∧ table.fullName = name := by
  rw [List.mem_map]
  constructor
  · rintro ⟨found, hfound, h⟩
    cases h
    exact ⟨hfound, rfl⟩
  · rintro ⟨hmem, rfl⟩
    exact ⟨table, hmem, rfl⟩

theorem EnumTable.mem_map_entry {tables : List EnumTable} {name : String} {table : EnumTable} :
    (name, table) ∈ tables.map entry ↔ table ∈ tables ∧ table.fullName = name := by
  rw [List.mem_map]
  constructor
  · rintro ⟨found, hfound, h⟩
    cases h
    exact ⟨hfound, rfl⟩
  · rintro ⟨hmem, rfl⟩
    exact ⟨table, hmem, rfl⟩

/-! ## Reports -/

namespace LoadReport

/-- What two loads made available, list by list. -/
instance : Append LoadReport where
  append first second :=
    { files := first.files ++ second.files
      messages := first.messages ++ second.messages
      enums := first.enums ++ second.enums }

theorem ofTables_append (first second : List FileTable) :
    ofTables (first ++ second) = ofTables first ++ ofTables second := by
  unfold ofTables
  rw [List.map_append, List.flatMap_append, List.flatMap_append]
  rfl

end LoadReport

namespace Catalog

/-! ## Putting in tables -/

theorem foldl_addMessage_fst (file : String) (tables : List MessageTable)
    (state : Catalog × List Replacement) :
    (tables.foldl (addMessage file) state).1 =
      { state.1 with messages := state.1.messages.insertAll (tables.map MessageTable.entry) } := by
  induction tables generalizing state with
  | nil => rfl
  | cons table tables ih => rw [List.foldl_cons, ih]; rfl

theorem foldl_addEnum_fst (file : String) (tables : List EnumTable)
    (state : Catalog × List Replacement) :
    (tables.foldl (addEnum file) state).1 =
      { state.1 with enums := state.1.enums.insertAll (tables.map EnumTable.entry) } := by
  induction tables generalizing state with
  | nil => rfl
  | cons table tables ih => rw [List.foldl_cons, ih]; rfl

theorem addFile_fst (state : Catalog × List Replacement) (tables : FileTable) :
    (addFile state tables).1 =
      { messages := state.1.messages.insertAll (tables.messages.map MessageTable.entry)
        enums := state.1.enums.insertAll (tables.enums.map EnumTable.entry)
        files := state.1.files.insertAll [tables.entry] } := by
  unfold addFile
  simp only [foldl_addEnum_fst, foldl_addMessage_fst]
  rfl

theorem foldl_addFile_fst (files : List FileTable) (state : Catalog × List Replacement) :
    (files.foldl addFile state).1 =
      { messages := state.1.messages.insertAll
          ((files.flatMap FileTable.messages).map MessageTable.entry)
        enums := state.1.enums.insertAll ((files.flatMap FileTable.enums).map EnumTable.entry)
        files := state.1.files.insertAll (files.map FileTable.entry) } := by
  induction files generalizing state with
  | nil => rfl
  | cons tables files ih =>
    rw [List.foldl_cons, ih, addFile_fst]
    simp only [List.flatMap_cons, List.map_append, List.map_cons, NameTable.insertAll_append]
    rfl

/-- After a load a catalog holds what it held before, and then all the tables of
the files, put in one after the other. -/
theorem addFiles_fst (catalog : Catalog) (files : List FileTable) :
    (catalog.addFiles files).1 =
      { messages := catalog.messages.insertAll
          ((files.flatMap FileTable.messages).map MessageTable.entry)
        enums := catalog.enums.insertAll ((files.flatMap FileTable.enums).map EnumTable.entry)
        files := catalog.files.insertAll (files.map FileTable.entry) } :=
  foldl_addFile_fst files (catalog, [])

/-! ## Reported replacements -/

/-- A step that adds to the replacements reported so far, and does not look at
them. -/
def Reports {α : Type} (step : Catalog × List Replacement → α → Catalog × List Replacement) :
    Prop :=
  ∀ catalog replaced item, step (catalog, replaced) item =
    ((step (catalog, []) item).1, replaced ++ (step (catalog, []) item).2)

theorem Reports.foldl {α : Type}
    {step : Catalog × List Replacement → α → Catalog × List Replacement} (h : Reports step)
    (catalog : Catalog) (replaced : List Replacement) (items : List α) :
    items.foldl step (catalog, replaced) =
      ((items.foldl step (catalog, [])).1, replaced ++ (items.foldl step (catalog, [])).2) := by
  induction items generalizing catalog replaced with
  | nil => rw [List.foldl_nil, List.foldl_nil, List.append_nil]
  | cons item items ih =>
    have hitem : step (catalog, []) item =
        ((step (catalog, []) item).1, (step (catalog, []) item).2) := rfl
    rw [List.foldl_cons, List.foldl_cons, h catalog replaced item, ih, hitem,
      ih _ (step (catalog, []) item).2, List.append_assoc]

theorem reports_addMessage (file : String) : Reports (addMessage file) := by
  intro catalog replaced table
  simp only [addMessage]
  split
  · rfl
  · rw [List.append_nil]

theorem reports_addEnum (file : String) : Reports (addEnum file) := by
  intro catalog replaced table
  simp only [addEnum]
  split
  · rfl
  · rw [List.append_nil]

theorem reports_addFile : Reports addFile := by
  intro catalog replaced tables
  have hmessages := (reports_addMessage tables.file).foldl catalog replaced tables.messages
  cases hmiddle : tables.messages.foldl (addMessage tables.file) (catalog, []) with
  | mk middle before =>
    have henums := (reports_addEnum tables.file).foldl middle
    rw [hmiddle] at hmessages
    simp only [addFile, hmessages, hmiddle]
    rw [henums (replaced ++ before), henums before, List.append_assoc]

/-- Putting in the tables of more files goes on where it was left. -/
theorem addFiles_append (catalog : Catalog) (first second : List FileTable) :
    catalog.addFiles (first ++ second) =
      (((catalog.addFiles first).1.addFiles second).1,
        (catalog.addFiles first).2 ++ ((catalog.addFiles first).1.addFiles second).2) := by
  unfold addFiles
  rw [List.foldl_append]
  exact reports_addFile.foldl _ _ second

/-! ## Loads in a row -/

/-- A load succeeds when the tables of the set are built, and puts these in. -/
theorem load_eq_ok {catalog : Catalog} {set : FileSet} {loaded : Loaded} :
    catalog.load set = .ok loaded ↔
      ∃ files, (Scope.of set catalog).tables = .ok files ∧ catalog.activate files = loaded :=
  map_eq_ok

/-- Tables that are put in at once may be put in in two parts. -/
theorem activate_append (catalog : Catalog) (first second : List FileTable) :
    catalog.activate (first ++ second) =
      { catalog := ((catalog.activate first).catalog.activate second).catalog
        report := (catalog.activate first).report ++
          ((catalog.activate first).catalog.activate second).report
        replaced := (catalog.activate first).replaced ++
          ((catalog.activate first).catalog.activate second).replaced } := by
  unfold activate
  rw [addFiles_append, LoadReport.ofTables_append]

/-- The catalog after an attempt to load a set.  One that fails changes nothing. -/
def afterLoad (catalog : Catalog) (set : FileSet) : Catalog :=
  match catalog.load set with
  | .ok loaded => loaded.catalog
  | .error _ => catalog

/-- The catalog after several attempts to load a set. -/
def afterLoads (catalog : Catalog) (sets : List FileSet) : Catalog :=
  sets.foldl afterLoad catalog

/-- What holds of a catalog, and is kept by every load that succeeds, holds after
any number of loads. -/
theorem afterLoads_induction {P : Catalog → Prop}
    (hstep : ∀ (catalog : Catalog) (set : FileSet) (files : List FileTable), P catalog →
      (Scope.of set catalog).tables = .ok files → P (catalog.addFiles files).1)
    {catalog : Catalog} (h : P catalog) (sets : List FileSet) : P (catalog.afterLoads sets) := by
  induction sets generalizing catalog with
  | nil => exact h
  | cons set sets ih =>
    refine ih ?_
    unfold afterLoad
    cases hload : catalog.load set with
    | error e => exact h
    | ok loaded =>
      obtain ⟨files, htables, rfl⟩ := load_eq_ok.mp hload
      exact hstep catalog set files h htables

end Catalog

end ProtoSchema
