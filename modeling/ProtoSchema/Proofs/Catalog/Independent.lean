import ProtoSchema.Proofs.Catalog.Incremental
import ProtoSchema.Proofs.Catalog.Kinds

/-!
# Independent loads

Two sets whose types have different full names, all of them new to a catalog, may be
loaded in either order.

A load of such a set leaves alone whatever the catalog had (`unchanged_addFiles`).  So
a name that means something to the other set goes on to mean the same
(`extends_addFiles`), and the tables that were built for the other set are built again
(`tables_addFiles`).  What the two loads put in stands under different names, up to the
names of files, so both orders lead to the same catalog (`addFiles_comm`).

A name that means nothing before the first load may well mean something after it.  That
is why both sets have to load on their own (`load_comm`).
-/

namespace ProtoSchema

open Checked

/-- Whether no two types of two sets are stored under one name. -/
def FileSet.Apart (first second : FileSet) : Prop :=
  ∀ d ∈ first.declarations, ∀ d' ∈ second.declarations, d.storedName ≠ d'.storedName

namespace Catalog

section

variable {catalog : Catalog} {first second : FileSet} {files more : List FileTable}

/-- A load reports the stored names of the types that its set declares. -/
theorem exists_declaration_of_mem_report (htables : (Scope.of first catalog).tables = .ok files)
    {name : String}
    (hname : name ∈ (LoadReport.ofTables files).messages ++ (LoadReport.ofTables files).enums) :
    ∃ d ∈ first.declarations, d.storedName = name := by
  have htablesOf := Scope.tablesOf htables
  rw [LoadReport.messages_ofTables, LoadReport.enums_ofTables, MessageTable.map_fst_entry,
    EnumTable.map_fst_entry] at hname
  rcases List.mem_append.mp hname with hmessage | henum
  · obtain ⟨d, hd, -, hbare⟩ := htablesOf.exists_of_mem_messages hmessage
    exact ⟨d, hd, hbare⟩
  · obtain ⟨table, htable, rfl⟩ := List.mem_map.mp henum
    obtain ⟨_, -, -, hfound⟩ := htablesOf.exists_of_mem_enums htable
    obtain ⟨d, hd, -, hdeclared⟩ := FileSet.exists_of_enumTables hfound
    exact ⟨d, hd, ((FileSet.isSound_of_mem_declarations hd).fullName_eq hdeclared).symm⟩

/-- A load of new types leaves alone what stands under the names that the catalog had. -/
theorem unchanged_addFiles (hnew : first.NewIn catalog)
    (htables : (Scope.of first catalog).tables = .ok files) {name : String}
    (hname : catalog.containsType name = true) :
    (catalog.addFiles files).1.message? name = catalog.message? name ∧
      (catalog.addFiles files).1.enum? name = catalog.enum? name := by
  have hfootprint := footprint_addFiles htables
  have hnot : FullName.bare name ∉
      (LoadReport.ofTables files).messages ++ (LoadReport.ofTables files).enums := by
    intro hmem
    obtain ⟨d, hd, hstored⟩ := exists_declaration_of_mem_report htables hmem
    have hsame : catalog.containsType d.name = catalog.containsType name := by
      simp only [containsType, message?, enum?]
      rw [← hstored, Declaration.storedName]
    rw [← hsame, hnew d hd] at hname
    cases hname
  rw [List.mem_append, not_or] at hnot
  exact ⟨hfootprint.otherMessages name hnot.1, hfootprint.otherEnums name hnot.2⟩

/-- A load of new types leaves alone what names mean to another set. -/
theorem extends_addFiles (hnew : first.NewIn catalog)
    (htables : (Scope.of first catalog).tables = .ok files) (second : FileSet) :
    (Scope.of second catalog).Extends (Scope.of second (catalog.addFiles files).1) where
  kind := by
    intro name kind h
    obtain ⟨home, hhome, rfl⟩ := Option.map_eq_some_iff.mp h
    refine Option.map_eq_some_iff.mpr ⟨home, ?_, rfl⟩
    rcases Option.or_eq_some_iff.mp hhome with hset | ⟨hset, hloaded⟩
    · exact Option.or_eq_some_iff.mpr (Or.inl hset)
    · refine Option.or_eq_some_iff.mpr (Or.inr ⟨hset, ?_⟩)
      obtain ⟨hmessage, henum⟩ :=
        unchanged_addFiles hnew htables (Scope.containsType_of_loadedHome? hloaded)
      unfold Scope.loadedHome? at hloaded ⊢
      simp only [Scope.of] at hloaded ⊢
      rwa [hmessage, henum]
  enum := by
    intro name table h
    rcases Option.or_eq_some_iff.mp h with hset | ⟨hset, hloaded⟩
    · exact Option.or_eq_some_iff.mpr (Or.inl hset)
    · refine Option.or_eq_some_iff.mpr (Or.inr ⟨hset, ?_⟩)
      exact (unchanged_addFiles hnew htables (containsType_of_enum? hloaded)).2.trans hloaded
  file := by
    intro name h
    rw [Scope.hasFile, Bool.or_eq_true] at h ⊢
    exact h.imp_right fun hloaded =>
      ((footprint_addFiles htables).files name).mpr (Or.inl hloaded)

/-- The tables of another set are the same after a load of new types. -/
theorem tables_addFiles (hnew : first.NewIn catalog)
    (htables : (Scope.of first catalog).tables = .ok files)
    (hmore : (Scope.of second catalog).tables = .ok more) :
    (Scope.of second (catalog.addFiles files).1).tables = .ok more :=
  mapM_eq_ok.mpr <| (mapM_eq_ok.mp hmore).imp fun _ _ hfile =>
    FileDescriptor.tables_mono (extends_addFiles hnew htables second) (fun _ _ => rfl) hfile

/-- The tables of two sets are put in in either order. -/
theorem addFiles_comm (hapart : first.Apart second)
    (htables : (Scope.of first catalog).tables = .ok files)
    (hmore : (Scope.of second catalog).tables = .ok more) :
    ((catalog.addFiles files).1.addFiles more).1 =
      ((catalog.addFiles more).1.addFiles files).1 := by
  have hnames : ∀ name,
      name ∈ (LoadReport.ofTables files).messages ++ (LoadReport.ofTables files).enums →
      name ∉ (LoadReport.ofTables more).messages ++ (LoadReport.ofTables more).enums := by
    intro name hfirst hsecond
    obtain ⟨d, hd, hname⟩ := exists_declaration_of_mem_report htables hfirst
    obtain ⟨d', hd', hname'⟩ := exists_declaration_of_mem_report hmore hsecond
    exact hapart d hd d' hd' (hname.trans hname'.symm)
  simp only [addFiles_fst, mk.injEq]
  refine ⟨NameTable.insertAll_comm _ ?_, NameTable.insertAll_comm _ ?_,
    NameTable.insertAll_comm _ fun _ _ _ _ _ => rfl⟩
  · intro name a b ha hb
    refine absurd (List.mem_append_left _ ?_) (hnames name (List.mem_append_left _ ?_))
    · rw [LoadReport.messages_ofTables]
      exact List.mem_map_of_mem hb
    · rw [LoadReport.messages_ofTables]
      exact List.mem_map_of_mem ha
  · intro name a b ha hb
    refine absurd (List.mem_append_right _ ?_) (hnames name (List.mem_append_right _ ?_))
    · rw [LoadReport.enums_ofTables]
      exact List.mem_map_of_mem hb
    · rw [LoadReport.enums_ofTables]
      exact List.mem_map_of_mem ha

/-- Two sets of different new types that load on their own load one after the other, in
either order.  Each load reports what it reports alone, and the catalog is the same in
the end. -/
theorem load_comm (hapart : first.Apart second) (hfirst : first.NewIn catalog)
    (hsecond : second.NewIn catalog) {a b : Loaded} (ha : catalog.load first = .ok a)
    (hb : catalog.load second = .ok b) :
    ∃ ab ba, a.catalog.load second = .ok ab ∧ b.catalog.load first = .ok ba ∧
      ab.report = b.report ∧ ba.report = a.report ∧ ab.catalog = ba.catalog := by
  obtain ⟨files, htables, rfl⟩ := load_eq_ok.mp ha
  obtain ⟨more, hmore, rfl⟩ := load_eq_ok.mp hb
  refine ⟨_, _, load_eq_ok.mpr ⟨more, tables_addFiles hfirst htables hmore, rfl⟩,
    load_eq_ok.mpr ⟨files, tables_addFiles hsecond hmore htables, rfl⟩, rfl, rfl, ?_⟩
  exact addFiles_comm hapart htables hmore

/-- Two sets that refer to types of an earlier load and have files of one name. -/
theorem load_comm_same_file :
    let base : FileSet := ⟨[{ name := some "r.proto", messages := [{ name := some "R" }]
                              enums := [{ name := some "E"
                                          values := [{ name := some "X", number := some 0 }] }] }]⟩
    let first : FileSet := ⟨[
      { name := some "s.proto", package := some "p", dependencies := ["r.proto"]
        messages := [{
          name := some "A"
          fields := [{ name := some "r", number := some 1, type := some 11
                       typeName := some ".R" }] }] }]⟩
    let second : FileSet := ⟨[
      { name := some "s.proto", package := some "q", dependencies := ["r.proto"]
        messages := [{
          name := some "A"
          fields := [{ name := some "e", number := some 1, type := some 14
                       typeName := some ".E" }] }] }]⟩
    let catalog := ({} : Catalog).afterLoads [base]
    first.Apart second ∧ first.NewIn catalog ∧ second.NewIn catalog ∧
      ∃ a b ab ba, catalog.load first = .ok a ∧ catalog.load second = .ok b ∧
        a.catalog.load second = .ok ab ∧ b.catalog.load first = .ok ba ∧
        ab.report = b.report ∧ ba.report = a.report ∧ ab.catalog = ba.catalog := by
  intro base first second catalog
  have hapart : ∀ d ∈ first.declarations, ∀ d' ∈ second.declarations,
      d.storedName ≠ d'.storedName := by
    decide +kernel
  have hfirst : ∀ d ∈ first.declarations, catalog.containsType d.name = false := by
    decide +kernel
  have hsecond : ∀ d ∈ second.declarations, catalog.containsType d.name = false := by
    decide +kernel
  obtain ⟨a, ha⟩ := exists_eq_ok_of_isOk (by decide +kernel : (catalog.load first).isOk = true)
  obtain ⟨b, hb⟩ := exists_eq_ok_of_isOk (by decide +kernel : (catalog.load second).isOk = true)
  obtain ⟨ab, ba, h⟩ := load_comm hapart hfirst hsecond ha hb
  exact ⟨hapart, hfirst, hsecond, a, b, ab, ba, ha, hb, h⟩

end

end Catalog

end ProtoSchema
