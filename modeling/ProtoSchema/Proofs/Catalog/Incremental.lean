import ProtoSchema.Proofs.Catalog.Contents
import ProtoSchema.Proofs.Resolve.Named
import ProtoSchema.Proofs.Table.Congruence
import ProtoSchema.Proofs.Table.Origin

/-!
# Loading in parts

A set may be loaded at once or in two parts.  At once, a reference from the second
part to the first is found among the declarations of the set.  In parts it is
found in the catalog, under another name and in another table.

Three scopes are compared.  The scope of the first part is smaller than that of
the whole set, so its tables are built there as well (`extends_append`).  The
scope of the second part, on top of the catalog with the first part in it, knows
what that of the whole set knows (`home?_second`, `enum?_second`,
`hasFile_second`).  So both ways build the same tables or meet the same fault
(`tables_append`), and `load_append` says that the outcomes are the same.
-/

namespace ProtoSchema

open Checked

/-! ## Names that are declared once -/

namespace FileSet

theorem DeclaresOnce.not_declares {first second : FileSet}
    (h : (first ++ second).DeclaresOnce) {name : String} (hfirst : first.Declares name) :
    ¬ second.Declares name := by
  rintro ⟨d', hd', hname'⟩
  obtain ⟨d, hd, hname⟩ := hfirst
  rw [DeclaresOnce, declarations_append, List.map_append] at h
  exact List.disjoint_of_nodup_append h (List.mem_map.mpr ⟨d, hd, hname⟩)
    (List.mem_map.mpr ⟨d', hd', hname'⟩)

theorem DeclaresOnce.left {first second : FileSet} (h : (first ++ second).DeclaresOnce) :
    first.DeclaresOnce := by
  rw [DeclaresOnce, declarations_append, List.map_append] at h
  exact (List.nodup_append.mp h).1

theorem WellNamed.dotted_left {first second : FileSet} (h : (first ++ second).WellNamed) :
    ∀ d ∈ first.declarations, FullName.Dotted d.name :=
  fun _ hd => h.dotted (mem_declarations_append.mpr (Or.inl hd))

/-- Whether a catalog has no type under a name that a set declares. -/
def NewIn (set : FileSet) (catalog : Catalog) : Prop :=
  ∀ d ∈ set.declarations, catalog.containsType d.name = false

theorem NewIn.left {first second : FileSet} {catalog : Catalog}
    (h : (first ++ second).NewIn catalog) : first.NewIn catalog :=
  fun d hd => h d (mem_declarations_append.mpr (Or.inl hd))

theorem NewIn.not_declares {set : FileSet} {catalog : Catalog} (h : set.NewIn catalog)
    {name : String} (hname : catalog.containsType name = true) : ¬ set.Declares name := by
  rintro ⟨d, hd, rfl⟩
  rw [h d hd] at hname
  cases hname

theorem NewIn.message?_eq_none {set : FileSet} {catalog : Catalog} (h : set.NewIn catalog)
    {d : Declaration} (hd : d ∈ set.declarations) : catalog.message? d.name = none := by
  have hnew := h d hd
  rw [Catalog.containsType, Bool.or_eq_false_iff] at hnew
  exact Option.not_isSome_iff_eq_none.mp (Bool.eq_false_iff.mp hnew.1)

end FileSet

/-! ## What was loaded before -/

namespace Catalog

variable {catalog : Catalog} {name : String}

theorem containsType_of_message? {table : MessageTable} (h : catalog.message? name = some table) :
    catalog.containsType name = true := by
  rw [containsType, h]
  rfl

theorem containsType_of_enum? {table : EnumTable} (h : catalog.enum? name = some table) :
    catalog.containsType name = true := by
  rw [containsType, h, Bool.or_eq_true]
  exact Or.inr rfl

end Catalog

namespace Scope

theorem containsType_of_loadedHome? {scope : Scope} {name : String} {home : TypeHome}
    (h : scope.loadedHome? name = some home) : scope.loaded.containsType name = true := by
  unfold loadedHome? at h
  split at h
  · next hmessage => exact Catalog.containsType_of_message? hmessage
  · next henum => exact Catalog.containsType_of_enum? henum
  · cases h

end Scope

namespace Catalog

section Parts

variable {catalog : Catalog} {first second : FileSet} {files : List FileTable}

/-! ## The first part -/

/-- What the first part knows means the same in the whole set. -/
theorem extends_append (honce : (first ++ second).DeclaresOnce)
    (hnew : (first ++ second).NewIn catalog) :
    (Scope.of first catalog).Extends (Scope.of (first ++ second) catalog) where
  kind := by
    intro name kind h
    obtain ⟨home, hhome, rfl⟩ := Option.map_eq_some_iff.mp h
    refine Option.map_eq_some_iff.mpr ⟨home, ?_, rfl⟩
    rw [Scope.home?, Scope.homes_eq] at hhome ⊢
    rcases Option.or_eq_some_iff.mp hhome with hfirst | ⟨-, hloaded⟩
    · obtain ⟨d, hd, hname, -⟩ := FileSet.exists_of_homes hfirst
      have hsecond := FileSet.homes_eq_none (honce.not_declares ⟨d, hd, hname⟩)
      refine Option.or_eq_some_iff.mpr (Or.inl ?_)
      exact (FileSet.find?_homes_append first second name).trans (by rw [hsecond]; exact hfirst)
    · have hdeclares := hnew.not_declares (Scope.containsType_of_loadedHome? hloaded)
      exact Option.or_eq_some_iff.mpr (Or.inr ⟨FileSet.homes_eq_none hdeclares, hloaded⟩)
  enum := by
    intro name table h
    rw [Scope.enum?, Scope.enums_eq] at h ⊢
    rcases Option.or_eq_some_iff.mp h with hfirst | ⟨-, hloaded⟩
    · obtain ⟨d, hd, hname, -⟩ := FileSet.exists_of_enumTables hfirst
      have hsecond := FileSet.enumTables_eq_none (honce.not_declares ⟨d, hd, hname⟩)
      refine Option.or_eq_some_iff.mpr (Or.inl ?_)
      exact (FileSet.find?_enumTables_append first second name).trans
        (by rw [hsecond]; exact hfirst)
    · have hdeclares := hnew.not_declares (containsType_of_enum? hloaded)
      exact Option.or_eq_some_iff.mpr (Or.inr ⟨FileSet.enumTables_eq_none hdeclares, hloaded⟩)
  file := by
    intro name h
    rw [Scope.hasFile, Bool.or_eq_true] at h ⊢
    rcases h with hset | hloaded
    · refine Or.inl ((FileSet.isSome_find?_append first second name).trans ?_)
      rw [Bool.or_eq_true]
      exact Or.inl hset
    · exact Or.inr hloaded

/-- An enum that the first part declares means the same in the whole set. -/
theorem declaredEnum?_first (honce : (first ++ second).DeclaresOnce) {d : Declaration}
    (hd : d ∈ first.declarations) :
    (Scope.of first catalog).declaredEnum? d =
      (Scope.of (first ++ second) catalog).declaredEnum? d := by
  have hsecond := FileSet.enumTables_eq_none (honce.not_declares ⟨d, hd, rfl⟩)
  have happend := FileSet.find?_enumTables_append first second d.name
  rw [hsecond, Option.none_or] at happend
  unfold Scope.declaredEnum?
  rw [Scope.enums_eq, Scope.enums_eq]
  exact congrArg _ (funext fun _ => happend.symm)

/-- The tables of a file of the first part are built in the whole set as well. -/
theorem tables_first (honce : (first ++ second).DeclaresOnce)
    (hnew : (first ++ second).NewIn catalog) {file : FileDescriptor} (hfile : file ∈ first.files)
    {found : FileTable} (hfound : file.tables (Scope.of first catalog) = .ok found) :
    file.tables (Scope.of (first ++ second) catalog) = .ok found := by
  refine FileDescriptor.tables_mono (extends_append honce hnew) ?_ hfound
  intro d hd
  exact declaredEnum?_first honce (List.mem_flatMap.mpr ⟨file, hfile, hd⟩)

/-! ## The second part -/

/-- An enum that the second part declares means the same in the whole set. -/
theorem declaredEnum?_second (loaded : Catalog) {d : Declaration}
    (hd : d ∈ second.declarations) :
    (Scope.of (first ++ second) catalog).declaredEnum? d =
      (Scope.of second loaded).declaredEnum? d := by
  unfold Scope.declaredEnum?
  rw [Scope.enums_eq, Scope.enums_eq]
  cases henum : d.enum? with
  | none => rfl
  | some table =>
    obtain ⟨found, hfound⟩ := Option.isSome_iff_exists.mp (FileSet.isSome_enumTables hd henum)
    have happend := FileSet.find?_enumTables_append first second d.name
    rw [hfound, Option.some_or] at happend
    exact happend.trans hfound.symm

/-- A message is in the catalog after a load when the set declares it, or when it
was there before. -/
theorem isSome_message?_addFiles (hdotted : ∀ d ∈ first.declarations, FullName.Dotted d.name)
    (htables : (Scope.of first catalog).tables = .ok files) {name : String}
    (hname : FullName.Dotted name) :
    ((catalog.addFiles files).1.message? name).isSome = true ↔
      (∃ d ∈ first.declarations, d.name = name ∧ d.home.kind = .message) ∨
        (catalog.message? name).isSome = true := by
  have htablesOf := Scope.tablesOf htables
  rw [message?, addFiles_fst, NameTable.isSome_find?_insertAll, MessageTable.map_fst_entry]
  refine or_congr ?_ Iff.rfl
  constructor
  · intro hmem
    obtain ⟨d, hd, hkind, hbare⟩ := htablesOf.exists_of_mem_messages hmem
    exact ⟨d, hd, (hdotted d hd).eq_of_bare_eq hname hbare, hkind⟩
  · rintro ⟨d, hd, rfl, hkind⟩
    exact htablesOf.mem_messages hd hkind

/-- An enum in the catalog after a load is the one that the set declares, or else
the one that was there before. -/
theorem enum?_addFiles (hdotted : ∀ d ∈ first.declarations, FullName.Dotted d.name)
    (htables : (Scope.of first catalog).tables = .ok files) {name : String}
    (hname : FullName.Dotted name) :
    (catalog.addFiles files).1.enum? name =
      (first.enumTables.find? name).or (catalog.enum? name) := by
  have htablesOf := Scope.tablesOf htables
  have hkeys : ∀ table ∈ files.flatMap FileTable.enums,
      table.fullName = FullName.bare name → first.enumTables.find? name = some table := by
    intro table htable hfullName
    obtain ⟨d, hd, -, hfound⟩ := htablesOf.exists_of_mem_enums htable
    have hfound : first.enumTables.find? d.name = some table := hfound
    obtain ⟨d', hd', hname', htable'⟩ := FileSet.exists_of_enumTables hfound
    rw [(FileSet.isSound_of_mem_declarations hd').fullName_eq htable', hname'] at hfullName
    rw [← (hdotted d hd).eq_of_bare_eq hname hfullName]
    exact hfound
  rw [enum?, addFiles_fst]
  cases hfirst : first.enumTables.find? name with
  | none =>
    refine NameTable.find?_insertAll_of_not_mem ?_
    rw [EnumTable.map_fst_entry]
    intro hmem
    obtain ⟨table, htable, hfullName⟩ := List.mem_map.mp hmem
    cases hfirst.symm.trans (hkeys table htable hfullName)
  | some table =>
    obtain ⟨d, hd, rfl, henum⟩ := FileSet.exists_of_enumTables hfirst
    have hfullName := (FileSet.isSound_of_mem_declarations hd).fullName_eq henum
    have hmem := htablesOf.mem_enums hd (by rw [henum]; rfl) hfirst
    refine NameTable.find?_insertAll_of_unique (EnumTable.mem_map_entry.mpr ?_) ?_
    · exact ⟨hmem, hfullName⟩
    · intro other hother
      obtain ⟨hother, hotherName⟩ := EnumTable.mem_map_entry.mp hother
      have hagain := hkeys other hother hotherName
      exact Option.some.inj (hagain.symm.trans hfirst)

/-- A file is known after a load when the set has it, or when it was known before. -/
theorem containsFile_addFiles (htables : (Scope.of first catalog).tables = .ok files)
    (name : String) :
    (catalog.addFiles files).1.containsFile name =
      ((first.find? name).isSome || catalog.containsFile name) := by
  have hnames : name ∈ (files.map FileTable.entry).map Prod.fst ↔
      (first.find? name).isSome = true := by
    rw [FileSet.find?, List.find?_isSome]
    constructor
    · intro hmem
      obtain ⟨entry, hentry, rfl⟩ := List.mem_map.mp hmem
      obtain ⟨found, hfound, rfl⟩ := List.mem_map.mp hentry
      obtain ⟨file, hfile, htable⟩ := exists_item_of_mapM_eq_ok htables hfound
      obtain ⟨name, parts, hname, -, -, rfl⟩ := FileDescriptor.tables_eq_ok htable
      exact ⟨file, hfile, beq_iff_eq.mpr hname⟩
    · rintro ⟨file, hfile, hname⟩
      obtain ⟨found, hfound, htable⟩ := exists_of_mapM_eq_ok htables hfile
      obtain ⟨name', parts, hname', -, -, rfl⟩ := FileDescriptor.tables_eq_ok htable
      cases hname'.symm.trans (beq_iff_eq.mp hname)
      exact List.mem_map.mpr ⟨_, List.mem_map_of_mem hfound, rfl⟩
  rw [Bool.eq_iff_iff, Bool.or_eq_true, containsFile, containsFile, NameTable.contains,
    addFiles_fst, NameTable.isSome_find?_insertAll, hnames]
  rfl

/-- What a file of the second part imports is known in both ways. -/
theorem hasFile_second (htables : (Scope.of first catalog).tables = .ok files) (name : String) :
    (Scope.of (first ++ second) catalog).hasFile name =
      (Scope.of second (catalog.addFiles files).1).hasFile name := by
  have hset := FileSet.isSome_find?_append first second name
  have hloaded := containsFile_addFiles htables name
  calc (Scope.of (first ++ second) catalog).hasFile name
      = (((first.find? name).isSome || (second.find? name).isSome) ||
          catalog.containsFile name) := congrArg (· || catalog.containsFile name) hset
    _ = ((second.find? name).isSome ||
          ((first.find? name).isSome || catalog.containsFile name)) := by
        rw [Bool.or_comm (first.find? name).isSome, Bool.or_assoc]
    _ = (Scope.of second (catalog.addFiles files).1).hasFile name :=
        congrArg ((second.find? name).isSome || ·) hloaded.symm

/-- A name means an enum in both ways, and the same one. -/
theorem enum?_second (hdotted : ∀ d ∈ first.declarations, FullName.Dotted d.name)
    (htables : (Scope.of first catalog).tables = .ok files) {name : String}
    (hname : FullName.Dotted name) :
    (Scope.of (first ++ second) catalog).enum? name =
      (Scope.of second (catalog.addFiles files).1).enum? name := by
  calc (Scope.of (first ++ second) catalog).enum? name
      = ((second.enumTables.find? name).or (first.enumTables.find? name)).or
          (catalog.enum? name) := by
        rw [← FileSet.find?_enumTables_append]
        rfl
    _ = (second.enumTables.find? name).or
          ((first.enumTables.find? name).or (catalog.enum? name)) := Option.or_assoc ..
    _ = (Scope.of second (catalog.addFiles files).1).enum? name := by
        rw [← enum?_addFiles hdotted htables hname]
        rfl

/-- A message in the catalog after a load is at home where the set declares it, or was
there before. -/
theorem message?_addFiles_cases (hdotted : ∀ d ∈ first.declarations, FullName.Dotted d.name)
    (htables : (Scope.of first catalog).tables = .ok files) {name : String}
    (hname : FullName.Dotted name) {table : MessageTable}
    (h : (catalog.addFiles files).1.message? name = some table) :
    (∃ d ∈ first.declarations, d.name = name ∧ d.home = table.home) ∨
      catalog.message? name = some table := by
  rw [message?, addFiles_fst] at h
  refine (NameTable.find?_insertAll_cases h).imp_left fun hmem => ?_
  obtain ⟨htable, hfullName⟩ := MessageTable.mem_map_entry.mp hmem
  obtain ⟨d, hd, hbare, hhome⟩ := Scope.exists_declaration_of_tables htables htable
  exact ⟨d, hd, (hdotted d hd).eq_of_bare_eq hname (hbare.symm.trans hfullName), hhome⟩

/-- What the first part declares, or the catalog had, is at home in the same place in the
catalog after the load. -/
theorem loadedHome?_addFiles (second : FileSet)
    (hdotted : ∀ d ∈ first.declarations, FullName.Dotted d.name) (honce : first.DeclaresOnce)
    (hnew : first.NewIn catalog) (htables : (Scope.of first catalog).tables = .ok files)
    {name : String} (hname : FullName.Dotted name) :
    (first.homes.find? name).or ((Scope.of (first ++ second) catalog).loadedHome? name) =
      (Scope.of second (catalog.addFiles files).1).loadedHome? name := by
  have hmessage := isSome_message?_addFiles hdotted htables hname
  have henum := enum?_addFiles hdotted htables hname
  have hcases := @message?_addFiles_cases _ _ _ hdotted htables _ hname
  rw [Scope.loadedHome?_eq, Scope.loadedHome?_eq]
  show (first.homes.find? name).or (((catalog.message? name).map MessageTable.home).or
      ((catalog.enum? name).map EnumTable.home)) =
    (((catalog.addFiles files).1.message? name).map MessageTable.home).or
      (((catalog.addFiles files).1.enum? name).map EnumTable.home)
  cases hhome : first.homes.find? name with
  | some home =>
    obtain ⟨d, hd, rfl, rfl⟩ := FileSet.exists_of_homes hhome
    cases hafter : (catalog.addFiles files).1.message? d.name with
    | some table =>
      rcases hcases hafter with ⟨d', hd', hname', hhome'⟩ | hbefore
      · cases honce.eq_of_name_eq hd hd' hname'.symm
        exact congrArg some hhome'
      · rw [hnew.message?_eq_none hd] at hbefore
        cases hbefore
    | none =>
      -- No message is put in under the name, so it is an enum that is declared.
      have hsound := FileSet.isSound_of_mem_declarations hd
      cases hkind : d.home.kind with
      | message =>
        have hsome := hmessage.mpr (Or.inl ⟨d, hd, rfl, hkind⟩)
        rw [hafter] at hsome
        cases hsome
      | enum =>
        rw [Declaration.IsSound, hkind] at hsound
        obtain ⟨table, htable, -⟩ := hsound
        rw [henum, honce.find?_enumTables hd htable]
        exact congrArg some (FileSet.home_of_mem_declarations hd htable)
  | none =>
    have hdeclares : ¬ first.Declares name := by
      rintro ⟨d, hd, rfl⟩
      have hsome := FileSet.isSome_homes hd
      rw [hhome] at hsome
      cases hsome
    have hsame : (catalog.addFiles files).1.message? name = catalog.message? name := by
      cases hafter : (catalog.addFiles files).1.message? name with
      | some table =>
        rcases hcases hafter with ⟨d, hd, hname', -⟩ | hbefore
        · exact absurd ⟨d, hd, hname'⟩ hdeclares
        · exact hbefore.symm
      | none =>
        refine (Option.not_isSome_iff_eq_none.mp fun hbefore => ?_).symm
        have hsome := hmessage.mpr (Or.inr hbefore)
        rw [hafter] at hsome
        cases hsome
    rw [hsame, henum, FileSet.enumTables_eq_none hdeclares, Option.none_or, Option.none_or]

/-- A name is at home in one place in both ways. -/
theorem home?_second (hdotted : ∀ d ∈ first.declarations, FullName.Dotted d.name)
    (honce : first.DeclaresOnce) (hnew : first.NewIn catalog)
    (htables : (Scope.of first catalog).tables = .ok files) {name : String}
    (hname : FullName.Dotted name) :
    (Scope.of (first ++ second) catalog).home? name =
      (Scope.of second (catalog.addFiles files).1).home? name := by
  calc (Scope.of (first ++ second) catalog).home? name
      = ((second.homes.find? name).or (first.homes.find? name)).or
          ((Scope.of (first ++ second) catalog).loadedHome? name) := by
        rw [← FileSet.find?_homes_append]
        rfl
    _ = (second.homes.find? name).or ((first.homes.find? name).or
          ((Scope.of (first ++ second) catalog).loadedHome? name)) := Option.or_assoc ..
    _ = (Scope.of second (catalog.addFiles files).1).home? name := by
        rw [loadedHome?_addFiles second hdotted honce hnew htables hname]
        rfl

/-- The tables of a file of the second part are the same in both ways, and so is a fault
in it. -/
theorem tables_second (hnamed : (first ++ second).WellNamed)
    (honce : (first ++ second).DeclaresOnce) (hnew : (first ++ second).NewIn catalog)
    (htables : (Scope.of first catalog).tables = .ok files) {file : FileDescriptor}
    (hfile : file ∈ second.files) :
    file.tables (Scope.of (first ++ second) catalog) =
      file.tables (Scope.of second (catalog.addFiles files).1) := by
  refine FileDescriptor.tables_congr ?_ ?_ ?_
  · intro name _
    exact Scope.checkDependencies_congr
      (fun dependency _ => hasFile_second htables dependency) name
  · intro name _ message hmessage field hfield
    have hreference : ∀ target, field.typeName = some target → FullName.Dotted target := by
      intro target htarget
      exact hnamed.references file (List.mem_append_right _ hfile) target
        (FileDescriptor.mem_typeNames hmessage hfield htarget)
    refine FieldDescriptor.content_congr ?_ ?_
    · intro target htarget
      exact congrArg (Option.map TypeHome.kind)
        (home?_second hnamed.dotted_left honce.left hnew.left htables (hreference target htarget))
    · intro target _ htarget
      exact enum?_second hnamed.dotted_left htables (hreference target htarget)
  · intro d hd
    exact declaredEnum?_second _ (List.mem_flatMap.mpr ⟨file, hfile, hd⟩)

/-! ## Both parts -/

/-- The tables of the whole set are those of the first part, and those of the
second part on top of the first.  A fault in the second part is the same, too. -/
theorem tables_append (hnamed : (first ++ second).WellNamed)
    (honce : (first ++ second).DeclaresOnce) (hnew : (first ++ second).NewIn catalog)
    (htables : (Scope.of first catalog).tables = .ok files) :
    (Scope.of (first ++ second) catalog).tables =
      (Scope.of second (catalog.addFiles files).1).tables >>= fun more =>
        .ok (files ++ more) := by
  have hfirst : first.files.mapM
      (FileDescriptor.tables (Scope.of (first ++ second) catalog)) = .ok files := by
    refine mapM_eq_ok.mpr ?_
    refine (forall₂_mem_and (mapM_eq_ok.mp htables)).imp fun file found hfound => ?_
    exact tables_first honce hnew hfound.1 hfound.2
  have hsecond : second.files.mapM
        (FileDescriptor.tables (Scope.of (first ++ second) catalog)) =
      second.files.mapM
        (FileDescriptor.tables (Scope.of second (catalog.addFiles files).1)) :=
    mapM_congr_mem fun _ hfile => tables_second hnamed honce hnew htables hfile
  unfold Scope.tables
  show (first.files ++ second.files).mapM _ = _
  rw [List.mapM_append, hfirst, hsecond]
  rfl

/-- Loading a set at once comes to the same as loading its first part, when that
succeeds, and then the second one.  Either both ways succeed with the same
catalog, and what is reported at once is what is reported in parts, or both fail
in the same way. -/
theorem load_append (hnamed : (first ++ second).WellNamed)
    (honce : (first ++ second).DeclaresOnce) (hnew : (first ++ second).NewIn catalog)
    {loaded : Loaded} (hfirst : catalog.load first = .ok loaded) :
    catalog.load (first ++ second) =
      (loaded.catalog.load second).map fun more =>
        { catalog := more.catalog
          report := loaded.report ++ more.report
          replaced := loaded.replaced ++ more.replaced } := by
  obtain ⟨files, htables, rfl⟩ := load_eq_ok.mp hfirst
  unfold load
  rw [tables_append hnamed honce hnew htables]
  cases hmore : (Scope.of second (catalog.addFiles files).1).tables with
  | error e =>
    have hmore' : (Scope.of second (catalog.activate files).catalog).tables = .error e := hmore
    rw [hmore']
    rfl
  | ok more =>
    have hmore' : (Scope.of second (catalog.activate files).catalog).tables = .ok more := hmore
    rw [hmore']
    exact congrArg Except.ok (activate_append catalog files more)

/-- A file, and one that imports it and refers to its message, loaded in parts. -/
theorem load_append_import :
    let first : FileSet := ⟨[{ name := some "a.proto", package := some "p"
                               messages := [{ name := some "A" }] }]⟩
    let second : FileSet := ⟨[{ name := some "b.proto", dependencies := ["a.proto"]
                                messages := [{
                                  name := some "B"
                                  fields := [{ name := some "a", number := some 1
                                               type := some 11, typeName := some ".p.A" }] }] }]⟩
    ∃ loaded more, ({} : Catalog).load first = .ok loaded ∧
      loaded.catalog.load second = .ok more ∧
      ({} : Catalog).load (first ++ second) = .ok
        { catalog := more.catalog
          report := loaded.report ++ more.report
          replaced := loaded.replaced ++ more.replaced } := by
  intro first second
  have hnamed : (first ++ second).WellNamed :=
    { packages := by decide +kernel
      messages := by decide +kernel
      references := by decide +kernel
      enums := by decide +kernel }
  have honce : (first ++ second).DeclaresOnce :=
    (by decide +kernel : ((first ++ second).declarations.map Declaration.name).Nodup)
  have hnew : ∀ d ∈ (first ++ second).declarations, ({} : Catalog).containsType d.name = false := by
    decide +kernel
  have hruns : (({} : Catalog).load first >>= fun loaded =>
      loaded.catalog.load second).isOk = true := by
    decide +kernel
  obtain ⟨more, hmore⟩ := exists_eq_ok_of_isOk hruns
  obtain ⟨loaded, hfirst, hsecond⟩ := bind_eq_ok.mp hmore
  refine ⟨loaded, more, hfirst, hsecond, ?_⟩
  rw [load_append hnamed honce hnew hfirst, hsecond]
  rfl

end Parts

end Catalog

end ProtoSchema
