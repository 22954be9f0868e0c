import ProtoSchema.Proofs.Catalog.Contents
import ProtoSchema.Proofs.Table.Congruence

/-!
# What a set hides

A name that a set declares hides what was loaded before under this name.  The
catalog is asked only for what the set leaves open: for a file that is not in the
set, for a name that the set does not declare, and for the enum of a field when the
set declares no enum of this name.  `SeesAlike` lists these questions, and
`tables_congr` says that two catalogs which answer them alike give the same tables,
or the same fault.

The last question is wider than the others.  A name that the set declares for a
message does not hide an enum that was loaded under it.  A field that is marked as
an enum and refers to such a name is built with the loaded enum
(`exists_tables_ne`).

A set that imports its own files and refers to its own types leaves nothing else
open.  So the catalog does not matter to it as long as the enums under those names
are the same (`tables_eq_of_standsAlone`).
-/

namespace ProtoSchema

open Checked

/-! ## Sets that stand on their own -/

/-- The name of the enum that a field refers to. -/
def FieldDescriptor.enumName? (field : FieldDescriptor) : Option String :=
  if field.typeKind = some .enum then field.typeName else none

theorem FieldDescriptor.enumName?_eq_some {field : FieldDescriptor} {name : String}
    (htype : field.typeKind = some .enum) (hname : field.typeName = some name) :
    field.enumName? = some name := by
  rw [enumName?, if_pos htype, hname]

/-- The names of the enums that the fields of a file refer to. -/
def FileDescriptor.enumNames (file : FileDescriptor) : List String :=
  file.allMessages.flatMap fun message => message.fields.filterMap FieldDescriptor.enumName?

theorem FileDescriptor.mem_enumNames {file : FileDescriptor} {message : MessageDescriptor}
    {field : FieldDescriptor} {name : String} (hmessage : message ∈ file.allMessages)
    (hfield : field ∈ message.fields) (hname : field.enumName? = some name) :
    name ∈ file.enumNames :=
  List.mem_flatMap.mpr ⟨message, hmessage, List.mem_filterMap.mpr ⟨field, hfield, hname⟩⟩

namespace FileSet

/-- The names of enums that fields of a set refer to and that the set declares no
enum under. -/
def openEnumNames (set : FileSet) : List String :=
  (set.files.flatMap FileDescriptor.enumNames).filter fun name =>
    (set.enumTables.find? name).isNone

theorem mem_openEnumNames {set : FileSet} {file : FileDescriptor} {name : String}
    (hfile : file ∈ set.files) (hname : name ∈ file.enumNames)
    (hopen : set.enumTables.find? name = none) : name ∈ set.openEnumNames := by
  refine List.mem_filter.mpr ⟨List.mem_flatMap.mpr ⟨file, hfile, hname⟩, ?_⟩
  rw [hopen]
  rfl

/-- A set that imports its own files only and refers to its own types only. -/
structure StandsAlone (set : FileSet) : Prop where
  /-- Every imported file is in the set. -/
  imports : ∀ file ∈ set.files, ∀ name ∈ file.dependencies, (set.find? name).isSome = true
  /-- Every name that a field refers to is declared. -/
  references : ∀ file ∈ set.files, ∀ name ∈ file.typeNames, set.Declares name

/-- Two catalogs that give the same answers to what a set leaves open. -/
structure SeesAlike (set : FileSet) (a b : Catalog) : Prop where
  /-- Whether a file that is not in the set was loaded. -/
  files : ∀ file ∈ set.files, ∀ name ∈ file.dependencies, set.find? name = none →
    a.containsFile name = b.containsFile name
  /-- Whether a message was loaded under a name that is not declared. -/
  messages : ∀ file ∈ set.files, ∀ name ∈ file.typeNames, ¬ set.Declares name →
    (a.message? name).isSome = (b.message? name).isSome
  /-- Whether an enum was loaded under a name that is not declared. -/
  enums : ∀ file ∈ set.files, ∀ name ∈ file.typeNames, ¬ set.Declares name →
    (a.enum? name).isSome = (b.enum? name).isSome
  /-- The enum that was loaded under the name that a field wants an enum of, when the
  set declares none. -/
  openEnums : ∀ name ∈ set.openEnumNames, a.enum? name = b.enum? name

/-- A set that stands on its own leaves only enums open. -/
theorem StandsAlone.seesAlike {set : FileSet} (h : set.StandsAlone) {a b : Catalog}
    (hopen : ∀ name ∈ set.openEnumNames, a.enum? name = b.enum? name) : set.SeesAlike a b where
  files := by
    intro file hfile name hname hnone
    have hsome := h.imports file hfile name hname
    rw [hnone] at hsome
    cases hsome
  messages := fun file hfile name hname hnot => absurd (h.references file hfile name hname) hnot
  enums := fun file hfile name hname hnot => absurd (h.references file hfile name hname) hnot
  openEnums := hopen

end FileSet

/-! ## What a scope asks its catalog -/

namespace Scope

variable {set : FileSet} {a b : Catalog}

/-- The kind of a name depends on the catalog only when the set does not declare it. -/
theorem kind?_congr {name : String}
    (hmessages : ¬ set.Declares name → (a.message? name).isSome = (b.message? name).isSome)
    (henums : ¬ set.Declares name → (a.enum? name).isSome = (b.enum? name).isSome) :
    (Scope.of set a).kind? name = (Scope.of set b).kind? name := by
  have hkind : ∀ catalog, (Scope.of set catalog).kind? name =
      ((set.homes.find? name).map TypeHome.kind).or
        (((Scope.of set catalog).loadedHome? name).map TypeHome.kind) := fun _ => Option.map_or
  by_cases hname : set.Declares name
  · obtain ⟨d, hd, rfl⟩ := hname
    obtain ⟨home, hhome⟩ := Option.isSome_iff_exists.mp (FileSet.isSome_homes hd)
    rw [hkind a, hkind b, hhome]
    rfl
  · rw [hkind a, hkind b, map_kind_loadedHome?, map_kind_loadedHome?]
    show Option.or _ (if (a.message? name).isSome then _ else if (a.enum? name).isSome then _
      else _) = Option.or _ (if (b.message? name).isSome then _ else if (b.enum? name).isSome
        then _ else _)
    rw [hmessages hname, henums hname]

/-- The enum of a name depends on the catalog only when the set declares none. -/
theorem enum?_congr {name : String}
    (h : set.enumTables.find? name = none → a.enum? name = b.enum? name) :
    (Scope.of set a).enum? name = (Scope.of set b).enum? name := by
  show (set.enumTables.find? name).or (a.enum? name) =
    (set.enumTables.find? name).or (b.enum? name)
  cases hdeclared : set.enumTables.find? name with
  | some table => rfl
  | none => rw [h hdeclared]

/-- Whether a file is known depends on the catalog only when the set does not have it. -/
theorem hasFile_congr {name : String}
    (h : set.find? name = none → a.containsFile name = b.containsFile name) :
    (Scope.of set a).hasFile name = (Scope.of set b).hasFile name := by
  show ((set.find? name).isSome || a.containsFile name) =
    ((set.find? name).isSome || b.containsFile name)
  cases hfile : set.find? name with
  | some file => rfl
  | none => rw [h hfile]

/-- Catalogs that answer alike what a set leaves open give the same tables, or the
same fault. -/
theorem tables_congr (h : set.SeesAlike a b) :
    (Scope.of set a).tables = (Scope.of set b).tables := by
  refine mapM_congr_mem fun file hfile => FileDescriptor.tables_congr ?_ ?_ ?_
  · intro name _
    refine checkDependencies_congr (fun dependency hdependency => ?_) name
    exact hasFile_congr (h.files file hfile dependency hdependency)
  · intro name _ message hmessage field hfield
    refine FieldDescriptor.content_congr ?_ ?_
    · intro target htarget
      have hmem := FileDescriptor.mem_typeNames hmessage hfield htarget
      exact kind?_congr (h.messages file hfile target hmem) (h.enums file hfile target hmem)
    · intro target htype htarget
      have hmem := FileDescriptor.mem_enumNames hmessage hfield
        (FieldDescriptor.enumName?_eq_some htype htarget)
      exact enum?_congr fun hnone => h.openEnums target (FileSet.mem_openEnumNames hfile hmem hnone)
  · intro d _
    rfl

/-- A set that imports its own files and refers to its own types has the same tables,
or the same fault, on top of any two catalogs with the same enums under the names that
it wants enums of and declares none under. -/
theorem tables_eq_of_standsAlone (h : set.StandsAlone)
    (hopen : ∀ name ∈ set.openEnumNames, a.enum? name = b.enum? name) :
    (Scope.of set a).tables = (Scope.of set b).tables :=
  tables_congr (h.seesAlike hopen)

/-- Two files that stand on their own, on top of catalogs that have types of the other
kinds under the same names. -/
theorem tables_eq_of_standsAlone_kinds :
    let set : FileSet := ⟨[
      { name := some "a.proto", package := some "p", messages := [{ name := some "A" }]
        enums := [{ name := some "E", values := [{ name := some "X", number := some 0 }] }] },
      { name := some "b.proto", package := some "p", dependencies := ["a.proto"]
        messages := [
          { name := some "B"
            fields := [
              { name := some "a", number := some 1, type := some 11, typeName := some ".p.A" },
              { name := some "e", number := some 2, type := some 14, typeName := some ".p.E" },
              { name := some "b", number := some 3, type := some 14
                typeName := some ".p.B" }] }] }]⟩
    let wanted : FileSet := ⟨[{ name := some "w.proto", package := some "p"
                                enums := [{ name := some "B" }] }]⟩
    let hidden : FileSet := ⟨[{ name := some "h.proto", package := some "p"
                                messages := [{ name := some "E" }]
                                enums := [{ name := some "A" }] }]⟩
    let a := ({} : Catalog).afterLoads [wanted]
    let b := ({} : Catalog).afterLoads [wanted, hidden]
    set.StandsAlone ∧ set.openEnumNames = [".p.B"] ∧ a.enum? ".p.B" = b.enum? ".p.B" ∧
      b.containsType ".p.A" = true ∧ a.containsType ".p.A" = false ∧
      ∃ tables, (Scope.of set a).tables = .ok tables ∧ (Scope.of set b).tables = .ok tables := by
  intro set wanted hidden a b
  have halone : set.StandsAlone :=
    { imports := by decide +kernel
      references := (by decide +kernel : ∀ file ∈ set.files, ∀ name ∈ file.typeNames,
        ∃ d ∈ set.declarations, d.name = name) }
  have hopen : ∀ name ∈ set.openEnumNames, a.enum? name = b.enum? name := by decide +kernel
  have hbuilt : (Scope.of set a).tables.isOk = true := by decide +kernel
  obtain ⟨tables, htables⟩ := exists_eq_ok_of_isOk hbuilt
  refine ⟨halone, by decide +kernel, by decide +kernel, by decide +kernel, by decide +kernel,
    tables, htables, ?_⟩
  rw [← tables_eq_of_standsAlone halone hopen, htables]

/-- A field that is marked as an enum and refers to a message of the set is built with an
enum that was loaded under the same name, and refused when there is none. -/
theorem exists_tables_ne :
    let set : FileSet := ⟨[
      { name := some "s.proto"
        messages := [
          { name := some "M"
            fields := [{ name := some "f", number := some 1, label := some 1, type := some 14
                         typeName := some ".M" }] }] }]⟩
    let other : FileSet := ⟨[
      { name := some "r.proto"
        enums := [{ name := some "M", values := [{ name := some "A", number := some 0 }] }] }]⟩
    set.StandsAlone ∧ (Scope.of set {}).tables = .error (.unresolvedType "s.proto" ".M") ∧
      ∃ tables, (Scope.of set (({} : Catalog).afterLoads [other])).tables = .ok tables := by
  intro set other
  have hbuilt : (Scope.of set (({} : Catalog).afterLoads [other])).tables.isOk = true := by
    decide +kernel
  refine ⟨?_, rfl, exists_eq_ok_of_isOk hbuilt⟩
  exact
    { imports := by decide +kernel
      references := (by decide +kernel : ∀ file ∈ set.files, ∀ name ∈ file.typeNames,
        ∃ d ∈ set.declarations, d.name = name) }

end Scope

end ProtoSchema
