import ProtoSchema.Proofs.Catalog.Closed
import ProtoSchema.Proofs.Catalog.Incremental
import ProtoSchema.Proofs.Catalog.Kinds
import ProtoSchema.Proofs.Table.Origin
import ProtoSchema.Proofs.Value.Calls

/-!
# Enums that fields carry

A field that holds a message carries the name of the message, so it means whatever
stands under the name.  A field that holds an enum carries the table of the enum, and
goes by this table from then on (`FieldTable.GoesBy`).

The table is the one that the name in the descriptor of the field meant during the load of
the message.  Right after the load it is the one that stands under its own full name, with
one exception.  A set knows its own enums by their names with the dots in front, and the
catalog looks past the dots.  A field whose reference has other dots in front misses the
enum of its set, and carries the one that the set is about to replace.

A later load may put another enum in its place as well, and the field does not follow
(`Catalog.exists_other_enum`).  There is no other way for the two to come apart
(`Load.eq_or_supersedes`), and so each field of each message that is stored keeps its enum
up to these two (`Catalog.keepsEnum_afterLoads`).
-/

namespace ProtoSchema

/-! ## How a field treats its enum -/

/-- What a field of a type makes of the values of an enum. -/
structure FieldTable.GoesBy (field : FieldTable) (enum : EnumTable) (type : MessageTable) :
    Prop where
  /-- A declared default is one of the values. -/
  default : ∀ value, field.default = some value →
    ∃ name number, enum.numberOf? name = some number ∧ value = .enum number
  /-- Without a declared default the field reads as the first value. -/
  absent : field.isRepeated = false → field.default = none →
    ∀ message : Message, message.type = type → type.field? field.name = some field →
      message.stored? field.number = none →
        message.getOrDefault field.name = .ok (.atom (.enum enum.defaultNumber))
  /-- A name that is set is looked up among the values. -/
  set : field.isRepeated = false →
    ∀ message : Message, message.type = type → type.field? field.name = some field →
      ∀ valueName changed, message.setEnumByName field.name valueName = .ok changed ↔
        ∃ number, enum.numberOf? valueName = some number ∧
          changed = message.assign field (.atom (.enum number))

/-- The field of a described field goes by the enum that it carries. -/
theorem FieldDescriptor.Describes.goesBy {scope : Scope} {descriptor : FieldDescriptor}
    {field : FieldTable} (h : descriptor.Describes scope field) {enum : EnumTable}
    (henum : field.content = .enum enum) (type : MessageTable) : field.GoesBy enum type where
  default := by
    intro value hvalue
    have hread := h.default
    rw [hvalue, henum] at hread
    obtain ⟨name, -, hname⟩ := Option.bind_eq_some_iff.mp hread.symm
    obtain ⟨number, hnumber, rfl⟩ := Option.map_eq_some_iff.mp hname
    exact ⟨name, number, hnumber, rfl⟩
  absent := by
    rintro hsingle hdefault message rfl hfound hstored
    rw [Message.getOrDefault_eq_ok hfound, hstored, Option.none_or]
    simp only [FieldTable.absentValue?, hsingle, hdefault, henum]
    rfl
  set := by
    rintro hsingle message rfl hfound valueName changed
    rw [Message.setEnumByName_eq_ok]
    constructor
    · intro hdoes
      cases hdoes with
      | setEnumByName hfound' henum' hnumber hset =>
        cases hfound.symm.trans hfound'
        cases henum.symm.trans henum'
        cases hset with
        | set hfound'' _ =>
          cases hfound.symm.trans hfound''
          refine ⟨_, hnumber, ?_⟩
          rw [henum]
          rfl
    · rintro ⟨number, hnumber, rfl⟩
      refine .setEnumByName hfound henum hnumber ?_
      have hcoerce : field.content.coerce (.atom (.enum number)) = .atom (.enum number) := by
        rw [henum]
        rfl
      have hset : message.Does (.set field.name (.atom (.enum number)))
          (message.assign field (field.content.coerce (.atom (.enum number)))) := by
        refine .set hfound ?_
        rw [hcoerce, FieldTable.fits_of_not_isRepeated hsingle, henum]
        rfl
      rwa [hcoerce] at hset

/-! ## The load of a message -/

/-- A field that carries an enum refers to it. -/
theorem FieldDescriptor.Describes.exists_reference {scope : Scope} {descriptor : FieldDescriptor}
    {field : FieldTable} (h : descriptor.Describes scope field) {enum : EnumTable}
    (henum : field.content = .enum enum) :
    ∃ reference, descriptor.typeName = some reference ∧ scope.enum? reference = some enum := by
  have hholds := h.holds
  rw [henum] at hholds
  cases hholds with
  | enum _ hname hfound => exact ⟨_, hname, hfound⟩

namespace Load

variable {load : Load}

/-- An enum has the name that it is referred to by, without the dots in front. -/
theorem fullName_of_enum? (hclosed : load.base.Closed) {reference : String} {enum : EnumTable}
    (h : (Scope.of load.set load.base).enum? reference = some enum) :
    enum.fullName = FullName.bare reference := by
  rcases Scope.enum?_eq_some h with ⟨d, hd, rfl, hdeclared⟩ | hloaded
  · exact (FileSet.isSound_of_mem_declarations hd).fullName_eq hdeclared
  · exact hclosed.enums _ _ hloaded

/-- What stands under a name right after a load is an enum that the set declares, or the load
put in none under this name and it stood there before. -/
theorem enum?_catalog_cases {name : String} {current : EnumTable}
    (h : load.catalog.enum? name = some current) :
    (∃ d ∈ load.set.declarations, FullName.bare d.name = FullName.bare name ∧
      load.set.enumTables.find? d.name = some current) ∨
    (¬ load.Activates .enum name ∧ load.base.enum? name = some current) := by
  rw [catalog, Catalog.enum?, Catalog.addFiles_fst] at h
  by_cases hmem : FullName.bare name ∈ (load.enums.map EnumTable.entry).map Prod.fst
  · obtain ⟨last, hlast, hfound⟩ := NameTable.exists_isLast_of_insertAll load.base.enums hmem
    cases hfound.symm.trans h
    obtain ⟨d, hd, -, hdeclared⟩ := (Scope.tablesOf load.built).exists_of_mem_enums hlast.mem
    obtain ⟨other, hother, hname, htable⟩ := FileSet.exists_of_enumTables hdeclared
    refine Or.inl ⟨d, hd, ?_, hdeclared⟩
    rw [← hname, ← (FileSet.isSound_of_mem_declarations hother).fullName_eq htable]
    exact hlast.holds
  · refine Or.inr ⟨?_, (NameTable.find?_insertAll_of_not_mem hmem).symm.trans h⟩
    rintro ⟨table, htable, hname⟩
    rw [EnumTable.map_fst_entry] at hmem
    exact hmem (List.mem_map.mpr ⟨table, htable, hname⟩)

/-- How the enum that a field refers to, in a message of this load, comes to be superseded by
the one that stands under its name. -/
inductive Supersedes (load : Load) (after : List Load) (reference : String)
    (enum current : EnumTable) : Prop where
  /-- A later load puts in an enum of this name. -/
  | later {other : Load} (mem : other ∈ after) (activates : other.Activates .enum enum.fullName)
  /-- The load itself puts in the other enum.  The set declares it under a name that has other
  dots in front than the reference of the field. -/
  | declared {d : Declaration} (mem : d ∈ load.set.declarations)
    (name : FullName.bare d.name = FullName.bare reference) (dots : d.name ≠ reference)
    (table : load.set.enumTables.find? d.name = some current)

/-- The enum that a field refers to stands under its name, as long as it is not superseded. -/
theorem eq_or_supersedes (hclosed : load.base.Closed) {reference : String} {enum : EnumTable}
    (hreference : (Scope.of load.set load.base).enum? reference = some enum)
    {sets : List FileSet} {current : EnumTable}
    (hcurrent : (load.catalog.afterLoads sets).enum? enum.fullName = some current) :
    current = enum ∨ load.Supersedes (load.catalog.loads sets) reference enum current := by
  have hname := fullName_of_enum? hclosed hreference
  have hbare : FullName.bare enum.fullName = FullName.bare reference := by
    rw [hname, FullName.bare_bare]
  rcases Catalog.enum?_afterLoads_cases hcurrent with ⟨other, hother, hactivates⟩ | hcurrent
  · exact Or.inr (.later hother hactivates)
  rcases enum?_catalog_cases hcurrent with ⟨d, hd, hdeclared, hfound⟩ | ⟨hnot, hbefore⟩
  · by_cases hdots : d.name = reference
    · subst hdots
      have hmeant : (Scope.of load.set load.base).enum? d.name = some current :=
        Option.or_eq_some_iff.mpr (Or.inl hfound)
      exact Or.inl (Option.some.inj (hmeant.symm.trans hreference))
    · exact Or.inr (.declared hd (hdeclared.trans hbare) hdots hfound)
  · left
    rcases Scope.enum?_eq_some hreference with ⟨d, hd, rfl, hdeclared⟩ | hloaded
    · have hsound := FileSet.isSound_of_mem_declarations hd
      exact absurd (activates_iff.mpr
        ⟨d, hd, hsound.kind_eq_enum_iff.mpr ⟨enum, hdeclared⟩, hbare.symm⟩) hnot
    · rw [Catalog.enum?, hbare] at hbefore
      exact Option.some.inj (hbefore.symm.trans hloaded)

end Load

/-! ## Later loads -/

/-- What becomes of the enum that a field of a stored message carries, after the load of the
message and later ones.  The field goes by its enum, and the enum stands under its name
unless it was superseded. -/
def FieldDescriptor.KeepsEnum (catalog : Catalog) (load : Load) (after : List Load)
    (type : MessageTable) (descriptor : FieldDescriptor) (field : FieldTable) : Prop :=
  ∀ enum, field.content = .enum enum → field.GoesBy enum type ∧
    ∃ reference current, descriptor.typeName = some reference ∧
      enum.fullName = FullName.bare reference ∧
      catalog.enum? enum.fullName = some current ∧
      (current = enum ∨ load.Supersedes after reference enum current)

namespace Catalog

/-- Whether every field of a stored message keeps its enum, as its own descriptor in the load
of the message refers to it. -/
def KeepsEnums (catalog : Catalog) (loads : List Load) (table : MessageTable) : Prop :=
  ∃ before load after, loads = before ++ load :: after ∧
    IsLast (fun other => other.fullName = table.fullName) load.messages table ∧
    (∀ later ∈ after, ¬ later.Activates .message table.fullName) ∧
    ∃ file ∈ load.set.files, ∃ origin ∈ file.named,
      origin.HasTable (Scope.of load.set load.base) (file.name.getD "") file.packageName
        file.isProto3 table ∧
      List.Forall₂ (FieldDescriptor.KeepsEnum catalog load after table) origin.message.fields
        table.fields

/-- Every field of a stored message goes by the enum that it carries.  This is the one that
stands under its name, until a later load puts in another one, or when the load of the message
did so under a name with other dots in front. -/
theorem keepsEnum_afterLoads {sets : List FileSet} {name : String} {table : MessageTable}
    (htable : (({} : Catalog).afterLoads sets).message? name = some table) :
    (({} : Catalog).afterLoads sets).KeepsEnums (({} : Catalog).loads sets) table := by
  have hname : table.fullName = FullName.bare name := (afterLoads_closed sets).messages _ _ htable
  obtain ⟨load, ⟨before, after, hloads, -, hlater⟩, hlast⟩ := message?_afterLoads.mp htable
  obtain ⟨earlier, later, -, -, hbase, rfl, hcatalog⟩ := exists_sets_of_loads hloads
  have hclosed : load.base.Closed := hbase ▸ afterLoads_closed earlier
  obtain ⟨file, hfile, origin, horigin, hbuilt⟩ :=
    Scope.exists_origin_of_tables load.built hlast.mem
  refine ⟨before, load, _, hloads, hname ▸ hlast, ?_, file, hfile, origin, horigin, hbuilt, ?_⟩
  · intro other hother h
    rw [Load.activates_iff, hname, FullName.bare_bare, ← Load.activates_iff] at h
    exact hlater other hother h
  · have hfields := (Checked.forall₂_mem_and hbuilt.describes.flip).flip
    refine hfields.imp fun descriptor field ⟨hfield, hdescribes⟩ enum henum => ?_
    obtain ⟨reference, hreference, hfound⟩ := hdescribes.exists_reference henum
    have hfullName := Load.fullName_of_enum? hclosed hfound
    have hknown := (afterLoads_closed sets).fields _ table htable field hfield
    rw [henum] at hknown
    obtain ⟨current, hstored⟩ := Option.isSome_iff_exists.mp hknown
    have hcurrent : (({} : Catalog).afterLoads sets).enum? enum.fullName = some current := by
      rw [enum?, hfullName, FullName.bare_bare, ← hfullName]
      exact hstored
    refine ⟨hdescribes.goesBy henum table, reference, current, hreference, hfullName, hcurrent, ?_⟩
    rw [← hcatalog] at hcurrent
    exact Load.eq_or_supersedes hclosed hfound hcurrent

/-- A message with an enum and a declared default, and a scalar field with a reference that
does not matter.  An enum of another name is loaded later. -/
theorem keepsEnum_afterLoads_other :
    let first : FileSet := ⟨[
      { name := some "a.proto", package := some "p"
        enums := [{ name := some "Color", values := [{ name := some "RED", number := some 3 }] }]
        messages := [
          { name := some "M"
            fields := [
              { name := some "color", number := some 1, type := some 14
                typeName := some ".p.Color", defaultText := some "RED" },
              { name := some "note", number := some 2, type := some 9
                typeName := some "p.Color" }] }] }]⟩
    let second : FileSet := ⟨[
      { name := some "b.proto", package := some "p", enums := [{ name := some "Shape" }] }]⟩
    let catalog := ({} : Catalog).afterLoads [first, second]
    ∃ table, catalog.message? "p.M" = some table ∧
      (∃ field ∈ table.fields, ∃ enum ∈ catalog.enum? "p.Color", field.content = .enum enum ∧
        field.default = some (.enum 3)) ∧
      catalog.KeepsEnums (({} : Catalog).loads [first, second]) table := by
  intro first second catalog
  have hcheck : ∃ table ∈ catalog.message? "p.M", ∃ field ∈ table.fields,
      ∃ enum ∈ catalog.enum? "p.Color", field.content = .enum enum ∧
        field.default = some (.enum 3) := by decide +kernel
  obtain ⟨table, htable, hfield⟩ := hcheck
  exact ⟨table, htable, hfield, keepsEnum_afterLoads htable⟩

/-- A field does not follow an enum that is loaded later under the same name, and without
a dot in front it does not follow the one that is loaded together with it. -/
theorem exists_other_enum :
    let first : FileSet := ⟨[
      { name := some "a.proto"
        enums := [{ name := some "E", values := [{ name := some "A", number := some 0 }] }]
        messages := [
          { name := some "M"
            fields := [{ name := some "e", number := some 1, type := some 14
                         typeName := some ".E" }] }] }]⟩
    let second : FileSet := ⟨[
      { name := some "b.proto"
        enums := [{ name := some "E", values := [{ name := some "B", number := some 1 }] }] }]⟩
    let undotted : FileSet := ⟨[
      { name := some "c.proto"
        enums := [{ name := some "E", values := [{ name := some "C", number := some 2 }] }]
        messages := [
          { name := some "N"
            fields := [{ name := some "e", number := some 1, type := some 14
                         typeName := some "E" }] }] }]⟩
    ∃ old ∈ (({} : Catalog).afterLoads [first]).enum? "E",
      (let catalog := ({} : Catalog).afterLoads [first, second]
        ∃ table ∈ catalog.message? "M", ∃ field ∈ table.fields, field.content = .enum old ∧
          ∃ current ∈ catalog.enum? old.fullName, current ≠ old ∧
            current.numberOf? "B" = some 1 ∧
            ((Message.empty table).setEnumByName "e" "B").isOk = false) ∧
      (let catalog := ({} : Catalog).afterLoads [first, undotted]
        ∃ table ∈ catalog.message? "N", ∃ field ∈ table.fields, field.content = .enum old ∧
          ∃ current ∈ catalog.enum? old.fullName, current ≠ old) := by
  decide +kernel

end Catalog

end ProtoSchema
