import ProtoSchema.Proofs.Catalog.Contents
import ProtoSchema.Proofs.Table.Declared
import ProtoSchema.Proofs.Table.Origin
import ProtoSchema.Proofs.Text.FullName

/-!
# Closed catalogs

In a *closed* catalog every table stands under its own name, and every name that
a field carries leads to a table.  A field that holds a message carries the bare
name of the message, which may be declared in the set of the field or may have
been loaded before.  In the first case the table of the message is put in
together with that of the field, and in the second it was there already and is
replaced at most.

A catalog without tables is closed, and `Closed.addFiles` says that a load keeps a
catalog closed.  So every catalog that loads lead to is closed
(`afterLoads_closed`).
-/

namespace ProtoSchema

open Checked

namespace Catalog

/-- Whether what a field holds is known to a catalog. -/
def Knows (catalog : Catalog) : Content → Prop
  | .scalar _ => True
  | .message target => FullName.bare target = target ∧ ∃ table,
      catalog.messages.find? target = some table ∧ catalog.newMessage target = .ok (.empty table)
  | .enum enum => (catalog.enums.find? enum.fullName).isSome = true

/-- A catalog in which every name leads somewhere. -/
structure Closed (catalog : Catalog) : Prop where
  /-- A message stands under its own name. -/
  messages : ∀ name table, catalog.messages.find? name = some table → table.fullName = name
  /-- An enum stands under its own name. -/
  enums : ∀ name table, catalog.enums.find? name = some table → table.fullName = name
  /-- What a field of a message holds is known. -/
  fields : ∀ name table, catalog.messages.find? name = some table →
    ∀ field ∈ table.fields, catalog.Knows field.content

theorem closed_empty : ({} : Catalog).Closed where
  messages := fun _ _ h => by cases h
  enums := fun _ _ h => by cases h
  fields := fun _ _ h => by cases h

/-! ## What is known -/

/-- A message that is stored under a bare name can be made. -/
theorem knows_message {catalog : Catalog} {target : String}
    (hbare : FullName.bare target = target)
    (hstored : (catalog.messages.find? target).isSome = true) :
    catalog.Knows (.message target) := by
  obtain ⟨table, htable⟩ := Option.isSome_iff_exists.mp hstored
  refine ⟨hbare, table, htable, ?_⟩
  unfold newMessage message?
  rw [hbare, htable]

/-- What is known stays known when names are only added. -/
theorem Knows.mono {catalog catalog' : Catalog} {content : Content} (h : catalog.Knows content)
    (hmessages : ∀ name, (catalog.messages.find? name).isSome = true →
      (catalog'.messages.find? name).isSome = true)
    (henums : ∀ name, (catalog.enums.find? name).isSome = true →
      (catalog'.enums.find? name).isSome = true) : catalog'.Knows content := by
  cases content with
  | scalar kind => trivial
  | message target =>
    obtain ⟨hbare, table, htable, -⟩ := h
    exact knows_message hbare (hmessages target (by rw [htable]; rfl))
  | enum enum => exact henums enum.fullName h

/-! ## One load -/

section Load

variable {catalog : Catalog} {set : FileSet} {files : List FileTable}

/-- A name that means a message is stored after the load. -/
theorem isSome_messages_of_kind? (htables : (Scope.of set catalog).tables = .ok files)
    {name : String} (hkind : (Scope.of set catalog).kind? name = some .message) :
    ((catalog.addFiles files).1.messages.find? (FullName.bare name)).isSome = true := by
  rw [addFiles_fst, NameTable.isSome_find?_insertAll, MessageTable.map_fst_entry]
  rcases Scope.kind?_eq_message hkind with ⟨d, hd, rfl, hmessage⟩ | hloaded
  · exact Or.inl ((Scope.tablesOf htables).mem_messages hd hmessage)
  · exact Or.inr hloaded

/-- An enum that a name means is stored after the load, under the name that the
enum itself has. -/
theorem isSome_enums_of_enum? (hclosed : catalog.Closed)
    (htables : (Scope.of set catalog).tables = .ok files) {name : String} {enum : EnumTable}
    (henum : (Scope.of set catalog).enum? name = some enum) :
    ((catalog.addFiles files).1.enums.find? enum.fullName).isSome = true := by
  rw [addFiles_fst, NameTable.isSome_find?_insertAll, EnumTable.map_fst_entry]
  rcases Scope.enum?_eq_some henum with ⟨d, hd, -, henum⟩ | hloaded
  · obtain ⟨last, hlast, hfullName⟩ := FileSet.exists_find?_enumTables hd henum
    have hmem := (Scope.tablesOf htables).mem_enums hd (by rw [henum]; rfl) hlast
    exact Or.inl (List.mem_map.mpr ⟨last, hmem, hfullName⟩)
  · refine Or.inr ?_
    have hfound : catalog.enums.find? (FullName.bare name) = some enum := hloaded
    rw [hclosed.enums _ _ hfound, hfound]
    rfl

/-- What a field of the set may hold is known after the load. -/
theorem knows_of_holds (hclosed : catalog.Closed)
    (htables : (Scope.of set catalog).tables = .ok files) {field : FieldDescriptor}
    {content : Content} (h : field.Holds (Scope.of set catalog) content) :
    (catalog.addFiles files).1.Knows content := by
  cases h with
  | scalar => trivial
  | enum _ _ henum => exact isSome_enums_of_enum? hclosed htables henum
  | message _ _ _ hkind =>
    exact knows_message (FullName.bare_bare _) (isSome_messages_of_kind? htables hkind)

/-- A load keeps a catalog closed. -/
theorem Closed.addFiles (hclosed : catalog.Closed)
    (htables : (Scope.of set catalog).tables = .ok files) :
    (catalog.addFiles files).1.Closed where
  messages := by
    intro name table h
    rw [addFiles_fst] at h
    rcases NameTable.find?_insertAll_cases h with hnew | hold
    · exact (MessageTable.mem_map_entry.mp hnew).2
    · exact hclosed.messages name table hold
  enums := by
    intro name table h
    rw [addFiles_fst] at h
    rcases NameTable.find?_insertAll_cases h with hnew | hold
    · exact (EnumTable.mem_map_entry.mp hnew).2
    · exact hclosed.enums name table hold
  fields := by
    intro name table h field hfield
    have hcases := h
    rw [addFiles_fst] at hcases
    rcases NameTable.find?_insertAll_cases hcases with hnew | hold
    · have hmem := (MessageTable.mem_map_entry.mp hnew).1
      obtain ⟨descriptor, hholds⟩ := Scope.exists_holds_of_tables htables hmem hfield
      exact knows_of_holds hclosed htables hholds
    · refine (hclosed.fields name table hold field hfield).mono ?_ ?_
      · intro other hother
        rw [addFiles_fst, NameTable.isSome_find?_insertAll]
        exact Or.inr hother
      · intro other hother
        rw [addFiles_fst, NameTable.isSome_find?_insertAll]
        exact Or.inr hother

end Load

/-- Every catalog that loads lead to is closed, whether they succeed or fail. -/
theorem afterLoads_closed (sets : List FileSet) : (({} : Catalog).afterLoads sets).Closed :=
  afterLoads_induction (fun _ _ _ hclosed htables => hclosed.addFiles htables) closed_empty sets

end Catalog

end ProtoSchema
