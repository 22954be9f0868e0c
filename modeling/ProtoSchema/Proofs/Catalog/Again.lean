import ProtoSchema.Proofs.Catalog.Incremental
import ProtoSchema.Proofs.Catalog.Shadowing

/-!
# Loading a set again

A set that was just loaded finds itself in the catalog.  What meant a message means one
again (`kind?_again`), and its field only carries the name.  What meant an enum of the set
does so again.  Only where the set refers to an enum that it does not declare under this name
is the catalog asked for one, and when the load left that alone the same tables are built
(`tables_again`).  With one dot in front of all names it does (`enum?_again`).

The same tables are then put in once more, which changes nothing, be there several under
one name or not (`addFiles_addFiles_fst`).  The outcome is what it was (`load_again`).
-/

namespace ProtoSchema

open Checked

theorem FileDescriptor.mem_typeNames_of_mem_enumNames {file : FileDescriptor} {name : String}
    (h : name ∈ file.enumNames) : name ∈ file.typeNames := by
  obtain ⟨message, hmessage, h⟩ := List.mem_flatMap.mp h
  obtain ⟨field, hfield, hname⟩ := List.mem_filterMap.mp h
  unfold FieldDescriptor.enumName? at hname
  split at hname
  · exact mem_typeNames hmessage hfield hname
  · cases hname

namespace Catalog

variable {catalog : Catalog} {set : FileSet} {files : List FileTable}

/-- A name that means a message means one when more tables are put in. -/
theorem kind?_again (files : List FileTable) {name : String}
    (h : (Scope.of set catalog).kind? name = some .message) :
    (Scope.of set (catalog.addFiles files).1).kind? name = some .message := by
  have hkind : ∀ loaded, (Scope.of set loaded).kind? name =
      ((set.homes.find? name).map TypeHome.kind).or
        (((Scope.of set loaded).loadedHome? name).map TypeHome.kind) := fun _ => Option.map_or
  rw [hkind, Option.or_eq_some_iff] at h ⊢
  refine h.imp_right fun ⟨hset, hloaded⟩ => ⟨hset, ?_⟩
  rw [Scope.map_kind_loadedHome?] at hloaded ⊢
  refine if_pos ?_
  rw [message?, Scope.of, addFiles_fst, NameTable.isSome_find?_insertAll]
  right
  split at hloaded
  · next hmessage => exact hmessage
  · split at hloaded
    · cases hloaded
    · cases hloaded

/-- A set that was just loaded has the same tables again, when the load left alone the enums
under the names that the set declares none under. -/
theorem tables_again
    (hopen : ∀ name ∈ set.openEnumNames,
      (catalog.addFiles files).1.enum? name = catalog.enum? name)
    (htables : (Scope.of set catalog).tables = .ok files) :
    (Scope.of set (catalog.addFiles files).1).tables = .ok files := by
  refine mapM_eq_ok.mpr ((forall₂_mem_and (mapM_eq_ok.mp htables)).imp fun file found hfound => ?_)
  obtain ⟨hfile, hfound⟩ := hfound
  refine FileDescriptor.tables_of_holds ?_ ?_ ?_ hfound
  · intro name _ hknown
    rw [Scope.hasFile, Bool.or_eq_true] at hknown ⊢
    refine hknown.imp_right fun hloaded => ?_
    rw [Scope.of, containsFile_addFiles htables, Bool.or_eq_true]
    exact Or.inr hloaded
  · intro message hmessage field hfield content hholds
    cases hholds with
    | scalar htype hscalar => exact .scalar htype hscalar
    | message htype hmessage hname hkind =>
      exact .message htype hmessage hname (kind?_again files hkind)
    | @enum name _ htype hname henum =>
      refine .enum htype hname ?_
      rw [← henum]
      refine Scope.enum?_congr fun hnone => hopen name (FileSet.mem_openEnumNames hfile ?_ hnone)
      exact FileDescriptor.mem_enumNames hmessage hfield
        (FieldDescriptor.enumName?_eq_some htype hname)
  · exact fun _ _ => rfl

/-- A load of a well-named set leaves alone the enums that it declares none for. -/
theorem enum?_again (hnamed : set.WellNamed) (htables : (Scope.of set catalog).tables = .ok files) :
    ∀ name ∈ set.openEnumNames, (catalog.addFiles files).1.enum? name = catalog.enum? name := by
  intro name hname
  obtain ⟨hwanted, hopen⟩ := List.mem_filter.mp hname
  obtain ⟨file, hfile, hwanted⟩ := List.mem_flatMap.mp hwanted
  have hdotted := hnamed.references file hfile name
    (FileDescriptor.mem_typeNames_of_mem_enumNames hwanted)
  rw [enum?_addFiles (fun _ => hnamed.dotted) htables hdotted, Option.isNone_iff_eq_none.mp hopen,
    Option.none_or]

/-- Tables that are put in a second time change nothing. -/
theorem addFiles_addFiles_fst (catalog : Catalog) (files : List FileTable) :
    ((catalog.addFiles files).1.addFiles files).1 = (catalog.addFiles files).1 := by
  rw [addFiles_fst (catalog.addFiles files).1, addFiles_fst]
  simp only [NameTable.insertAll_insertAll]

/-- A set that was loaded can be loaded again.  This reports the same and leads to the same
catalog. -/
theorem load_again (hnamed : set.WellNamed) {loaded : Loaded}
    (hload : catalog.load set = .ok loaded) :
    ∃ again, loaded.catalog.load set = .ok again ∧ again.report = loaded.report ∧
      again.catalog = loaded.catalog := by
  obtain ⟨files, htables, rfl⟩ := load_eq_ok.mp hload
  have hagain := tables_again (enum?_again hnamed htables) htables
  exact ⟨_, load_eq_ok.mpr ⟨files, hagain, rfl⟩, rfl, addFiles_addFiles_fst catalog files⟩

/-- A set with two messages and two enums of one name, on top of a catalog that has a type
of the other kind under each of these names and an older message under one. -/
theorem load_again_duplicates :
    let values (name : String) : List EnumValueDescriptor :=
      [{ name := some name, number := some 0 }]
    let old : FileSet := ⟨[
      { name := some "m.proto", package := some "p", messages := [{ name := some "M" }] },
      { name := some "e.proto", package := some "p", messages := [{ name := some "E" }]
        enums := [{ name := some "M", values := values "OLD" }] }]⟩
    let message (name : String) : MessageDescriptor :=
      { name := some "M"
        fields := [
          { name := some name, number := some 1, type := some 11, typeName := some ".p.M" },
          { name := some "e", number := some 2, type := some 14, typeName := some ".p.E"
            defaultText := some "LAST" },
          { name := some "stale", number := some 3, type := some 14, typeName := some ".p.M" }] }
    let set : FileSet := ⟨[
      { name := some "a.proto", package := some "p", messages := [message "a"]
        enums := [{ name := some "E", values := values "FIRST" }] },
      { name := some "b.proto", package := some "p", dependencies := ["a.proto", "e.proto"]
        messages := [message "b"], enums := [{ name := some "E", values := values "LAST" }] }]⟩
    let catalog := ({} : Catalog).afterLoads [old]
    ∃ loaded, catalog.load set = .ok loaded ∧ loaded.report.messages = ["p.M", "p.M"] ∧
      ∃ again, loaded.catalog.load set = .ok again ∧ again.report = loaded.report ∧
        again.catalog = loaded.catalog := by
  intro values old message set catalog
  have hnamed : set.WellNamed :=
    { packages := by decide +kernel
      messages := by decide +kernel
      references := by decide +kernel
      enums := by decide +kernel }
  have hruns : ((catalog.load set).map fun loaded => loaded.report.messages) =
      .ok ["p.M", "p.M"] := by decide +kernel
  obtain ⟨loaded, hload, hmessages⟩ := map_eq_ok.mp hruns
  exact ⟨loaded, hload, hmessages, load_again hnamed hload⟩

end Catalog

end ProtoSchema
