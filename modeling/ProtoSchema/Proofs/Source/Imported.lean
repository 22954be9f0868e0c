import ProtoSchema.Proofs.Catalog.Incremental
import ProtoSchema.Proofs.Resolve.Reachable
import ProtoSchema.Proofs.Source.Congruence
import ProtoSchema.Proofs.Source.MapEntries

/-!
# Source for files whose imports were loaded before

What a file imports may be in the same set as the file, or may have been loaded before.
The source is the same (`Catalog.generate_append`).

Two things are looked up for it.  A reference to an import is at home in the same place
in both cases, be it found in the set or in the catalog (`Catalog.home?_second`).  The
graph of references, though, has the imports in one case only.  They refer to each other
and to what was loaded before them, and never to the files that import them
(`Catalog.ahead_referenceGraph`).  So no circle goes through both, and the same fields are
cyclic.
-/

namespace ProtoSchema

open Checked

/-- A reference in the graph is to a message that the field holds. -/
theorem FieldDescriptor.target?_of_reference? {field : FieldDescriptor} {reference : Reference}
    (h : field.reference? = some reference) : field.target? = some reference.target := by
  unfold reference? at h
  split at h
  · next hkind =>
    obtain ⟨hkind, -⟩ := Bool.and_eq_true_iff.mp hkind
    have htarget : field.target? = field.typeName := by
      rcases Bool.or_eq_true_iff.mp hkind with hmessage | hgroup
      · exact target?_of_message (beq_iff_eq.mp hmessage) (Or.inl rfl)
      · exact target?_of_message (beq_iff_eq.mp hgroup) (Or.inr rfl)
    split at h
    · next hname =>
      cases h
      rw [htarget, hname]
    · cases h
  · cases h

namespace FileSet

variable {set : FileSet}

/-- The messages of the graph of a set are declared. -/
theorem declares_of_has {name : String} (h : set.referenceGraph.Has name) : set.Declares name := by
  obtain ⟨references, hreferences⟩ := Option.isSome_iff_exists.mp h
  obtain ⟨found, hfound, rfl, -⟩ := exists_of_find?_referenceGraph hreferences
  obtain ⟨file, hfile, hnamed⟩ := mem_named.mp (mem_named_of_mem_withoutEntries hfound)
  exact ⟨_, declaration_mem hfile hnamed, rfl⟩

/-- When the tables of a set are built, its messages refer to messages that it declares, or
that were loaded before. -/
theorem kind?_of_refers {catalog : Catalog} {files : List FileTable}
    (h : (Scope.of set catalog).tables = .ok files) {source target : String}
    (hrefers : set.referenceGraph.Refers source target) :
    (Scope.of set catalog).kind? target = some .message := by
  obtain ⟨references, hreferences, reference, hreference, rfl⟩ := hrefers
  obtain ⟨found, hfound, -, rfl⟩ := exists_of_find?_referenceGraph hreferences
  obtain ⟨field, hfield, hfieldReference⟩ := List.mem_filterMap.mp hreference
  obtain ⟨file, hfile, hnamed⟩ := mem_named.mp (mem_named_of_mem_withoutEntries hfound)
  obtain ⟨tables, -, htables⟩ := exists_of_mapM_eq_ok h hfile
  exact FileDescriptor.kind?_of_target? htables
    (FileDescriptor.mem_allMessages_of_mem_named hnamed) hfield
    (FieldDescriptor.target?_of_reference? hfieldReference)

end FileSet

namespace Catalog

variable {catalog : Catalog} {first second : FileSet} {files : List FileTable}

/-- The messages of the first part do not refer to those of the second. -/
theorem ahead_referenceGraph (honce : (first ++ second).DeclaresOnce)
    (hnew : (first ++ second).NewIn catalog)
    (htables : (Scope.of first catalog).tables = .ok files) :
    second.referenceGraph.Ahead (first ++ second).referenceGraph where
  find := by
    intro name references hfound
    rw [FileSet.find?_referenceGraph_append, hfound, Option.some_or]
  refers := by
    intro source target hrefers hhas
    refine Option.ne_none_iff_isSome.mp fun hnone => ?_
    have hfirst : first.referenceGraph.Refers source target := by
      obtain ⟨references, hreferences, hreference⟩ := hrefers
      rw [FileSet.find?_referenceGraph_append, hnone, Option.none_or] at hreferences
      exact ⟨references, hreferences, hreference⟩
    have hsecond := FileSet.declares_of_has hhas
    rcases Scope.kind?_eq_message (FileSet.kind?_of_refers htables hfirst) with
      ⟨d, hd, hname, -⟩ | hloaded
    · exact honce.not_declares ⟨d, hd, hname⟩ hsecond
    · obtain ⟨table, htable⟩ := Option.isSome_iff_exists.mp hloaded
      obtain ⟨d, hd, hname⟩ := hsecond
      exact hnew.not_declares (containsType_of_message? htable)
        ⟨d, FileSet.mem_declarations_append.mpr (Or.inr hd), hname⟩

/-- The same fields of the second part are cyclic in both ways. -/
theorem sameCycles_second (honce : (first ++ second).DeclaresOnce)
    (hnew : (first ++ second).NewIn catalog) (htables : (Scope.of first catalog).tables = .ok files)
    (loaded : Catalog) {found : NamedMessage} (hfound : found ∈ second.withoutEntries) :
    (Scope.of (first ++ second) catalog).SameCycles (Scope.of second loaded) found.name := by
  intro field
  rw [Scope.isCyclic, Scope.isCyclic, Scope.cyclic_eq, Scope.cyclic_eq]
  exact (ahead_referenceGraph honce hnew htables).isCyclic_eq
    (FileSet.isSome_find?_referenceGraph hfound) field

/-- The source for a file of the second part, or the fault in it, is the same whether the
first part is in the same set or was loaded before. -/
theorem generate_append (hnamed : (first ++ second).WellNamed)
    (honce : (first ++ second).DeclaresOnce) (hnew : (first ++ second).NewIn catalog)
    {loaded : Loaded} (hfirst : catalog.load first = .ok loaded) {file : FileDescriptor}
    (hfile : file ∈ second.files) (style : SourceStyle) :
    file.generate (Scope.of (first ++ second) catalog) style =
      file.generate (Scope.of second loaded.catalog) style := by
  obtain ⟨files, htables, rfl⟩ := load_eq_ok.mp hfirst
  refine FileDescriptor.generate_congr (tables_second hnamed honce hnew htables hfile) ?_ ?_ style
  · intro message hmessage field hfield target htarget
    have hreference : FullName.Dotted target :=
      hnamed.references file (List.mem_append_right _ hfile) target
        (FileDescriptor.mem_typeNames hmessage hfield htarget)
    exact home?_second hnamed.dotted_left honce.left hnew.left htables hreference
  · intro found hfound
    exact sameCycles_second honce hnew htables _ (List.mem_flatMap.mpr ⟨file, hfile, hfound⟩)

/-- A file with a cyclic field that refers to a message with a cyclic field, loaded before
or in the same set. -/
theorem generate_append_cyclic :
    let first : FileSet := ⟨[
      { name := some "a.proto", package := some "p"
        messages := [{
          name := some "A"
          fields := [{ name := some "next", number := some 1, type := some 11
                       typeName := some ".p.A" }] }] }]⟩
    let file : FileDescriptor :=
      { name := some "b.proto", package := some "q", dependencies := ["a.proto"]
        messages := [{
          name := some "B"
          fields := [
            { name := some "a", number := some 1, type := some 11, typeName := some ".p.A" },
            { name := some "b", number := some 2, type := some 11, typeName := some ".q.B" }] }] }
    let second : FileSet := ⟨[file]⟩
    ∃ loaded generated, ({} : Catalog).load first = .ok loaded ∧
      file.generate (Scope.of second loaded.catalog) .flat = .ok generated ∧
      file.generate (Scope.of (first ++ second) {}) .flat = .ok generated := by
  intro first file second
  have hnamed : (first ++ second).WellNamed :=
    { packages := by decide +kernel
      messages := by decide +kernel
      references := by decide +kernel
      enums := by decide +kernel }
  have honce : (first ++ second).DeclaresOnce :=
    (by decide +kernel : ((first ++ second).declarations.map Declaration.name).Nodup)
  have hnew : ∀ d ∈ (first ++ second).declarations, ({} : Catalog).containsType d.name = false := by
    decide +kernel
  have hruns : (({} : Catalog).load first >>= fun loaded =>
      file.generate (Scope.of second loaded.catalog) .flat).isOk = true := by
    decide +kernel
  obtain ⟨generated, hgenerated⟩ := exists_eq_ok_of_isOk hruns
  obtain ⟨loaded, hfirst, hsecond⟩ := bind_eq_ok.mp hgenerated
  refine ⟨loaded, generated, hfirst, hsecond, ?_⟩
  rw [generate_append hnamed honce hnew hfirst (.head _), hsecond]

end Catalog

end ProtoSchema
