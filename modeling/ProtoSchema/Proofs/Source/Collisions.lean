import ProtoSchema.Proofs.Source.SitesApart

/-!
# Types that are rendered into one place

The way from a type to where it is rendered forgets: the dots of a package become
underscores, the names of messages become modules in snake case, the names of oneofs
become enums in Pascal case, and four words get an underscore at the end.  So two
types may be rendered into one place (`Scope.exists_colliding_types`).

A `TypeSite.Clash` says what two such types have in common.  The sites of two types
differ in place, in kind or in name.  Going through what is forgotten shows that two
types have one location only where they clash (`TypeSite.clash_of_location_eq`,
`Scope.clash_of_generate`).
-/

namespace ProtoSchema

open Checked

/-! ## Clashes -/

namespace TypeSite

/-- What two types that are rendered into one place have in common. -/
inductive Clash (first second : TypeSite) : Prop where
  /-- Their packages differ, and the modules of their files do not. -/
  | packages :
    first.place.package ≠ second.place.package →
    first.place.module = second.place.module →
    Clash first second
  /-- They are inside two messages that are declared beside each other and have one
  module. -/
  | modules {outer firstInner secondInner : List String} {firstName secondName : String} :
    first.place.package = second.place.package →
    first.place.around = outer ++ firstName :: firstInner →
    second.place.around = outer ++ secondName :: secondInner →
    firstName ≠ secondName →
    Naming.fieldName firstName = Naming.fieldName secondName →
    Clash first second
  /-- Beside each other, a word that is never written raw and the same word with an
  underscore. -/
  | reserved {word : String} :
    first.place = second.place →
    first.isOneof = false →
    second.isOneof = false →
    word ∈ Ident.neverRaw →
    (first.name = word ∧ second.name = word ++ "_") ∨
      (second.name = word ∧ first.name = word ++ "_") →
    Clash first second
  /-- Two oneofs of a message. -/
  | oneofs :
    first.place = second.place →
    first.isOneof = true →
    second.isOneof = true →
    first.name ≠ second.name →
    Naming.variantName first.name = Naming.variantName second.name →
    Clash first second
  /-- A oneof of a message, and a message or an enum inside of it. -/
  | oneofAndType :
    first.place = second.place →
    first.isOneof ≠ second.isOneof →
    first.identifier = second.identifier →
    Clash first second

end TypeSite

/-- Names that differ although their modules are the same differ first in two messages
that are declared beside each other. -/
theorem Naming.exists_of_map_fieldName_eq {first second : List String}
    (h : first.map fieldName = second.map fieldName) (hne : first ≠ second) :
    ∃ outer firstName firstInner secondName secondInner,
      first = outer ++ firstName :: firstInner ∧ second = outer ++ secondName :: secondInner ∧
        firstName ≠ secondName ∧ fieldName firstName = fieldName secondName := by
  induction first generalizing second with
  | nil =>
    rw [List.map_nil, eq_comm, List.map_eq_nil_iff] at h
    exact absurd h.symm hne
  | cons name first ih =>
    cases second with
    | nil => cases h
    | cons other second =>
      rw [List.map_cons, List.map_cons, List.cons.injEq] at h
      by_cases hname : name = other
      · subst hname
        obtain ⟨outer, firstName, firstInner, secondName, secondInner, rfl, rfl, hnames⟩ :=
          ih h.2 fun heq => hne (congrArg (name :: ·) heq)
        exact ⟨name :: outer, firstName, firstInner, secondName, secondInner, rfl, rfl, hnames⟩
      · exact ⟨[], name, first, other, second, rfl, rfl, hname, h.1⟩

namespace TypeSite

variable {first second : TypeSite}

/-- Types in one place that have one identifier clash. -/
theorem clash_of_place_eq (hapart : first.Apart second)
    (hfirst : first.isOneof = false → SchemaName.isIdentifier first.name = true)
    (hsecond : second.isOneof = false → SchemaName.isIdentifier second.name = true)
    (hplace : first.place = second.place) (h : first.identifier = second.identifier) :
    first.Clash second := by
  by_cases hkind : first.isOneof = second.isOneof
  · have hname := hapart hplace hkind
    cases honeof : first.isOneof with
    | true =>
      have honeof' : second.isOneof = true := hkind.symm.trans honeof
      rw [identifier, identifier, if_pos honeof, if_pos honeof'] at h
      exact .oneofs hplace honeof honeof' hname h
    | false =>
      have honeof' : second.isOneof = false := hkind.symm.trans honeof
      rw [identifier, identifier, honeof, honeof'] at h
      rcases Naming.reserved_of_escape_eq (hfirst honeof) (hsecond honeof') h hname with
        ⟨hword, heq⟩ | ⟨hword, heq⟩
      · exact .reserved hplace honeof honeof' hword (Or.inl ⟨rfl, heq⟩)
      · exact .reserved hplace honeof honeof' hword (Or.inr ⟨rfl, heq⟩)
  · exact .oneofAndType hplace hkind h

/-- Types that have one location clash. -/
theorem clash_of_location_eq (hapart : first.Apart second)
    (hfirst : first.isOneof = false → SchemaName.isIdentifier first.name = true)
    (hsecond : second.isOneof = false → SchemaName.isIdentifier second.name = true)
    (h : first.location = second.location) : first.Clash second := by
  obtain ⟨hmodules, hidentifier⟩ := List.append_singleton_inj.mp h
  obtain ⟨hmodule, haround⟩ := List.cons.inj hmodules
  by_cases hpackage : first.place.package = second.place.package
  · by_cases hsame : first.place.around = second.place.around
    · refine clash_of_place_eq hapart hfirst hsecond ?_ hidentifier
      exact SchemaPlace.ext hpackage hmodule hsame
    · obtain ⟨outer, firstName, firstInner, secondName, secondInner, hleft, hright, hne, heq⟩ :=
        Naming.exists_of_map_fieldName_eq haround hsame
      exact .modules hpackage hleft hright hne heq
  · exact .packages hpackage hmodule

end TypeSite

/-! ## Sets -/

namespace Scope

/-- In generated source two types stand in one place only where they clash. -/
theorem clash_of_generate {set : FileSet} {loaded : Catalog} (hnames : set.NamesApart)
    {style : SourceStyle} {generated : List GeneratedFile}
    (h : (Scope.of set loaded).generate style = .ok generated) :
    ∃ files, (Scope.of set loaded).rendered = .ok files ∧
      List.Forall₂ style.Writes generated files ∧
      (files.flatMap RenderedFile.types).map Placed.typeLocation =
        set.typeSites.map TypeSite.location ∧
      set.typeSites.Pairwise fun first second =>
        first.location = second.location → first.Clash second := by
  obtain ⟨files, hfiles, hwritten⟩ := exists_rendered_of_generate h
  refine ⟨files, hfiles, hwritten, map_typeLocation_eq hfiles, ?_⟩
  have hnamed : ∀ file ∈ set.files, ∀ message ∈ file.allMessages,
      ∀ position ∈ message.realOneofs, ∃ name, message.oneofName? position = some name := by
    intro file hfile message hmessage position hposition
    obtain ⟨rendered, -, hrendered⟩ := exists_of_mapM_eq_ok hfiles hfile
    obtain ⟨tables, htables⟩ := (FileDescriptor.renders_of_rendered hrendered).tables
    exact FileDescriptor.exists_oneofName_of_tables htables hmessage hposition
  refine (hnames.pairwise_apart hnamed).imp_of_mem fun hfirst hsecond hapart hlocation => ?_
  exact TypeSite.clash_of_location_eq hapart (hnames.isIdentifier_of_mem_typeSites hfirst)
    (hnames.isIdentifier_of_mem_typeSites hsecond) hlocation

/-- A drawing has a oneof, an enum and a message inside it, and a layer of the same
name as the one beside it. -/
theorem clash_of_generate_drawing :
    let set : FileSet := ⟨[
      { name := some "drawing.proto", package := some "art.draw", dialect := some "proto3"
        messages := [
          { name := some "Drawing"
            fields := [
              { name := some "text", number := some 1, type := some 9, oneofIndex := some 0 }]
            nested := [{ name := some "Layer" }]
            enums := [
              { name := some "Color", values := [{ name := some "RED", number := some 0 }] }]
            oneofs := [{ name := some "kind" }] },
          { name := some "Layer" }] }]⟩
    set.typeSites.map TypeSite.location =
        [["art_draw", "Drawing"], ["art_draw", "drawing", "Kind"], ["art_draw", "drawing", "Color"],
          ["art_draw", "drawing", "Layer"], ["art_draw", "Layer"]] ∧
      set.NamesApart ∧
      ∃ generated files, (Scope.of set {}).generate .flat = .ok generated ∧
        (Scope.of set {}).rendered = .ok files ∧
        List.Forall₂ SourceStyle.flat.Writes generated files ∧
        (files.flatMap RenderedFile.types).map Placed.typeLocation =
          set.typeSites.map TypeSite.location ∧
        set.typeSites.Pairwise fun first second =>
          first.location = second.location → first.Clash second := by
  intro set
  have hnames : set.NamesApart :=
    { types := by unfold FileSet.DeclaresOnce; decide +kernel
      oneofs := by decide +kernel
      messageNames := by decide +kernel
      enumNames := by decide +kernel }
  have hruns : ((Scope.of set {}).generate .flat).isOk = true := by decide +kernel
  obtain ⟨generated, h⟩ := exists_eq_ok_of_isOk hruns
  obtain ⟨files, hfiles⟩ := clash_of_generate hnames h
  exact ⟨by decide +kernel, hnames, generated, files, h, hfiles⟩

/-- Two packages, two messages with messages inside, a reserved word, and two oneofs
with an enum beside them: types are rendered into one place each time. -/
theorem exists_colliding_types :
    let set : FileSet := ⟨[
      { name := some "first.proto", package := some "a.b", dialect := some "proto3"
        messages := [
          { name := some "X" },
          { name := some "FooBar", nested := [{ name := some "N" }] },
          { name := some "foo_bar", nested := [{ name := some "N" }] },
          { name := some "Self" },
          { name := some "Self_" },
          { name := some "M"
            fields := [
              { name := some "x", number := some 1, type := some 9, oneofIndex := some 0 },
              { name := some "y", number := some 2, type := some 9, oneofIndex := some 1 }]
            enums := [
              { name := some "Kind", values := [{ name := some "A", number := some 0 }] }]
            oneofs := [{ name := some "kind" }, { name := some "kind_" }] }] },
      { name := some "second.proto", package := some "a_b", dialect := some "proto3"
        messages := [{ name := some "X" }] }]⟩
    set.NamesApart ∧
      (∀ file ∈ set.files, file.packageName ≠ "" ∧
        SchemaName.isPackage file.packageName = true) ∧
      ∃ generated files, (Scope.of set {}).generate .flat = .ok generated ∧
        (Scope.of set {}).rendered = .ok files ∧
        List.Forall₂ SourceStyle.flat.Writes generated files ∧
        ¬ ((files.flatMap RenderedFile.types).map Placed.typeLocation).Nodup ∧
        ∀ location ∈
            [["a_b", "X"], ["a_b", "foo_bar", "N"], ["a_b", "Self_"], ["a_b", "m", "Kind"]],
          1 < ((files.flatMap RenderedFile.types).map Placed.typeLocation).count location := by
  intro set
  have hnames : set.NamesApart :=
    { types := by unfold FileSet.DeclaresOnce; decide +kernel
      oneofs := by decide +kernel
      messageNames := by decide +kernel
      enumNames := by decide +kernel }
  have hruns : ((Scope.of set {}).generate .flat).isOk = true := by decide +kernel
  obtain ⟨generated, h⟩ := exists_eq_ok_of_isOk hruns
  obtain ⟨files, hfiles, hwritten⟩ := exists_rendered_of_generate h
  refine ⟨hnames, by decide +kernel, generated, files, h, hfiles, hwritten, ?_⟩
  rw [map_typeLocation_eq hfiles]
  exact ⟨by decide +kernel, by decide +kernel⟩

end Scope

end ProtoSchema
