import ProtoSchema.Proofs.Source.FileModule
import ProtoSchema.Proofs.Source.MapEntries
import ProtoSchema.Proofs.Source.Underscore

/-!
# Where ways lead

A field that refers to a message is rendered as the way to a record.  When source
is generated for a set that is as a compiler writes it (`FileSet.IsRenderable`),
every way leads to the record of the message that the field refers to
(`Scope.landsOn_of_generate`).

The module of a file without a package is named after the file, and the name of a
file need not be an identifier.  A way into such a module leads elsewhere.
-/

namespace ProtoSchema

open Checked

/-- Whether a set is as a compiler writes it, as far as what is rendered depends on
that. -/
structure FileSet.IsRenderable (set : FileSet) : Prop where
  packages : ∀ file ∈ set.files, SchemaName.isPackage file.packageName = true
  /-- No package is a reserved word. -/
  notReserved : ∀ file ∈ set.files, file.packageName ∉ Ident.reservedWords
  messages : ∀ file ∈ set.files, ∀ message ∈ file.allMessages, ∀ name ∈ message.name,
    SchemaName.isIdentifier name = true
  once : set.DeclaresOnce
  entries : set.KeepsEntries

/-- Whether the module of a file has a name that can be read as a part of a path.
It is the name of the file that matters here, for a package is readable. -/
def RenderedFile.IsReadable (file : RenderedFile) : Prop :=
  file.package = "" → (TypePath.plain? file.module).isSome = true

/-- Whether the record of a message stands in a module that can be named. -/
def RenderedFile.CanName (files : List RenderedFile) (target : String) : Prop :=
  ∀ file ∈ files, (∃ record ∈ file.records, record.item.fullName = FullName.bare target) →
    file.IsReadable

/-- Whether a way leads to the record of the message of a certain full name. -/
structure Placed.LandsOn (files : List RenderedFile) (path : Placed TypePath) (target : String) :
    Prop where
  /-- There is such a record. -/
  exists_record : ∃ file ∈ files, ∃ record ∈ file.records,
    record.item.fullName = FullName.bare target
  /-- The way leads to it. -/
  landing : ∀ file ∈ files, ∀ record ∈ file.records,
    record.item.fullName = FullName.bare target → path.item.landing path.around = record.location

namespace Scope

variable {set : FileSet}

/-- A declared message has its home in its file. -/
theorem home?_of_named (hset : set.IsRenderable) {file : FileDescriptor} (hfile : file ∈ set.files)
    {found : NamedMessage} (hfound : found ∈ file.named) (loaded : Catalog) :
    (Scope.of set loaded).home? found.name =
      some ⟨.message, file.packageName, file.name.getD ""⟩ := by
  have hhome := hset.once.find?_homes (FileSet.declaration_mem hfile hfound)
  rw [home?, homes_eq]
  exact congrArg (fun home => Option.or home _) hhome

/-- When nothing was loaded before, a name that means a message is the full name of
one in the set. -/
theorem exists_named_of_kind? {target : String}
    (h : (Scope.of set {}).kind? target = some .message) :
    ∃ file ∈ set.files, ∃ found ∈ file.named, found.name = target := by
  rcases kind?_eq_message h with ⟨d, hd, hname, hkind⟩ | hloaded
  · obtain ⟨file, hfile, found, hfound, rfl⟩ := FileSet.exists_named_of_declaration hd hkind
    exact ⟨file, hfile, found, hfound, hname⟩
  · cases hloaded

/-- The way to a message goes through a module that has a readable name. -/
theorem LeadsTo.isSome_plain?_fileModule {scope : Scope} {file target : String} {depth : Nat}
    {path : TypePath} (h : scope.LeadsTo file depth path target) {home : TypeHome}
    (hhome : scope.home? target = some home)
    (hpackage : SchemaName.isPackage home.package = true)
    (hreserved : home.package ∉ Ident.reservedWords)
    (hreadable : home.package = "" →
      (TypePath.plain? (Naming.fileModule home.package home.file)).isSome = true) :
    (TypePath.plain? (Naming.fileModule home.package home.file)).isSome = true := by
  by_cases hempty : home.package = ""
  · exact hreadable hempty
  · by_cases hunderscore : home.package = "_"
    · -- Then there is no such way.
      have hmodule : Naming.fileModule home.package home.file = "_" := by
        rw [hunderscore]
        rfl
      unfold LeadsTo typePath at h
      rw [hhome] at h
      simp only [Naming.pathFrom, hmodule, TypePath.ofNames?_underscore] at h
      cases h
    · exact Naming.isSome_plain?_fileModule hpackage hempty hreserved hunderscore home.file

/-- The way to a message leads to its record. -/
theorem LeadsTo.landing_eq {scope : Scope} {file target : String} {around : List String}
    {path : TypePath} (h : scope.LeadsTo file around.length path target) {home : TypeHome}
    (hhome : scope.home? target = some home) (hreserved : home.package ∉ Ident.reservedWords)
    (hmodule : (TypePath.plain? (Naming.fileModule home.package home.file)).isSome = true)
    {record : Placed RecordItem} {found : NamedMessage} (hname : found.name = target)
    (hrecord : record.IsRecordOf (Naming.fileModule home.package home.file) home.package found) :
    path.landing around = record.location := by
  have hplain : ∀ name ∈ Naming.pathFrom around.length target home.package home.file,
      (TypePath.plain? name).isSome = true := by
    intro name hmem
    rcases List.mem_append.mp hmem with hmem | hmem
    · rw [List.eq_of_mem_replicate hmem]
      decide +kernel
    · rcases List.mem_cons.mp hmem with rfl | hmem
      · exact hmodule
      · rw [← hname] at hmem
        exact hrecord.readable name hmem
  obtain ⟨found, hfound, hsteps⟩ := TypePath.exists_ofNames? hplain
  unfold LeadsTo typePath at h
  rw [hhome] at h
  simp only [hfound] at h
  cases h
  rw [TypePath.landing_of_steps hsteps (Naming.fileModule_ne_super hreserved home.file),
    hrecord.location, hname]

/-- The way to a message that is rendered for a file leads to its record. -/
theorem landsOn_of_leads (hset : set.IsRenderable) {files : List RenderedFile}
    (hfiles : (Scope.of set {}).rendered = .ok files)
    (hwritable : ∀ file ∈ files, Item.areWritable file.items = true)
    {descriptor : FileDescriptor} (hdescriptor : descriptor ∈ set.files) {rendered : RenderedFile}
    (hrenders : descriptor.Renders (Scope.of set {}) rendered) {path : Placed TypePath}
    {target : String} (htarget : target ∈ descriptor.targets)
    (hleads : (Scope.of set {}).Leads (descriptor.name.getD "") path target)
    (hreadable : RenderedFile.CanName files target) : path.LandsOn files target := by
  obtain ⟨user, huser, hrefers⟩ := FileDescriptor.exists_refers_of_mem_targets htarget
  obtain ⟨tables, htables⟩ := hrenders.tables
  obtain ⟨home, hhome, found, hfound, rfl⟩ :=
    exists_named_of_kind? (descriptor.kind?_of_refers htables huser hrefers)
  constructor
  · obtain ⟨file, hfile, hrendered⟩ := exists_of_mapM_eq_ok hfiles hhome
    have howner : ∀ owner ∈ home.named, owner ∈ set.named :=
      fun owner hmem => FileSet.mem_named.mpr ⟨home, hhome, hmem⟩
    rcases FileDescriptor.exists_record_of_mem_named
        (FileDescriptor.renders_of_rendered hrendered)
        (fun owner hmem => hset.entries.flat owner (howner owner hmem)) hfound with
      ⟨record, hrecord, hname⟩ | ⟨owner, hmem, hentry⟩
    · exact ⟨file, hfile, record, hrecord, hname⟩
    · exact absurd hentry (hset.entries.not_mem_entryNames hset.once hdescriptor huser
        (howner owner hmem) hrefers)
  · intro file hfile record hrecord hname
    obtain ⟨other, hother, hrendered⟩ := exists_item_of_mapM_eq_ok hfiles hfile
    have hother' := FileDescriptor.renders_of_rendered hrendered
    -- The record is that of some message, whose full name is then the one referred to.
    obtain ⟨named, hnamed, hstands⟩ := FileDescriptor.exists_named_of_mem_records hother'
      (hwritable file hfile) (hset.packages other hother) (hset.messages other hother) hrecord
    have hdotted := FileDescriptor.dotted_of_mem_named (hset.packages home hhome)
      (hset.messages home hhome) hfound
    have hdotted' := FileDescriptor.dotted_of_mem_named (hset.packages other hother)
      (hset.messages other hother) hnamed
    have hsame : named.name = found.name := by
      refine FullName.Dotted.eq_of_bare_eq hdotted' hdotted ?_
      rw [← hstands.fullName, hname]
    have hhome? := home?_of_named hset hother hnamed {}
    rw [hsame] at hhome?
    rw [hother'.module] at hstands
    have hmodule := hleads.isSome_plain?_fileModule hhome? (hset.packages other hother)
      (hset.notReserved other hother) (by
        intro hempty
        rw [← hother'.module]
        exact hreadable file hfile ⟨record, hrecord, hname⟩ (hother'.package.trans hempty))
    exact hleads.landing_eq hhome? (hset.notReserved other hother) hmodule hsame hstands

/-- Every way in rendered source leads to the record of the message that it was
rendered for, when the module of the record can be named. -/
theorem landsOn_of_generate (hset : set.IsRenderable) {style : SourceStyle}
    {generated : List GeneratedFile} (h : (Scope.of set {}).generate style = .ok generated) :
    ∃ files, (Scope.of set {}).rendered = .ok files ∧
      List.Forall₂ style.Writes generated files ∧
      List.Forall₂ (fun descriptor file =>
        List.Forall₂ (fun path target => RenderedFile.CanName files target →
          path.LandsOn files target) file.typePaths descriptor.targets) set.files files := by
  obtain ⟨files, hfiles, hwritten⟩ := exists_rendered_of_generate h
  refine ⟨files, hfiles, hwritten, ?_⟩
  have hall := (List.forall₂_and_left _ _).mpr
    ⟨fun descriptor hdescriptor => hdescriptor, mapM_eq_ok.mp hfiles⟩
  refine hall.imp fun descriptor file hfile => ?_
  obtain ⟨hdescriptor, hrendered⟩ := hfile
  have hrenders := FileDescriptor.renders_of_rendered hrendered
  have hleads : List.Forall₂ ((Scope.of set {}).Leads (descriptor.name.getD "")) file.typePaths
      descriptor.targets := FileDescriptor.forall₂_typePaths hrenders.items
  have hpaths := (List.forall₂_and_left _ _).mpr ⟨fun target htarget => htarget, hleads.flip⟩
  refine (hpaths.imp fun target path hpath => ?_).flip
  exact landsOn_of_leads hset hfiles (fun found hfound =>
    SourceStyle.areWritable_of_mem hwritten hfound) hdescriptor hrenders hpath.1 hpath.2

/-- A map to a message without a package, a member of a oneof, and a field that leads
out of the message around it. -/
theorem landsOn_of_generate_nested :
    let set : FileSet := ⟨[
      { name := some "shop.proto", package := some "shop.v1", dialect := some "proto3"
        messages := [
          { name := some "Order"
            fields := [
              { name := some "lines", number := some 1, label := some 3, type := some 11
                typeName := some ".shop.v1.Order.LinesEntry" },
              { name := some "draft", number := some 2, type := some 11
                typeName := some ".shop.v1.Order.Draft", oneofIndex := some 0 }]
            nested := [
              { name := some "Draft"
                fields := [
                  { name := some "order", number := some 1, type := some 11
                    typeName := some ".shop.v1.Order" }] },
              { name := some "LinesEntry"
                fields := [
                  { name := some "key", number := some 1, type := some 9 },
                  { name := some "value", number := some 2, type := some 11
                    typeName := some ".Line" }]
                options := some ⟨some true⟩ }]
            oneofs := [{ name := some "state" }] }] },
      { name := some "line.proto", messages := [{ name := some "Line" }] }]⟩
    set.files.map FileDescriptor.targets =
        [[".Line", ".shop.v1.Order.Draft", ".shop.v1.Order"], []] ∧
      ∃ generated files, (Scope.of set {}).generate .flat = .ok generated ∧
        (Scope.of set {}).rendered = .ok files ∧
        List.Forall₂ SourceStyle.flat.Writes generated files ∧
        List.Forall₂ (fun descriptor file =>
          List.Forall₂ (fun path target => RenderedFile.CanName files target →
            path.LandsOn files target) file.typePaths descriptor.targets) set.files files := by
  intro set
  refine ⟨by decide +kernel, ?_⟩
  have hset : set.IsRenderable :=
    { packages := by decide +kernel
      notReserved := by decide +kernel
      messages := by decide +kernel
      once := (by decide +kernel : (set.declarations.map Declaration.name).Nodup)
      entries :=
        { flat := by decide +kernel
          own := by decide +kernel } }
  have hruns : ((Scope.of set {}).generate .flat).isOk = true := by decide +kernel
  obtain ⟨generated, h⟩ := exists_eq_ok_of_isOk hruns
  obtain ⟨files, hfiles, hwritten, hlands⟩ := landsOn_of_generate hset h
  exact ⟨generated, files, h, hfiles, hwritten, hlands⟩

/-- A file may be named so that the way into its module leads up further. -/
theorem exists_not_landsOn :
    let set : FileSet := ⟨[
      { name := some "super::x.proto"
        messages := [
          { name := some "M" },
          { name := some "N"
            fields := [
              { name := some "f", number := some 1, label := some 3, type := some 11
                typeName := some ".N.FEntry" }]
            nested := [
              { name := some "FEntry"
                fields := [
                  { name := some "key", number := some 1, label := some 1, type := some 9 },
                  { name := some "value", number := some 2, label := some 1, type := some 11
                    typeName := some ".M" }]
                options := some ⟨some true⟩ }] }] }]⟩
    set.IsRenderable ∧ (∀ file ∈ set.files, ∀ name ∈ file.typeNames, FullName.Dotted name) ∧
      ∃ generated files, (Scope.of set {}).generate .flat = .ok generated ∧
        (Scope.of set {}).rendered = .ok files ∧
        List.Forall₂ SourceStyle.flat.Writes generated files ∧
        ¬ List.Forall₂ (fun descriptor file =>
          List.Forall₂ (Placed.LandsOn files) file.typePaths descriptor.targets)
            set.files files := by
  intro set
  have hset : set.IsRenderable :=
    { packages := by decide +kernel
      notReserved := by decide +kernel
      messages := by decide +kernel
      once := (by decide +kernel : (set.declarations.map Declaration.name).Nodup)
      entries :=
        { flat := by decide +kernel
          own := by decide +kernel } }
  refine ⟨hset, by decide +kernel, ?_⟩
  have hruns : ((Scope.of set {}).generate .flat).isOk = true := by decide +kernel
  obtain ⟨generated, h⟩ := exists_eq_ok_of_isOk hruns
  obtain ⟨files, hfiles, hwritten⟩ := exists_rendered_of_generate h
  refine ⟨generated, files, h, hfiles, hwritten, ?_⟩
  have hplaces : (Scope.of set {}).rendered.toOption.map (fun files =>
      files.map fun file => (file.typePaths.map fun path => path.item.landing path.around,
        file.records.map fun record => (record.item.fullName, record.location))) =
      some [([["x", "M"]], [("M", ["super::x", "M"]), ("N", ["super::x", "N"])])] := by
    decide +kernel
  rw [hfiles] at hplaces
  obtain ⟨file, rfl, hfile⟩ := List.map_eq_singleton_iff.mp (Option.some.inj hplaces)
  obtain ⟨hpaths, hrecords⟩ := Prod.mk.inj hfile
  obtain ⟨path, hpath, hlanding⟩ := List.map_eq_singleton_iff.mp hpaths
  obtain ⟨record, others, hcons, hrecord, -⟩ := List.map_eq_cons_iff.mp hrecords
  obtain ⟨hname, hlocation⟩ := Prod.mk.inj hrecord
  intro hlands
  have htargets : set.files.map FileDescriptor.targets = [[".M"]] := by decide +kernel
  obtain ⟨descriptor, hdescriptor, htarget⟩ := List.map_eq_singleton_iff.mp htargets
  rw [hdescriptor, List.forall₂_cons, hpath, htarget, List.forall₂_cons] at hlands
  have hsame := hlands.1.1.landing file (.head _) record (hcons ▸ .head _) (by
    rw [hname]
    decide +kernel)
  rw [hlanding, hlocation] at hsame
  exact absurd hsame (by decide)

end Scope

end ProtoSchema
