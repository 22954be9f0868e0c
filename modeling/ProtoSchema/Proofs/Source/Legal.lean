import ProtoSchema.Proofs.Catalog.History
import ProtoSchema.Proofs.Source.LegalNames
import ProtoSchema.Proofs.Source.SitesApart
import ProtoSchema.Proofs.Table.Origin

/-!
# Source of legal schemas

A schema is legal when a compiler would accept its names and has filled in what source
needs of it (`FileDescriptor.IsLegal`).  The names that its source is made of are legal
in turn, with one exception: the module of a file is legal only where `ModuleIsFree`.

When all modules are free, nothing is left at which source could fail.  Every name on
the way to a message is legal, be the message in the set or loaded before
(`Scope.isLegalWay_of_kind?`).  What was loaded is known by the invariant
`Catalog.LeadsLegally`, which every load of a legal set keeps.  So a legal set whose
tables can be built has source (`FileSet.generate_legal`).
-/

namespace ProtoSchema

open Checked

/-! ## Legal schemas -/

/-- A message with names of the usual form, which has a key and a value when it is a map
entry. -/
structure MessageDescriptor.IsLegal (message : MessageDescriptor) : Prop where
  name : ∀ name ∈ message.name, SchemaName.isName name = true
  fields : ∀ field ∈ message.fields, ∀ name ∈ field.name, SchemaName.isName name = true
  oneofs : ∀ oneof ∈ message.oneofs, ∀ name ∈ oneof.name, SchemaName.isName name = true
  mapEntry : message.isMapEntry = true →
    (message.fieldNumbered? 1).isSome = true ∧ (message.fieldNumbered? 2).isSome = true

/-- An enum with names of the usual form, and with values that are complete. -/
structure EnumDescriptor.IsLegal (enum : EnumDescriptor) : Prop where
  name : ∃ name ∈ enum.name, SchemaName.isName name = true
  nonempty : enum.values ≠ []
  values : ∀ value ∈ enum.values, value.number.isSome = true ∧
    ∃ name ∈ value.name, SchemaName.isName name = true

instance (message : MessageDescriptor) : Decidable message.IsLegal :=
  decidable_of_iff
    ((∀ name ∈ message.name, SchemaName.isName name = true) ∧
      (∀ field ∈ message.fields, ∀ name ∈ field.name, SchemaName.isName name = true) ∧
      (∀ oneof ∈ message.oneofs, ∀ name ∈ oneof.name, SchemaName.isName name = true) ∧
      (message.isMapEntry = true →
        (message.fieldNumbered? 1).isSome = true ∧ (message.fieldNumbered? 2).isSome = true))
    ⟨fun ⟨name, fields, oneofs, mapEntry⟩ => ⟨name, fields, oneofs, mapEntry⟩,
      fun h => ⟨h.name, h.fields, h.oneofs, h.mapEntry⟩⟩

instance (enum : EnumDescriptor) : Decidable enum.IsLegal :=
  decidable_of_iff
    ((∃ name ∈ enum.name, SchemaName.isName name = true) ∧ enum.values ≠ [] ∧
      ∀ value ∈ enum.values, value.number.isSome = true ∧
        ∃ name ∈ value.name, SchemaName.isName name = true)
    ⟨fun ⟨name, nonempty, values⟩ => ⟨name, nonempty, values⟩,
      fun h => ⟨h.name, h.nonempty, h.values⟩⟩

/-- A file that is named after an identifier and has nothing but names of the usual form
in it. -/
structure FileDescriptor.IsLegal (file : FileDescriptor) : Prop where
  name : ∃ stem, SchemaName.isIdentifier stem = true ∧ ∃ name ∈ file.name, Path.IsProto stem name
  package : SchemaName.isPackage file.packageName = true
  messages : ∀ message ∈ file.allMessages, message.IsLegal
  enums : ∀ enum ∈ file.allEnums, enum.IsLegal

/-- A set of such files. -/
def FileSet.IsLegal (set : FileSet) : Prop := ∀ file ∈ set.files, file.IsLegal

/-- Whether the module of a file is free of what would have to be escaped. -/
structure FileDescriptor.ModuleIsFree (file : FileDescriptor) : Prop where
  package : file.packageName ∉ "_" :: Ident.reservedWords
  name : file.packageName = "" → ∀ name ∈ file.name, ¬ Path.IsProto "_" name

/-- Whether all modules of a set are. -/
def FileSet.ModulesAreFree (set : FileSet) : Prop := ∀ file ∈ set.files, file.ModuleIsFree

/-- The module of a legal file is a legal name exactly when it is free. -/
theorem FileDescriptor.IsLegal.isLegal_fileModule_iff {file : FileDescriptor} (h : file.IsLegal) :
    Ident.isLegal (Naming.fileModule file.packageName (file.name.getD "")) = true ↔
      file.ModuleIsFree := by
  obtain ⟨stem, hstem, name, hname, hproto⟩ := h.name
  rw [Option.mem_def.mp hname, Option.getD_some,
    Naming.isLegal_fileModule_iff h.package hproto hstem]
  have hsingle : Path.IsProto "_" name ↔ stem = "_" := by
    constructor
    · intro hunderscore
      have hfound := Path.fileStem_of_isProto hunderscore (by decide)
      rw [Path.fileStem_of_isProto hproto hstem] at hfound
      exact Option.some.inj hfound
    · rintro rfl
      exact hproto
  constructor
  · rintro ⟨hpackage, hne⟩
    refine ⟨hpackage, fun hempty other hother => ?_⟩
    rw [Option.mem_unique hother hname, hsingle]
    exact hne hempty
  · intro hfree
    exact ⟨hfree.package, fun hempty heq => hfree.name hempty name hname (hsingle.mpr heq)⟩

/-! ## Ways -/

/-- Whether the way to a type of a file goes by legal names only. -/
def Naming.IsLegalWay (fullName package file : String) : Prop :=
  ∀ name ∈ fileModule package file :: pathInFile fullName package, Ident.isLegal name = true

/-- The names on the way from the module of a file to one of its messages are legal. -/
theorem MessageDescriptor.isLegal_of_mem_pathInFile {package outer : String}
    {around : List String} {message : MessageDescriptor}
    (hsurrounds : Naming.Surrounds package around outer)
    (haround : ∀ name ∈ around, SchemaName.isName name = true)
    (hnames : ∀ inner ∈ message.preorder, ∀ name ∈ inner.name, SchemaName.isName name = true)
    {found : NamedMessage} (hfound : found ∈ message.named outer) {fullName : String}
    (hbare : FullName.bare fullName = FullName.bare found.name) :
    ∀ name ∈ Naming.pathInFile fullName package, Ident.isLegal name = true := by
  induction message using nesting generalizing outer around with
  | step message ih =>
    cases hname : message.name with
    | none =>
      rw [named_of_name_eq_none hname] at hfound
      cases hfound
    | some ownName =>
      have hown := hnames message (mem_preorder_self message) ownName hname
      have hidentifier := (SchemaName.isName_iff.mp hown).1
      rw [named_of_name_eq_some hname] at hfound
      rcases List.mem_cons.mp hfound with rfl | hfound
      · rw [hsurrounds.pathInFile_of_bare_eq hidentifier hbare]
        intro part hpart
        rcases List.mem_append.mp hpart with hpart | hpart
        · obtain ⟨surrounding, hsurrounding, rfl⟩ := List.mem_map.mp hpart
          exact Naming.isLegal_fieldName (haround surrounding hsurrounding)
        · rw [List.mem_singleton.mp hpart]
          exact Naming.isLegal_typeName hown
      · obtain ⟨inner, hinner, hfound⟩ := List.mem_flatMap.mp hfound
        refine ih inner hinner (hsurrounds.asOuter_inside hidentifier) ?_
          (fun other hother => hnames other (mem_preorder_of_nested hinner hother)) hfound
        intro name hmem
        rcases List.mem_append.mp hmem with hmem | hmem
        · exact haround name hmem
        · rw [List.mem_singleton.mp hmem]
          exact hown

/-- The way to a message of a legal file goes by legal names. -/
theorem FileDescriptor.IsLegal.isLegalWay {file : FileDescriptor} (h : file.IsLegal)
    (hfree : file.ModuleIsFree) {found : NamedMessage} (hfound : found ∈ file.named)
    {fullName : String} (hbare : FullName.bare fullName = FullName.bare found.name) :
    Naming.IsLegalWay fullName file.packageName (file.name.getD "") := by
  intro name hname
  rcases List.mem_cons.mp hname with rfl | hname
  · exact h.isLegal_fileModule_iff.mpr hfree
  · obtain ⟨message, hmessage, hfound⟩ := List.mem_flatMap.mp hfound
    have hnames : ∀ inner ∈ message.preorder, ∀ name ∈ inner.name,
        SchemaName.isName name = true := fun inner hinner =>
      (h.messages inner (mem_allMessages.mpr ⟨message, hmessage, hinner⟩)).name
    exact message.isLegal_of_mem_pathInFile (Naming.surrounds_typePrefix h.package)
      (fun _ hnone => nomatch hnone) hnames hfound hbare name hname

namespace Catalog

/-- Whether the ways to all loaded messages go by legal names. -/
def LeadsLegally (catalog : Catalog) : Prop :=
  ∀ name table, catalog.message? name = some table →
    Naming.IsLegalWay name table.package table.file

/-- The tables of a legal set may be put in. -/
theorem LeadsLegally.addFiles {catalog : Catalog} (h : catalog.LeadsLegally) {set : FileSet}
    (hset : set.IsLegal) (hfree : set.ModulesAreFree) {base : Catalog} {files : List FileTable}
    (hfiles : (Scope.of set base).tables = .ok files) :
    (catalog.addFiles files).1.LeadsLegally := by
  intro name table htable
  rw [message?, addFiles_fst] at htable
  rcases NameTable.find?_insertAll_cases htable with hput | hbefore
  · obtain ⟨hput, hname⟩ := MessageTable.mem_map_entry.mp hput
    obtain ⟨file, hfile, origin, horigin, hbuilt⟩ := Scope.exists_origin_of_tables hfiles hput
    have hhome : table.home = ⟨.message, file.packageName, file.name.getD ""⟩ := hbuilt.home.symm
    obtain ⟨-, hpackage, hfileName⟩ := TypeHome.mk.inj hhome
    rw [hpackage, hfileName]
    exact (hset file hfile).isLegalWay (hfree file hfile) horigin
      (hname.symm.trans hbuilt.fullName)
  · exact h name table hbefore

/-- So legal sets may be loaded one after the other. -/
theorem LeadsLegally.afterLoads {catalog : Catalog} (h : catalog.LeadsLegally)
    {sets : List FileSet} (hsets : ∀ set ∈ sets, set.IsLegal)
    (hfree : ∀ set ∈ sets, set.ModulesAreFree) : (catalog.afterLoads sets).LeadsLegally := by
  induction sets generalizing catalog with
  | nil => exact h
  | cons set sets ih =>
    rw [afterLoads_cons]
    refine ih ?_ (fun other hother => hsets other (.tail set hother))
      (fun other hother => hfree other (.tail set hother))
    cases htables : (Scope.of set catalog).tables with
    | error failure => rwa [afterLoad_of_error htables]
    | ok files =>
      rw [afterLoad_of_ok htables]
      exact h.addFiles (hsets set (.head sets)) (hfree set (.head sets)) htables

theorem leadsLegally_empty : ({} : Catalog).LeadsLegally := fun _ _ h => nomatch h

end Catalog

/-! ## Scopes -/

namespace Scope

variable {set : FileSet} {loaded : Catalog}

/-- Where a name means a message, the way to it goes by legal names. -/
theorem isLegalWay_of_kind? (hset : set.IsLegal) (hfree : set.ModulesAreFree)
    (hloaded : loaded.LeadsLegally) {name : String}
    (h : (Scope.of set loaded).kind? name = some .message) :
    ∃ home, (Scope.of set loaded).home? name = some home ∧
      Naming.IsLegalWay name home.package home.file := by
  obtain ⟨home, hhome, hkind⟩ := Option.map_eq_some_iff.mp h
  refine ⟨home, hhome, ?_⟩
  rcases Option.or_eq_some_iff.mp hhome with hdeclared | ⟨-, hbefore⟩
  · obtain ⟨d, hd, rfl, rfl⟩ := FileSet.exists_of_homes hdeclared
    obtain ⟨file, hfile, found, hfound, rfl⟩ := FileSet.exists_named_of_declaration hd hkind
    exact (hset file hfile).isLegalWay (hfree file hfile) hfound rfl
  · rw [loadedHome?_eq] at hbefore
    rcases Option.or_eq_some_iff.mp hbefore with hmessage | ⟨-, henum⟩
    · obtain ⟨table, htable, rfl⟩ := Option.map_eq_some_iff.mp hmessage
      exact hloaded name table htable
    · obtain ⟨table, -, rfl⟩ := Option.map_eq_some_iff.mp henum
      cases hkind

/-- A way that goes by legal names can be read. -/
theorem yields_typePath_of_isLegalWay {scope : Scope} {name : String} {home : TypeHome}
    (hhome : scope.home? name = some home)
    (hway : Naming.IsLegalWay name home.package home.file) (P : Failure → Prop) (file : String)
    (depth : Nat) :
    Yields P (fun path => path.hasLines = true) (scope.typePath file depth name) := by
  have hplain : ∀ part ∈ Naming.pathFrom depth name home.package home.file,
      (TypePath.plain? part).isSome = true := by
    intro part hpart
    rcases List.mem_append.mp hpart with hpart | hpart
    · rw [List.eq_of_mem_replicate hpart]
      decide +kernel
    · exact Ident.isSome_plain?_of_isLegal (hway part hpart)
  obtain ⟨path, hpath, -⟩ := TypePath.exists_ofNames? hplain
  unfold typePath
  rw [hhome]
  simp only [hpath]
  exact TypePath.hasLines_of_ofNames? hplain hpath

end Scope

/-! ## Source -/

/-- Nothing about a legal enum is at fault. -/
theorem EnumDescriptor.IsLegal.mayFailBy {enum : EnumDescriptor} (h : enum.IsLegal)
    (P : Failure → Prop) (file : String) : enum.MayFailBy P file where
  unnamed hnone := by
    obtain ⟨name, hname, -⟩ := h.name
    rw [hnone] at hname
    cases hname
  name name hname := by
    obtain ⟨other, hother, hlegal⟩ := h.name
    rw [Option.mem_unique hname hother]
    exact Naming.mayFailBy_of_isName hlegal P
  nonempty hnone := absurd hnone h.nonempty
  values value hvalue name hname := by
    obtain ⟨-, other, hother, hlegal⟩ := h.values value hvalue
    rw [Option.mem_unique hname hother]
    exact Naming.mayFailBy_of_isName hlegal P
  complete value hvalue := by
    obtain ⟨hnumber, name, hname, -⟩ := h.values value hvalue
    exact .inl ⟨Option.isSome_of_mem hname, hnumber⟩

namespace FileDescriptor

variable {scope : Scope} {file : FileDescriptor} {tables : FileTable}

/-- Nothing about a message of a legal file is at fault, once the tables were built and
when the messages that it refers to are on legal ways. -/
theorem IsLegal.mayFailBy (h : file.IsLegal) (htables : file.tables scope = .ok tables)
    (hways : ∀ name, scope.kind? name = some .message →
      ∃ home, scope.home? name = some home ∧ Naming.IsLegalWay name home.package home.file)
    (P : Failure → Prop) {message : MessageDescriptor} (hmessage : message ∈ file.allMessages) :
    message.MayFailBy P scope tables.file where
  unnamed hnone := by
    obtain ⟨_, name, _, hname, -⟩ := exists_messageTable_of_tables htables hmessage
    rw [hnone] at hname
    cases hname
  name name hname := Naming.mayFailBy_of_isName ((h.messages message hmessage).name name hname) P
  fields field hfield := by
    obtain ⟨table, htable⟩ := exists_hasTable_of_tables htables hmessage hfield
    constructor
    · rw [htable.name, Option.getD_some]
      exact Naming.mayFailBy_of_isName
        ((h.messages message hmessage).fields field hfield _ htable.name) P
    · refine (FieldDescriptor.holds_of_content htable.content).typeMayFailBy
        fun name _ hkind depth => ?_
      obtain ⟨home, hhome, hway⟩ := hways name hkind
      exact (Scope.yields_typePath_of_isLegalWay hhome hway P _ depth).imp fun _ hlines _ => hlines
  oneofs position hposition := by
    obtain ⟨name, hname⟩ := exists_oneofName_of_tables htables hmessage hposition
    obtain ⟨oneof, honeof, hdeclared⟩ := Option.bind_eq_some_iff.mp hname
    rw [hname, Option.getD_some]
    exact Naming.mayFailBy_of_isName
      ((h.messages message hmessage).oneofs oneof (List.mem_of_getElem? honeof) name hdeclared) P
  mapEntry hentry := .inl ((h.messages message hmessage).mapEntry hentry)
  enums enum henum := by
    have hmem : enum ∈ file.allEnums :=
      List.mem_append_right _ (List.mem_flatMap.mpr ⟨message, hmessage, henum⟩)
    exact (h.enums enum hmem).mayFailBy P _

/-- So the file has source. -/
theorem IsLegal.exists_generate (h : file.IsLegal) (htables : file.tables scope = .ok tables)
    (hways : ∀ name, scope.kind? name = some .message →
      ∃ home, scope.home? name = some home ∧ Naming.IsLegalWay name home.package home.file)
    (style : SourceStyle) : ∃ generated, file.generate scope style = .ok generated := by
  have hyields := yields_generate htables (P := fun _ => False)
    (fun message hmessage => h.mayFailBy htables hways _ hmessage)
    (fun enum henum => (h.enums enum (List.mem_append_left _ henum)).mayFailBy _ _) style
  obtain ⟨generated, hgenerated, -⟩ := hyields.exists_ok
  exact ⟨generated, hgenerated⟩

/-- Source belongs into the module of its file. -/
theorem module_of_generate {style : SourceStyle} {generated : GeneratedFile}
    (h : file.generate scope style = .ok generated) :
    generated.module = Naming.fileModule file.packageName (file.name.getD "") := by
  obtain ⟨tables, htables, h⟩ := bind_eq_ok.mp h
  obtain ⟨items, -, h⟩ := bind_eq_ok.mp h
  obtain ⟨source, -, h⟩ := bind_eq_ok.mp h
  obtain ⟨name, parts, hname, -, -, rfl⟩ := tables_eq_ok htables
  cases h
  rw [hname]
  rfl

end FileDescriptor

/-- **Legal schemas have source.**  The module of a legal file is a legal name exactly when
it is free.  When the tables of a legal set can be built, on top of legal sets with free
modules, the set has source whose modules are legal names exactly when its modules are
free. -/
theorem FileSet.generate_legal {set : FileSet} (hset : set.IsLegal) :
    (∀ file ∈ set.files,
      (Ident.isLegal (Naming.fileModule file.packageName (file.name.getD "")) = true ↔
        file.ModuleIsFree)) ∧
    ∀ before : List FileSet, (∀ earlier ∈ before, earlier.IsLegal ∧ earlier.ModulesAreFree) →
      ∀ tables, (Scope.of set (({} : Catalog).afterLoads before)).tables = .ok tables →
        ∀ style, (∃ generated,
            (Scope.of set (({} : Catalog).afterLoads before)).generate style = .ok generated ∧
            ∀ file ∈ generated, Ident.isLegal file.module = true) ↔
          set.ModulesAreFree := by
  refine ⟨fun file hfile => (hset file hfile).isLegal_fileModule_iff, ?_⟩
  intro before hbefore tables htables style
  constructor
  · rintro ⟨generated, hgenerated, hmodules⟩ file hfile
    obtain ⟨source, hsource, hfileSource⟩ := exists_of_mapM_eq_ok hgenerated hfile
    have hmodule := hmodules source hsource
    rw [FileDescriptor.module_of_generate hfileSource] at hmodule
    exact (hset file hfile).isLegal_fileModule_iff.mp hmodule
  · intro hfree
    have hloaded := Catalog.leadsLegally_empty.afterLoads
      (fun earlier hearlier => (hbefore earlier hearlier).1)
      (fun earlier hearlier => (hbefore earlier hearlier).2)
    have hfiles : ∀ file ∈ set.files, ∃ generated,
        file.generate (Scope.of set (({} : Catalog).afterLoads before)) style = .ok generated := by
      intro file hfile
      obtain ⟨fileTables, -, hfileTables⟩ := exists_of_mapM_eq_ok htables hfile
      exact (hset file hfile).exists_generate hfileTables
        (fun name hkind => Scope.isLegalWay_of_kind? hset hfree hloaded hkind) style
    obtain ⟨generated, hall⟩ := exists_forall₂_of_forall hfiles
    have hgenerated := mapM_eq_ok.mpr hall
    refine ⟨generated, hgenerated, fun source hsource => ?_⟩
    obtain ⟨file, hfile, hfileSource⟩ := exists_item_of_mapM_eq_ok hgenerated hsource
    rw [FileDescriptor.module_of_generate hfileSource]
    exact (hset file hfile).isLegal_fileModule_iff.mpr (hfree file hfile)

/-- Reserved words as names of files, messages, fields, oneofs, enums and values, and as
parts of packages.  One message is in a set that was loaded before. -/
theorem FileSet.generate_legal_reserved :
    let before : FileSet := ⟨[
      { name := some "lib/common.proto", package := some "common.type"
        messages := [{ name := some "Self"
                       fields := [{ name := some "crate", number := some 1, type := some 9 }] }] }]⟩
    let set : FileSet := ⟨[
      { name := some "type.proto", dependencies := ["lib/common.proto"]
        messages := [
          { name := some "Order"
            fields := [
              { name := some "fn", number := some 1, label := some 3, type := some 11
                typeName := some ".Order.FnEntry" },
              { name := some "match", number := some 2, type := some 11
                typeName := some ".Order.Match", oneofIndex := some 0 },
              { name := some "super", number := some 3, type := some 11
                typeName := some ".common.type.Self" }]
            oneofs := [{ name := some "_type" }]
            nested := [
              { name := some "FnEntry"
                fields := [{ name := some "key", number := some 1, type := some 9 },
                           { name := some "value", number := some 2, type := some 14
                             typeName := some ".Order.impl" }]
                options := some ⟨some true⟩ },
              { name := some "Match", nested := [{ name := some "super" }] }]
            enums := [{ name := some "impl", values := [⟨some "_2nd", some 0⟩] }] }] },
      { name := some "dir/_.proto", package := some "a.mod"
        messages := [
          { name := some "M"
            fields := [{ name := some "m", number := some 1, type := some 11
                         typeName := some ".Order.Match.super" }] }] }]⟩
    set.IsLegal ∧ before.IsLegal ∧ before.ModulesAreFree ∧
      (∃ tables, (Scope.of set (({} : Catalog).afterLoads [before])).tables = .ok tables) ∧
      ∀ style, ∃ generated,
        (Scope.of set (({} : Catalog).afterLoads [before])).generate style = .ok generated ∧
        ∀ file ∈ generated, Ident.isLegal file.module = true := by
  intro before set
  have hset : set.IsLegal := by
    intro file hfile
    rcases List.mem_cons.mp hfile with rfl | hfile
    · exact ⟨⟨"type", by decide, _, rfl, .alone⟩, by decide +kernel, by decide +kernel,
        by decide +kernel⟩
    · rw [List.mem_singleton.mp hfile]
      exact ⟨⟨"_", by decide, _, rfl, .inside "dir"⟩, by decide +kernel, by decide +kernel,
        by decide +kernel⟩
  have hbefore : before.IsLegal := by
    intro file hfile
    rw [List.mem_singleton.mp hfile]
    exact ⟨⟨"common", by decide, _, rfl, .inside "lib"⟩, by decide +kernel, by decide +kernel,
      by decide +kernel⟩
  obtain ⟨hmodules, hsource⟩ := generate_legal hset
  have hfreeSet : set.ModulesAreFree := by
    have hlegal : ∀ file ∈ set.files, Ident.isLegal
        (Naming.fileModule file.packageName (file.name.getD "")) = true := by decide +kernel
    exact fun file hfile => (hmodules file hfile).mp (hlegal file hfile)
  have hfreeBefore : before.ModulesAreFree := by
    have hlegal : ∀ file ∈ before.files, Ident.isLegal
        (Naming.fileModule file.packageName (file.name.getD "")) = true := by decide +kernel
    exact fun file hfile => (hbefore file hfile).isLegal_fileModule_iff.mp (hlegal file hfile)
  have hbuilds : (Scope.of set (({} : Catalog).afterLoads [before])).tables.isOk = true := by
    decide +kernel
  obtain ⟨tables, htables⟩ := exists_eq_ok_of_isOk hbuilds
  refine ⟨hset, hbefore, hfreeBefore, ⟨tables, htables⟩, fun style => ?_⟩
  refine (hsource [before] (fun earlier hearlier => ?_) tables htables style).mpr hfreeSet
  rw [List.mem_singleton.mp hearlier]
  exact ⟨hbefore, hfreeBefore⟩

/-- A package that is a reserved word.  The set is legal and its tables can be built, but
the module is no legal name, and a way through it cannot be read. -/
theorem FileSet.exists_reserved_module :
    let set : FileSet := ⟨[
      { name := some "p.proto", package := some "type"
        messages := [
          { name := some "M"
            fields := [{ name := some "f", number := some 1, label := some 1, type := some 11
                         typeName := some ".type.N" }] },
          { name := some "N" }] }]⟩
    set.IsLegal ∧ (Scope.of set {}).tables.isOk = true ∧
      (∀ style, (Scope.of set {}).generate style = .error (.badTypePath "super::type::N")) ∧
      Ident.isLegal (Naming.fileModule "type" "p.proto") = false := by
  intro set
  refine ⟨fun file hfile => ?_, by decide +kernel, fun style => ?_, by decide +kernel⟩
  · rw [List.mem_singleton.mp hfile]
    exact ⟨⟨"p", by decide, _, rfl, .alone⟩, by decide +kernel, by decide +kernel,
      by decide +kernel⟩
  · have hfault : ((Scope.of set {}).generate style).map (fun _ => ()) =
        .error (.badTypePath "super::type::N") := by
      cases style <;> decide +kernel
    cases hsource : (Scope.of set {}).generate style with
    | error failure =>
      rw [hsource] at hfault
      cases hfault
      rfl
    | ok generated =>
      rw [hsource] at hfault
      cases hfault

end ProtoSchema
