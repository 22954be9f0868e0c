import Mathlib.Data.List.Nodup
import ProtoSchema.Proofs.Catalog.Again
import ProtoSchema.Proofs.Catalog.Kinds
import ProtoSchema.Proofs.Table.Same

/-!
# Reported replacements

A load reports a type when it takes the place of one that is not the same.  In a set that
names its types once, no type that is put in takes the place of another one of the set.  So
each is compared with what the catalog had before the load, and nothing else matters
(`Reports.foldl_snd`, `replaced_addFiles`).

Enums are compared as they are.  Messages are compared with their defaults as numbers.  A
default that only changes the sign of a zero is not reported, and a message with a NaN for a
default is reported whenever it is loaded again (`exists_replacement_by_same`).  Nothing
else is reported when a set is loaded a second time (`replaced_of_load`).
-/

namespace ProtoSchema

/-- How a message is reported that takes the place of another. -/
def MessageTable.replacement (file : String) (table : MessageTable) : Replacement :=
  ⟨.message, table.fullName, file⟩

/-- How an enum is reported that takes the place of another. -/
def EnumTable.replacement (file : String) (table : EnumTable) : Replacement :=
  ⟨.enum, table.fullName, file⟩

/-! ## Lists -/

/-- One item for each one that passes a test, and none for the others. -/
theorem flatMap_ite {α β : Type} (p : α → Bool) (f : α → β) (items : List α) :
    (items.flatMap fun item => if p item then [f item] else []) = (items.filter p).map f := by
  induction items with
  | nil => rfl
  | cons item items ih =>
    rw [List.flatMap_cons, ih]
    by_cases h : p item = true
    · rw [if_pos h, List.filter_cons_of_pos h, List.map_cons, List.singleton_append]
    · rw [if_neg h, List.filter_cons_of_neg h, List.nil_append]

/-- What is made of some items and named like them has the names of these items. -/
theorem map_filterMap_sublist {α β : Type} {f : α → Option β} {key : β → String}
    {name : α → String} {items : List α} (h : ∀ a ∈ items, ∀ b, f a = some b → key b = name a) :
    ((items.filterMap f).map key).Sublist (items.map name) := by
  induction items with
  | nil => exact .slnil
  | cons a items ih =>
    have hrest := ih fun other hother => h other (.tail _ hother)
    cases hfound : f a with
    | none =>
      rw [List.filterMap_cons_none hfound]
      exact hrest.cons _
    | some b =>
      rw [List.filterMap_cons_some hfound, List.map_cons, List.map_cons, h a (.head _) b hfound]
      exact hrest.cons_cons _

/-! ## Tables under different names -/

section Names

variable {set : FileSet} {catalog : Catalog} {files : List FileTable}

/-- No two messages of a set that names its types once are stored under one name. -/
theorem FileSet.NamesTypesOnce.nodup_messages (honce : set.NamesTypesOnce)
    (htables : (Scope.of set catalog).tables = .ok files) :
    ((files.flatMap FileTable.messages).map MessageTable.fullName).Nodup := by
  rw [(Scope.tablesOf htables).messages.nodup_iff, ← List.map_id (List.filterMap _ _)]
  refine honce.sublist (map_filterMap_sublist fun d _ name hname => ?_)
  unfold Declaration.messageName? at hname
  split at hname
  · exact (Option.some.inj hname).symm
  · cases hname

/-- No two enums of a set that names its types once are stored under one name. -/
theorem FileSet.NamesTypesOnce.nodup_enums (honce : set.NamesTypesOnce)
    (htables : (Scope.of set catalog).tables = .ok files) :
    ((files.flatMap FileTable.enums).map EnumTable.fullName).Nodup := by
  rw [((Scope.tablesOf htables).enums.map EnumTable.fullName).nodup_iff]
  refine honce.sublist (map_filterMap_sublist fun d hd table htable => ?_)
  obtain ⟨_, -, hfound⟩ := Option.bind_eq_some_iff.mp htable
  obtain ⟨d', hd', hname, hdeclared⟩ := FileSet.exists_of_enumTables hfound
  rw [(FileSet.isSound_of_mem_declarations hd').fullName_eq hdeclared, hname]
  rfl

end Names

namespace Catalog

variable {catalog : Catalog} {set : FileSet} {files : List FileTable}

/-! ## What is reported -/

/-- Whether a message takes the place of one that is not the same.  It is the same when it
is equal to it up to the signs of zero defaults, and no default is a NaN. -/
def replacesMessage (catalog : Catalog) (table : MessageTable) : Bool :=
  (catalog.messages.find? table.fullName).any fun old => old.hasNaN || old.plain != table.plain

/-- Whether an enum takes the place of a different one. -/
def replacesEnum (catalog : Catalog) (table : EnumTable) : Bool :=
  (catalog.enums.find? table.fullName).any fun old => old != table

/-- The types of a file that take the place of ones that are not the same. -/
def replacedBy (catalog : Catalog) (tables : FileTable) : List Replacement :=
  (tables.messages.filter catalog.replacesMessage).map (MessageTable.replacement tables.file) ++
    (tables.enums.filter catalog.replacesEnum).map (EnumTable.replacement tables.file)

/-- When no item of a list changes what is reported of a later one, every item is reported
as if it were the only one. -/
theorem Reports.foldl_snd {α : Type}
    {step : Catalog × List Replacement → α → Catalog × List Replacement} (h : Reports step)
    {items : List α}
    (hapart : items.Pairwise fun a b => ∀ catalog,
      (step ((step (catalog, []) a).1, []) b).2 = (step (catalog, []) b).2)
    (catalog : Catalog) :
    (items.foldl step (catalog, [])).2 = items.flatMap fun item => (step (catalog, []) item).2 := by
  induction items generalizing catalog with
  | nil => rfl
  | cons item items ih =>
    obtain ⟨hitem, hitems⟩ := List.pairwise_cons.mp hapart
    have hstate : step (catalog, []) item =
        ((step (catalog, []) item).1, (step (catalog, []) item).2) := rfl
    rw [List.foldl_cons, hstate, h.foldl, List.flatMap_cons, ih hitems]
    exact congrArg _ (List.flatMap_congr fun other hother => hitem other hother catalog)

theorem addMessage_snd (file : String) (catalog : Catalog) (table : MessageTable) :
    (addMessage file (catalog, []) table).2 =
      if catalog.replacesMessage table then [table.replacement file] else [] := by
  have hdiffers : (catalog.messages.find? table.fullName).any (fun old => !old.same table) =
      catalog.replacesMessage table := by
    refine congrArg (Option.any · _) (funext fun old => ?_)
    rw [Bool.eq_iff_iff, Bool.not_eq_true', ← Bool.not_eq_true, MessageTable.same_iff,
      Bool.or_eq_true, bne_iff_ne, not_and_or, Bool.not_eq_false]
  rw [← hdiffers]
  rfl

theorem addEnum_snd (file : String) (catalog : Catalog) (table : EnumTable) :
    (addEnum file (catalog, []) table).2 =
      if catalog.replacesEnum table then [table.replacement file] else [] := rfl

/-- Messages of different names are reported one by one. -/
theorem foldl_addMessage_snd (file : String) {tables : List MessageTable}
    (hnames : (tables.map MessageTable.fullName).Nodup) (catalog : Catalog) :
    (tables.foldl (addMessage file) (catalog, [])).2 =
      (tables.filter catalog.replacesMessage).map (MessageTable.replacement file) := by
  rw [← flatMap_ite]
  simp only [← addMessage_snd]
  refine (reports_addMessage file).foldl_snd ?_ catalog
  refine (List.pairwise_map.mp hnames).imp fun {a b} hne catalog => ?_
  have hfind : (addMessage file (catalog, []) a).1.messages.find? b.fullName =
      catalog.messages.find? b.fullName :=
    (NameTable.find?_insert ..).trans (if_neg hne.symm)
  rw [addMessage_snd, addMessage_snd, replacesMessage, hfind, replacesMessage]

/-- Enums of different names are reported one by one. -/
theorem foldl_addEnum_snd (file : String) {tables : List EnumTable}
    (hnames : (tables.map EnumTable.fullName).Nodup) (catalog : Catalog) :
    (tables.foldl (addEnum file) (catalog, [])).2 =
      (tables.filter catalog.replacesEnum).map (EnumTable.replacement file) := by
  rw [← flatMap_ite]
  simp only [← addEnum_snd]
  refine (reports_addEnum file).foldl_snd ?_ catalog
  refine (List.pairwise_map.mp hnames).imp fun {a b} hne catalog => ?_
  have hfind : (addEnum file (catalog, []) a).1.enums.find? b.fullName =
      catalog.enums.find? b.fullName :=
    (NameTable.find?_insert ..).trans (if_neg hne.symm)
  rw [addEnum_snd, addEnum_snd, replacesEnum, hfind, replacesEnum]

/-- What is reported of the tables of a file. -/
theorem addFile_snd {tables : FileTable}
    (hmessages : (tables.messages.map MessageTable.fullName).Nodup)
    (henums : (tables.enums.map EnumTable.fullName).Nodup) (catalog : Catalog) :
    (addFile (catalog, []) tables).2 = catalog.replacedBy tables := by
  have hfirst := foldl_addMessage_fst tables.file tables.messages (catalog, [])
  have hreported := foldl_addMessage_snd tables.file hmessages catalog
  cases hmiddle : tables.messages.foldl (addMessage tables.file) (catalog, []) with
  | mk middle replaced =>
    rw [hmiddle] at hfirst hreported
    obtain rfl : middle = _ := hfirst
    obtain rfl : replaced = _ := hreported
    simp only [addFile, hmiddle]
    rw [(reports_addEnum tables.file).foldl, foldl_addEnum_snd tables.file henums]
    -- Putting in the messages has left the enums as they were.
    rfl

/-- What is reported of a file depends on what the catalog has under the names of its types
only. -/
theorem replacedBy_congr {a b : Catalog} {tables : FileTable}
    (hmessages : ∀ table ∈ tables.messages,
      a.messages.find? table.fullName = b.messages.find? table.fullName)
    (henums : ∀ table ∈ tables.enums,
      a.enums.find? table.fullName = b.enums.find? table.fullName) :
    a.replacedBy tables = b.replacedBy tables := by
  unfold replacedBy
  refine congrArg₂ _ (congrArg _ (List.filter_congr fun table htable => ?_))
    (congrArg _ (List.filter_congr fun table htable => ?_))
  · rw [replacesMessage, hmessages table htable, replacesMessage]
  · rw [replacesEnum, henums table htable, replacesEnum]

/-- Files with types under different names are reported one by one. -/
theorem replaced_addFiles
    (hmessages : ((files.flatMap FileTable.messages).map MessageTable.fullName).Nodup)
    (henums : ((files.flatMap FileTable.enums).map EnumTable.fullName).Nodup)
    (catalog : Catalog) :
    (catalog.addFiles files).2 = files.flatMap catalog.replacedBy := by
  rw [List.map_flatMap, List.nodup_flatMap] at hmessages henums
  have hone : ∀ tables ∈ files, ∀ catalog : Catalog,
      (addFile (catalog, []) tables).2 = catalog.replacedBy tables := fun tables htables =>
    addFile_snd (hmessages.1 tables htables) (henums.1 tables htables)
  rw [addFiles, reports_addFile.foldl_snd ?_ catalog]
  · exact List.flatMap_congr fun tables htables => hone tables htables catalog
  · refine (hmessages.2.and henums.2).imp_of_mem fun {a b} ha hb hdisjoint catalog => ?_
    rw [hone b hb, hone b hb]
    refine replacedBy_congr (fun table htable => ?_) fun table htable => ?_
    · rw [addFile_fst]
      refine NameTable.find?_insertAll_of_not_mem fun hmem => ?_
      rw [MessageTable.map_fst_entry] at hmem
      exact hdisjoint.1 hmem (List.mem_map_of_mem htable)
    · rw [addFile_fst]
      refine NameTable.find?_insertAll_of_not_mem fun hmem => ?_
      rw [EnumTable.map_fst_entry] at hmem
      exact hdisjoint.2 hmem (List.mem_map_of_mem htable)

/-! ## After the load -/

/-- Right after a load each of its messages stands under its name. -/
theorem find?_messages_addFiles
    (hmessages : ((files.flatMap FileTable.messages).map MessageTable.fullName).Nodup)
    {table : MessageTable} (htable : table ∈ files.flatMap FileTable.messages) :
    (catalog.addFiles files).1.messages.find? table.fullName = some table := by
  rw [addFiles_fst]
  refine NameTable.find?_insertAll_of_unique (List.mem_map_of_mem htable) fun other hother => ?_
  obtain ⟨hother, hname⟩ := MessageTable.mem_map_entry.mp hother
  exact List.inj_on_of_nodup_map hmessages hother htable hname

/-- Right after a load each of its enums stands under its name. -/
theorem find?_enums_addFiles
    (henums : ((files.flatMap FileTable.enums).map EnumTable.fullName).Nodup)
    {table : EnumTable} (htable : table ∈ files.flatMap FileTable.enums) :
    (catalog.addFiles files).1.enums.find? table.fullName = some table := by
  rw [addFiles_fst]
  refine NameTable.find?_insertAll_of_unique (List.mem_map_of_mem htable) fun other hother => ?_
  obtain ⟨hother, hname⟩ := EnumTable.mem_map_entry.mp hother
  exact List.inj_on_of_nodup_map henums hother htable hname

/-- When the tables of a load are put in again, the messages with a NaN are reported. -/
theorem replacedBy_addFiles
    (hmessages : ((files.flatMap FileTable.messages).map MessageTable.fullName).Nodup)
    (henums : ((files.flatMap FileTable.enums).map EnumTable.fullName).Nodup)
    {tables : FileTable} (htables : tables ∈ files) :
    (catalog.addFiles files).1.replacedBy tables =
      (tables.messages.filter MessageTable.hasNaN).map
        (MessageTable.replacement tables.file) := by
  have hmessage : tables.messages.filter (catalog.addFiles files).1.replacesMessage =
      tables.messages.filter MessageTable.hasNaN := by
    refine List.filter_congr fun table htable => ?_
    rw [replacesMessage,
      find?_messages_addFiles hmessages (List.mem_flatMap.mpr ⟨tables, htables, htable⟩)]
    simp
  have henum : tables.enums.filter (catalog.addFiles files).1.replacesEnum = [] := by
    refine List.filter_eq_nil_iff.mpr fun table htable => ?_
    rw [replacesEnum,
      find?_enums_addFiles henums (List.mem_flatMap.mpr ⟨tables, htables, htable⟩)]
    simp
  rw [replacedBy, hmessage, henum, List.map_nil, List.append_nil]

/-- A load of a set that names its types once reports exactly the types that take the place
of ones that are not the same, file by file, the messages of a file before its enums.  When
the set is loaded again right away, exactly its messages with a NaN for a default are
reported, as long as the first load left alone the enums that the set refers to and does not
declare. -/
theorem replaced_of_load (honce : set.NamesTypesOnce) {loaded : Loaded}
    (hload : catalog.load set = .ok loaded) :
    ∃ files, (Scope.of set catalog).tables = .ok files ∧
      loaded.replaced = files.flatMap catalog.replacedBy ∧
      ((∀ name ∈ set.openEnumNames, loaded.catalog.enum? name = catalog.enum? name) →
        ∃ again, loaded.catalog.load set = .ok again ∧
          again.replaced = files.flatMap fun tables =>
            (tables.messages.filter MessageTable.hasNaN).map
              (MessageTable.replacement tables.file)) := by
  obtain ⟨files, htables, rfl⟩ := load_eq_ok.mp hload
  have hmessages := honce.nodup_messages htables
  have henums := honce.nodup_enums htables
  refine ⟨files, htables, replaced_addFiles hmessages henums catalog, fun hopen => ?_⟩
  refine ⟨_, load_eq_ok.mpr ⟨files, tables_again hopen htables, rfl⟩, ?_⟩
  refine (replaced_addFiles hmessages henums _).trans (List.flatMap_congr fun tables hmem => ?_)
  exact replacedBy_addFiles hmessages henums hmem

/-- A set of which one message, one enum and the sign of a zero are changed.  A message with
a NaN stays as it is and is reported. -/
theorem replaced_of_load_changed :
    let field (name : String) (type : Int32) (text : String) : FieldDescriptor :=
      { name := some name, number := some 1, type := some type, defaultText := some text }
    let set (count value zero : String) : FileSet := ⟨[
      { name := some "a.proto", package := some "p"
        messages := [{ name := some "M", fields := [field "count" 5 count]
                       nested := [{ name := some "NaN", fields := [field "rate" 1 "nan"] }] }]
        enums := [{ name := some "E", values := [{ name := some value, number := some 0 }] }] },
      { name := some "b.proto", package := some "p"
        messages := [
          { name := some "Zero", fields := [field "rate" 2 zero] },
          { name := some "Same", fields := [field "rate" 2 "1.5"] }] }]⟩
    let catalog := ({} : Catalog).afterLoads [set "1" "OLD" "0"]
    ∃ loaded, catalog.load (set "2" "NEW" "-0") = .ok loaded ∧
      loaded.replaced = [⟨.message, "p.M.NaN", "a.proto"⟩, ⟨.message, "p.M", "a.proto"⟩,
        ⟨.enum, "p.E", "a.proto"⟩] ∧
      ∃ files, (Scope.of (set "2" "NEW" "-0") catalog).tables = .ok files ∧
        loaded.replaced = files.flatMap catalog.replacedBy ∧
        ∃ again, loaded.catalog.load (set "2" "NEW" "-0") = .ok again ∧
          again.replaced = files.flatMap fun tables =>
            (tables.messages.filter MessageTable.hasNaN).map
              (MessageTable.replacement tables.file) := by
  intro field set catalog
  have honce : (set "2" "NEW" "-0").NamesTypesOnce := by decide +kernel
  have hopen : (set "2" "NEW" "-0").openEnumNames = [] := by decide +kernel
  have hruns : (catalog.load (set "2" "NEW" "-0")).map Loaded.replaced =
      .ok [⟨.message, "p.M.NaN", "a.proto"⟩, ⟨.message, "p.M", "a.proto"⟩,
        ⟨.enum, "p.E", "a.proto"⟩] := by decide +kernel
  obtain ⟨loaded, hload, hreplaced⟩ := map_eq_ok.mp hruns
  obtain ⟨files, htables, heq, hagain⟩ := replaced_of_load honce hload
  refine ⟨loaded, hload, hreplaced, files, htables, heq, hagain fun name hname => ?_⟩
  rw [hopen] at hname
  cases hname

/-- A message with a NaN for a default is reported when the same set is loaded again, and a
default that changes from zero to minus zero is not. -/
theorem exists_replacement_by_same :
    let set (text : String) : FileSet := ⟨[
      { name := some "m.proto"
        messages := [
          { name := some "M"
            fields := [{ name := some "f", number := some 1, label := some 1, type := some 1
                         defaultText := some text }] }] }]⟩
    let message? (text : String) := (({} : Catalog).afterLoad (set text)).message? "M"
    (set "nan").NamesTypesOnce ∧
      ((({} : Catalog).afterLoad (set "nan")).load (set "nan")).map
          (fun again => (again.catalog.message? "M", again.replaced)) =
        .ok (message? "nan", [⟨.message, "M", "m.proto"⟩]) ∧
      (set "-0").NamesTypesOnce ∧ message? "0" ≠ message? "-0" ∧
      ((({} : Catalog).afterLoad (set "0")).load (set "-0")).map
          (fun again => (again.catalog.message? "M", again.replaced)) =
        .ok (message? "-0", []) := by
  decide +kernel

end Catalog

end ProtoSchema
