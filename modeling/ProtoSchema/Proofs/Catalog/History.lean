import ProtoSchema.Proofs.Catalog.Transaction

/-!
# Loads in a row

A catalog is filled by loads in a row.  A load that fails leaves nothing behind, so
what a catalog holds is told by the loads that succeed.  `Catalog.loads` lists them,
each with the catalog that it started from and the tables that it put in.

A name stands for the table that was put in under it last.  So it is the table of the
last load that put in any, and among the tables of this load the last one
(`message?_afterLoads`, `enum?_afterLoads`).

The list can be cut at any load.  What stands before the load led to the catalog that
it started from, and what stands behind it goes on from the catalog that it left
(`exists_sets_of_loads`).
-/

namespace ProtoSchema

/-! ## The last item with a property -/

namespace IsLast

variable {α β : Type} {p : α → Prop}

theorem mem {items : List α} {item : α} (h : IsLast p items item) : item ∈ items := by
  obtain ⟨before, after, rfl, -, -⟩ := h
  exact List.mem_append_right _ (.head _)

theorem holds {items : List α} {item : α} (h : IsLast p items item) : p item := by
  obtain ⟨-, -, -, hitem, -⟩ := h
  exact hitem

theorem not_nil {item : α} : ¬ IsLast p [] item := fun h => nomatch h.mem

/-- The first of several items is the last one with a property when no other has it. -/
theorem cons_iff {first item : α} {items : List α} :
    IsLast p (first :: items) item ↔
      IsLast p items item ∨ (item = first ∧ p first ∧ ∀ other ∈ items, ¬ p other) := by
  constructor
  · rintro ⟨before, after, heq, hitem, hafter⟩
    cases before with
    | nil =>
      cases heq
      exact Or.inr ⟨rfl, hitem, hafter⟩
    | cons first' before =>
      cases heq
      exact Or.inl ⟨before, after, rfl, hitem, hafter⟩
  · rintro (⟨before, after, rfl, hitem, hafter⟩ | ⟨rfl, hitem, hafter⟩)
    · exact ⟨first :: before, after, rfl, hitem, hafter⟩
    · exact ⟨[], items, rfl, hitem, hafter⟩

/-- Items further on count before those in front of them. -/
theorem append_iff {first second : List α} {item : α} :
    IsLast p (first ++ second) item ↔
      IsLast p second item ∨ (IsLast p first item ∧ ∀ other ∈ second, ¬ p other) := by
  induction first with
  | nil =>
    constructor
    · exact Or.inl
    · rintro (h | ⟨h, -⟩)
      · exact h
      · exact absurd h not_nil
  | cons head first ih =>
    rw [List.cons_append, cons_iff, ih, cons_iff]
    simp only [List.mem_append, or_imp, forall_and]
    tauto

theorem exists_isLast {items : List α} (h : ∃ item ∈ items, p item) :
    ∃ last, IsLast p items last := by
  induction items with
  | nil =>
    obtain ⟨item, hmem, -⟩ := h
    cases hmem
  | cons first items ih =>
    by_cases hlater : ∃ item ∈ items, p item
    · obtain ⟨last, hlast⟩ := ih hlater
      exact ⟨last, cons_iff.mpr (Or.inl hlast)⟩
    · obtain ⟨item, hmem, hitem⟩ := h
      rcases List.mem_cons.mp hmem with rfl | hmem
      · exact ⟨item, cons_iff.mpr (Or.inr ⟨rfl, hitem, fun other hother hp =>
          hlater ⟨other, hother, hp⟩⟩)⟩
      · exact absurd ⟨item, hmem, hitem⟩ hlater

/-- There is one last item. -/
theorem eq {items : List α} {a b : α} (ha : IsLast p items a) (hb : IsLast p items b) : a = b := by
  induction items with
  | nil => exact absurd ha not_nil
  | cons first items ih =>
    rcases cons_iff.mp ha with ha | ⟨heq, -, hlaterA⟩
    · rcases cons_iff.mp hb with hb | ⟨heq, -, hlaterB⟩
      · exact ih ha hb
      · exact absurd ha.holds (hlaterB a ha.mem)
    · rcases cons_iff.mp hb with hb | ⟨heq', -, -⟩
      · exact absurd hb.holds (hlaterA b hb.mem)
      · rw [heq, heq']

/-- The last of the items that several lists make up stands in the last list that has
any. -/
theorem flatMap_iff {lists : List β} {f : β → List α} {item : α} :
    IsLast p (lists.flatMap f) item ↔
      ∃ list, IsLast (fun list => ∃ item ∈ f list, p item) lists list ∧
        IsLast p (f list) item := by
  induction lists with
  | nil =>
    refine iff_of_false not_nil ?_
    rintro ⟨list, hlist, -⟩
    exact not_nil hlist
  | cons first lists ih =>
    rw [List.flatMap_cons, append_iff, ih]
    constructor
    · rintro (⟨list, hlist, hitem⟩ | ⟨hitem, hlater⟩)
      · exact ⟨list, cons_iff.mpr (Or.inl hlist), hitem⟩
      · refine ⟨first, cons_iff.mpr (Or.inr ⟨rfl, ⟨item, hitem.mem, hitem.holds⟩, ?_⟩), hitem⟩
        rintro other hother ⟨found, hfound, hholds⟩
        exact hlater found (List.mem_flatMap.mpr ⟨other, hother, hfound⟩) hholds
    · rintro ⟨list, hlist, hitem⟩
      rcases cons_iff.mp hlist with hlist | ⟨rfl, -, hlater⟩
      · exact Or.inl ⟨list, hlist, hitem⟩
      · refine Or.inr ⟨hitem, fun other hother hholds => ?_⟩
        obtain ⟨found, hfound, hother⟩ := List.mem_flatMap.mp hother
        exact hlater found hfound ⟨other, hother, hholds⟩

/-- There is one as soon as any of the lists has any. -/
theorem exists_flatMap_iff {lists : List β} {f : β → List α} :
    (∃ item list, IsLast (fun list => ∃ item ∈ f list, p item) lists list ∧
        IsLast p (f list) item) ↔
      ∃ list ∈ lists, ∃ item ∈ f list, p item := by
  constructor
  · rintro ⟨item, list, hlist, -⟩
    exact ⟨list, hlist.mem, hlist.holds⟩
  · intro h
    obtain ⟨list, hlist⟩ := exists_isLast h
    obtain ⟨item, hitem⟩ := exists_isLast hlist.holds
    exact ⟨item, list, hlist, hitem⟩

end IsLast

/-- What is found in a table that was filled is the last item under the name. -/
theorem NameTable.find?_insertAll_empty {α β : Type} {entry : β → String × α} {items : List β}
    {k : String} {found : α} :
    ((empty : NameTable α).insertAll (items.map entry)).find? k = some found ↔
      ∃ item, IsLast (fun item => (entry item).1 = k) items item ∧ (entry item).2 = found := by
  have hlast : k ∈ (items.map entry).map Prod.fst →
      ∃ item, IsLast (fun item => (entry item).1 = k) items item ∧
        ((empty : NameTable α).insertAll (items.map entry)).find? k = some (entry item).2 :=
    exists_isLast_of_insertAll empty
  constructor
  · intro h
    by_cases hname : k ∈ (items.map entry).map Prod.fst
    · obtain ⟨item, hitem, hfound⟩ := hlast hname
      exact ⟨item, hitem, Option.some.inj (hfound.symm.trans h)⟩
    · rw [find?_insertAll_of_not_mem hname, find?_empty] at h
      cases h
  · rintro ⟨item, hitem, rfl⟩
    obtain ⟨item', hitem', hfound⟩ := hlast
      (List.mem_map.mpr ⟨entry item, List.mem_map_of_mem hitem.mem, hitem.holds⟩)
    rw [hfound, hitem.eq hitem']

/-- What is found in a table that was filled from several lists is the last item under
the name. -/
theorem NameTable.find?_insertAll_flatMap {α β : Type} {key : α → String} {lists : List β}
    {f : β → List α} {k : String} {found : α} :
    ((empty : NameTable α).insertAll
        ((lists.flatMap f).map fun item => (key item, item))).find? k = some found ↔
      ∃ list, IsLast (fun list => ∃ item ∈ f list, key item = k) lists list ∧
        IsLast (fun item => key item = k) (f list) found := by
  rw [find?_insertAll_empty, ← IsLast.flatMap_iff]
  constructor
  · rintro ⟨item, hitem, rfl⟩
    exact hitem
  · intro h
    exact ⟨found, h, rfl⟩

/-! ## Loads -/

/-- A load that succeeds. -/
structure Load where
  /-- The catalog before it. -/
  base : Catalog
  /-- The set that is loaded. -/
  set : FileSet
  /-- The tables of the set. -/
  files : List FileTable
  /-- They are built without a fault. -/
  built : (Scope.of set base).tables = .ok files

namespace Load

variable (load : Load)

/-- The catalog after a load. -/
def catalog : Catalog := (load.base.addFiles load.files).1

/-- The messages that are put in. -/
def messages : List MessageTable := load.files.flatMap FileTable.messages

/-- The enums that are put in. -/
def enums : List EnumTable := load.files.flatMap FileTable.enums

/-- Whether a load puts in a type of this kind under a name. -/
def Activates (kind : TypeKind) (name : String) : Prop :=
  match kind with
  | .message => ∃ table ∈ load.messages, table.fullName = FullName.bare name
  | .enum => ∃ table ∈ load.enums, table.fullName = FullName.bare name

end Load

namespace Catalog

/-- The loads that succeed when the sets are loaded one after the other. -/
def loads (catalog : Catalog) : List FileSet → List Load
  | [] => []
  | set :: sets =>
    match built : (Scope.of set catalog).tables with
    | .ok files => ⟨catalog, set, files, built⟩ :: loads (catalog.addFiles files).1 sets
    | .error _ => loads catalog sets

theorem loads_cons_of_ok {catalog : Catalog} {set : FileSet} {files : List FileTable}
    (built : (Scope.of set catalog).tables = .ok files) (sets : List FileSet) :
    catalog.loads (set :: sets) =
      ⟨catalog, set, files, built⟩ :: (catalog.addFiles files).1.loads sets := by
  rw [loads]
  split
  · next files' built' =>
    cases built.symm.trans built'
    rfl
  · next built' => cases built.symm.trans built'

theorem loads_cons_of_error {catalog : Catalog} {set : FileSet} {failure : Failure}
    (h : (Scope.of set catalog).tables = .error failure) (sets : List FileSet) :
    catalog.loads (set :: sets) = catalog.loads sets := by
  rw [loads]
  split
  · next built => cases h.symm.trans built
  · rfl

theorem afterLoad_of_ok {catalog : Catalog} {set : FileSet} {files : List FileTable}
    (built : (Scope.of set catalog).tables = .ok files) :
    catalog.afterLoad set = (catalog.addFiles files).1 := by
  rw [afterLoad, load, built]
  rfl

theorem afterLoad_of_error {catalog : Catalog} {set : FileSet} {failure : Failure}
    (h : (Scope.of set catalog).tables = .error failure) : catalog.afterLoad set = catalog := by
  rw [afterLoad, load, h]
  rfl

theorem afterLoads_cons (catalog : Catalog) (set : FileSet) (sets : List FileSet) :
    catalog.afterLoads (set :: sets) = (catalog.afterLoad set).afterLoads sets := rfl

/-- After all loads a catalog holds what it held before, and then the tables of the
loads that succeed, put in one after the other. -/
theorem afterLoads_eq (catalog : Catalog) (sets : List FileSet) :
    catalog.afterLoads sets =
      (catalog.addFiles ((catalog.loads sets).flatMap Load.files)).1 := by
  induction sets generalizing catalog with
  | nil => rfl
  | cons set sets ih =>
    rw [afterLoads_cons, ih]
    cases htables : (Scope.of set catalog).tables with
    | error failure => rw [afterLoad_of_error htables, loads_cons_of_error htables]
    | ok files =>
      rw [afterLoad_of_ok htables, loads_cons_of_ok htables, List.flatMap_cons, addFiles_append]

theorem messages_afterLoads (catalog : Catalog) (sets : List FileSet) :
    (catalog.afterLoads sets).messages = catalog.messages.insertAll
      (((catalog.loads sets).flatMap Load.messages).map MessageTable.entry) := by
  rw [afterLoads_eq, addFiles_fst]
  simp only [List.flatMap_assoc]
  rfl

theorem enums_afterLoads (catalog : Catalog) (sets : List FileSet) :
    (catalog.afterLoads sets).enums = catalog.enums.insertAll
      (((catalog.loads sets).flatMap Load.enums).map EnumTable.entry) := by
  rw [afterLoads_eq, addFiles_fst]
  simp only [List.flatMap_assoc]
  rfl

/-- Under a name stands the message of the last load that put one in, and of this load
the last one. -/
theorem message?_afterLoads {sets : List FileSet} {name : String} {table : MessageTable} :
    (({} : Catalog).afterLoads sets).message? name = some table ↔
      ∃ load, IsLast (·.Activates .message name) (({} : Catalog).loads sets) load ∧
        IsLast (fun table => table.fullName = FullName.bare name) load.messages table := by
  rw [message?, messages_afterLoads]
  exact NameTable.find?_insertAll_flatMap

/-- Under a name stands the enum of the last load that put one in, and of this load the
last one. -/
theorem enum?_afterLoads {sets : List FileSet} {name : String} {table : EnumTable} :
    (({} : Catalog).afterLoads sets).enum? name = some table ↔
      ∃ load, IsLast (·.Activates .enum name) (({} : Catalog).loads sets) load ∧
        IsLast (fun table => table.fullName = FullName.bare name) load.enums table := by
  rw [enum?, enums_afterLoads]
  exact NameTable.find?_insertAll_flatMap

/-- An enum that stands under a name after some loads was put in by one of them, or stood
there before. -/
theorem enum?_afterLoads_cases {catalog : Catalog} {sets : List FileSet} {name : String}
    {table : EnumTable} (h : (catalog.afterLoads sets).enum? name = some table) :
    (∃ load ∈ catalog.loads sets, load.Activates .enum name) ∨
      catalog.enum? name = some table := by
  rw [enum?, enums_afterLoads] at h
  refine (NameTable.find?_insertAll_cases h).imp_left fun hmem => ?_
  obtain ⟨hmem, hname⟩ := EnumTable.mem_map_entry.mp hmem
  obtain ⟨load, hload, htable⟩ := List.mem_flatMap.mp hmem
  exact ⟨load, hload, table, htable, hname⟩

/-- A load stands between the sets that led to the catalog it started from, and those
that were loaded on top of what it left. -/
theorem exists_sets_of_loads {catalog : Catalog} {sets : List FileSet} {before after : List Load}
    {load : Load} (h : catalog.loads sets = before ++ load :: after) :
    ∃ earlier later, sets = earlier ++ load.set :: later ∧
      catalog.loads earlier = before ∧ catalog.afterLoads earlier = load.base ∧
      load.catalog.loads later = after ∧
      load.catalog.afterLoads later = catalog.afterLoads sets := by
  induction sets generalizing catalog before with
  | nil =>
    rw [loads] at h
    cases (List.append_eq_nil_iff.mp h.symm).2
  | cons set sets ih =>
    cases htables : (Scope.of set catalog).tables with
    | error failure =>
      rw [loads_cons_of_error htables] at h
      obtain ⟨earlier, later, rfl, hbefore, hbase, hafter, hlast⟩ := ih h
      refine ⟨set :: earlier, later, rfl, ?_, ?_, hafter, ?_⟩
      · rw [loads_cons_of_error htables, hbefore]
      · rw [afterLoads_cons, afterLoad_of_error htables, hbase]
      · rw [afterLoads_cons, afterLoad_of_error htables, hlast]
    | ok files =>
      rw [loads_cons_of_ok htables] at h
      cases before with
      | nil =>
        cases h
        refine ⟨[], sets, rfl, rfl, rfl, rfl, ?_⟩
        rw [afterLoads_cons, afterLoad_of_ok htables]
        rfl
      | cons first before =>
        rw [List.cons_append, List.cons.injEq] at h
        obtain ⟨rfl, h⟩ := h
        obtain ⟨earlier, later, rfl, hbefore, hbase, hafter, hlast⟩ := ih h
        refine ⟨set :: earlier, later, rfl, ?_, ?_, hafter, ?_⟩
        · rw [loads_cons_of_ok htables, hbefore]
        · rw [afterLoads_cons, afterLoad_of_ok htables, hbase]
        · rw [afterLoads_cons, afterLoad_of_ok htables, hlast]

theorem set_mem_of_loads {catalog : Catalog} {sets : List FileSet} {load : Load}
    (h : load ∈ catalog.loads sets) : load.set ∈ sets := by
  obtain ⟨before, after, heq⟩ := List.append_of_mem h
  obtain ⟨earlier, later, rfl, -⟩ := exists_sets_of_loads heq
  exact List.mem_append_right _ (.head _)

end Catalog

end ProtoSchema
