import ProtoSchema.Resolve.Scope
import ProtoSchema.Proofs.Collection.NameTable
import ProtoSchema.Proofs.Descriptor.Nesting

/-!
# What a set declares

The homes and the enums of a set are filled from one list, the declarations of
the set.  A name that has a home in the set therefore belongs to a declaration,
and every declaration has a home.

`Declaration.IsSound` says how the parts of a declaration go together.  A message
has no table yet, and the table of an enum is known by the bare name of the enum.
-/

namespace ProtoSchema

/-! ## Homes of tables -/

/-- Where the message of a table is declared. -/
def MessageTable.home (table : MessageTable) : TypeHome := ⟨.message, table.package, table.file⟩

/-- Where the enum of a table is declared. -/
def EnumTable.home (table : EnumTable) : TypeHome := ⟨.enum, table.package, table.file⟩

/-! ## Declarations of messages -/

theorem MessageDescriptor.declarationsInside_eq_flatMap (package file outer : String)
    (messages : List MessageDescriptor) :
    declarationsInside package file outer messages =
      messages.flatMap (declarations package file outer) := by
  induction messages with
  | nil => rfl
  | cons message messages ih => rw [declarationsInside, ih, List.flatMap_cons]

/-- Nothing inside a message without a name is declared. -/
theorem MessageDescriptor.declarations_of_name_eq_none {package file outer : String}
    {message : MessageDescriptor} (h : message.name = none) :
    message.declarations package file outer = [] := by
  cases message
  cases h
  rfl

/-- A message is declared before the messages and the enums inside it. -/
theorem MessageDescriptor.declarations_of_name_eq_some {package file outer name : String}
    {message : MessageDescriptor} (h : message.name = some name) :
    message.declarations package file outer =
      { name := FullName.inside outer name, home := ⟨.message, package, file⟩ } ::
        (message.nested.flatMap
            (declarations package file (FullName.asOuter (FullName.inside outer name))) ++
          message.enums.flatMap (EnumDescriptor.declarations package file
            (FullName.asOuter (FullName.inside outer name)))) := by
  cases message
  cases h
  rw [declarations, declarationsInside_eq_flatMap]

/-! ## Sound declarations -/

/-- How the parts of a declaration go together. -/
def Declaration.IsSound (declaration : Declaration) : Prop :=
  match declaration.home.kind with
  | .message => declaration.enum? = none
  | .enum => ∃ table, declaration.enum? = some table ∧
      table.fullName = FullName.bare declaration.name

/-- A declaration with a table is that of an enum. -/
theorem Declaration.IsSound.fullName_eq {d : Declaration} (h : d.IsSound) {table : EnumTable}
    (htable : d.enum? = some table) : table.fullName = FullName.bare d.name := by
  unfold IsSound at h
  split at h
  · rw [h] at htable
    cases htable
  · obtain ⟨table', htable', hname⟩ := h
    rw [htable'] at htable
    cases htable
    exact hname

theorem EnumDescriptor.isSound_of_mem_declarations {package file outer : String}
    {enum : EnumDescriptor} {d : Declaration}
    (h : d ∈ enum.declarations package file outer) : d.IsSound := by
  unfold declarations at h
  split at h
  · cases h
  · rw [List.mem_singleton.mp h]
    exact ⟨_, rfl, rfl⟩

/-- The table of an enum has the package and the file that the enum is declared in. -/
theorem EnumDescriptor.home_of_mem_declarations {package file outer : String}
    {enum : EnumDescriptor} {d : Declaration} (h : d ∈ enum.declarations package file outer)
    {table : EnumTable} (htable : d.enum? = some table) : d.home = table.home := by
  unfold declarations at h
  split at h
  · cases h
  · rw [List.mem_singleton.mp h] at htable ⊢
    cases htable
    rfl

/-- What holds of every message and of every enum, wherever it is declared, holds of all
that a message declares. -/
theorem MessageDescriptor.declarations_induction {P : Declaration → Prop} {package file : String}
    (hmessage : ∀ name, P { name, home := ⟨.message, package, file⟩ })
    (henum : ∀ (enum : EnumDescriptor) (outer : String),
      ∀ d ∈ enum.declarations package file outer, P d)
    (message : MessageDescriptor) (outer : String) :
    ∀ d ∈ message.declarations package file outer, P d := by
  induction message using nesting generalizing outer with
  | step message ih =>
    intro d hd
    cases hname : message.name with
    | none =>
      rw [declarations_of_name_eq_none hname] at hd
      cases hd
    | some name =>
      rw [declarations_of_name_eq_some hname] at hd
      rcases List.mem_cons.mp hd with rfl | hd
      · exact hmessage _
      · rcases List.mem_append.mp hd with hd | hd
        · obtain ⟨inner, hinner, hd⟩ := List.mem_flatMap.mp hd
          exact ih inner hinner _ d hd
        · obtain ⟨enum, -, hd⟩ := List.mem_flatMap.mp hd
          exact henum enum _ d hd

/-- What holds of every message and of every enum, wherever it is declared, holds of all
that a set declares. -/
theorem FileSet.declarations_induction {P : Declaration → Prop}
    (hmessage : ∀ name package file, P { name, home := ⟨.message, package, file⟩ })
    (henum : ∀ (enum : EnumDescriptor) (package file outer : String),
      ∀ d ∈ enum.declarations package file outer, P d)
    (set : FileSet) : ∀ d ∈ set.declarations, P d := by
  intro d hd
  obtain ⟨file, -, hd⟩ := List.mem_flatMap.mp hd
  rcases List.mem_append.mp hd with hd | hd
  · obtain ⟨message, -, hd⟩ := List.mem_flatMap.mp hd
    exact message.declarations_induction (fun name => hmessage name _ _)
      (fun enum outer => henum enum _ _ outer) _ d hd
  · obtain ⟨enum, -, hd⟩ := List.mem_flatMap.mp hd
    exact henum enum _ _ _ d hd

theorem FileSet.isSound_of_mem_declarations {set : FileSet} {d : Declaration}
    (h : d ∈ set.declarations) : d.IsSound :=
  set.declarations_induction (fun _ _ _ => rfl)
    (fun _ _ _ _ _ hd => EnumDescriptor.isSound_of_mem_declarations hd) d h

/-- A declared enum is at home where its table says. -/
theorem FileSet.home_of_mem_declarations {set : FileSet} {d : Declaration}
    (h : d ∈ set.declarations) {table : EnumTable} (htable : d.enum? = some table) :
    d.home = table.home :=
  set.declarations_induction (P := fun d => d.enum? = some table → d.home = table.home)
    (fun _ _ _ hnone => nomatch hnone)
    (fun _ _ _ _ _ hd => EnumDescriptor.home_of_mem_declarations hd) d h htable

/-! ## Homes and enums -/

namespace FileSet

/-- A declaration with the name that its enum is known by, if it is one. -/
def enumItem? (d : Declaration) : Option (String × EnumTable) :=
  d.enum?.map fun table => (d.name, table)

theorem homes_eq_insertAll (set : FileSet) :
    set.homes = NameTable.empty.insertAll (set.declarations.map fun d => (d.name, d.home)) := by
  rw [NameTable.insertAll, List.foldl_map]
  rfl

theorem enumTables_eq_insertAll (set : FileSet) :
    set.enumTables = NameTable.empty.insertAll (set.declarations.filterMap enumItem?) := by
  rw [NameTable.insertAll, List.foldl_filterMap]
  unfold enumTables
  congr 1
  funext table d
  unfold enumItem?
  cases d.enum? <;> rfl

/-- A home in a set is that of a declaration. -/
theorem exists_of_homes {set : FileSet} {name : String} {home : TypeHome}
    (h : set.homes.find? name = some home) :
    ∃ d ∈ set.declarations, d.name = name ∧ d.home = home := by
  rw [homes_eq_insertAll] at h
  rcases NameTable.find?_insertAll_cases h with h | h
  · obtain ⟨d, hd, heq⟩ := List.mem_map.mp h
    cases heq
    exact ⟨d, hd, rfl, rfl⟩
  · cases h

/-- Every declaration has a home. -/
theorem isSome_homes {set : FileSet} {d : Declaration} (h : d ∈ set.declarations) :
    (set.homes.find? d.name).isSome = true := by
  rw [homes_eq_insertAll, NameTable.isSome_find?_insertAll]
  exact Or.inl (List.mem_map.mpr ⟨_, List.mem_map_of_mem h, rfl⟩)

/-- An enum of a set is that of a declaration. -/
theorem exists_of_enumTables {set : FileSet} {name : String} {table : EnumTable}
    (h : set.enumTables.find? name = some table) :
    ∃ d ∈ set.declarations, d.name = name ∧ d.enum? = some table := by
  rw [enumTables_eq_insertAll] at h
  rcases NameTable.find?_insertAll_cases h with h | h
  · obtain ⟨d, hd, heq⟩ := List.mem_filterMap.mp h
    obtain ⟨table', htable, heq⟩ := Option.map_eq_some_iff.mp heq
    cases heq
    exact ⟨d, hd, rfl, htable⟩
  · cases h

/-- Every declared enum is found. -/
theorem isSome_enumTables {set : FileSet} {d : Declaration} {table : EnumTable}
    (h : d ∈ set.declarations) (htable : d.enum? = some table) :
    (set.enumTables.find? d.name).isSome = true := by
  have hentry : enumItem? d = some (d.name, table) := by rw [enumItem?, htable]; rfl
  rw [enumTables_eq_insertAll, NameTable.isSome_find?_insertAll]
  exact Or.inl (List.mem_map.mpr ⟨_, List.mem_filterMap.mpr ⟨d, h, hentry⟩, rfl⟩)

/-- The name of a declared enum means an enum of the same full name.  When it is declared
twice that may be another enum. -/
theorem exists_find?_enumTables {set : FileSet} {d : Declaration} {table : EnumTable}
    (h : d ∈ set.declarations) (htable : d.enum? = some table) :
    ∃ found, set.enumTables.find? d.name = some found ∧ found.fullName = table.fullName := by
  obtain ⟨found, hfound⟩ := Option.isSome_iff_exists.mp (isSome_enumTables h htable)
  obtain ⟨d', hd', hname, hfound'⟩ := exists_of_enumTables hfound
  refine ⟨found, hfound, ?_⟩
  rw [(isSound_of_mem_declarations hd').fullName_eq hfound', hname,
    (isSound_of_mem_declarations h).fullName_eq htable]

/-- Whether a set declares a name. -/
def Declares (set : FileSet) (name : String) : Prop := ∃ d ∈ set.declarations, d.name = name

theorem homes_eq_none {set : FileSet} {name : String} (h : ¬ set.Declares name) :
    set.homes.find? name = none := by
  cases hfound : set.homes.find? name with
  | none => rfl
  | some home =>
    obtain ⟨d, hd, hname, -⟩ := exists_of_homes hfound
    exact absurd ⟨d, hd, hname⟩ h

theorem enumTables_eq_none {set : FileSet} {name : String} (h : ¬ set.Declares name) :
    set.enumTables.find? name = none := by
  cases hfound : set.enumTables.find? name with
  | none => rfl
  | some table =>
    obtain ⟨d, hd, hname, -⟩ := exists_of_enumTables hfound
    exact absurd ⟨d, hd, hname⟩ h

end FileSet

/-! ## Sets put together -/

namespace FileSet

theorem declarations_append (first second : FileSet) :
    (first ++ second).declarations = first.declarations ++ second.declarations :=
  List.flatMap_append

theorem mem_declarations_append {first second : FileSet} {d : Declaration} :
    d ∈ (first ++ second).declarations ↔ d ∈ first.declarations ∨ d ∈ second.declarations := by
  rw [declarations_append, List.mem_append]

/-- Of two declarations of a name the one in the second set counts. -/
theorem find?_homes_append (first second : FileSet) (name : String) :
    (first ++ second).homes.find? name =
      (second.homes.find? name).or (first.homes.find? name) := by
  rw [homes_eq_insertAll, declarations_append, List.map_append, NameTable.insertAll_append,
    NameTable.find?_insertAll_eq_or, ← homes_eq_insertAll, ← homes_eq_insertAll]

theorem find?_enumTables_append (first second : FileSet) (name : String) :
    (first ++ second).enumTables.find? name =
      (second.enumTables.find? name).or (first.enumTables.find? name) := by
  rw [enumTables_eq_insertAll, declarations_append, List.filterMap_append,
    NameTable.insertAll_append, NameTable.find?_insertAll_eq_or, ← enumTables_eq_insertAll,
    ← enumTables_eq_insertAll]

theorem isSome_find?_append (first second : FileSet) (name : String) :
    ((first ++ second).find? name).isSome =
      ((first.find? name).isSome || (second.find? name).isSome) := by
  unfold find?
  rw [files_append, List.find?_append, Option.isSome_or]

end FileSet

/-! ## Scopes -/

namespace Scope

/-- A type that was loaded before is at home where its table says.  A message hides an
enum of the same name. -/
theorem loadedHome?_eq (scope : Scope) (name : String) :
    scope.loadedHome? name =
      ((scope.loaded.message? name).map MessageTable.home).or
        ((scope.loaded.enum? name).map EnumTable.home) := by
  unfold loadedHome?
  cases scope.loaded.message? name with
  | some table => rfl
  | none =>
    cases scope.loaded.enum? name with
    | some table => rfl
    | none => rfl

/-- The kind of a type that was loaded before. -/
theorem map_kind_loadedHome? (scope : Scope) (name : String) :
    (scope.loadedHome? name).map TypeHome.kind =
      if (scope.loaded.message? name).isSome then some .message
      else if (scope.loaded.enum? name).isSome then some .enum
      else none := by
  unfold loadedHome?
  cases scope.loaded.message? name with
  | some table => rfl
  | none =>
    cases scope.loaded.enum? name with
    | some table => rfl
    | none => rfl

/-- A name that means a message is that of a declared message, or that of one
that was loaded before. -/
theorem kind?_eq_message {scope : Scope} {name : String} (h : scope.kind? name = some .message) :
    (∃ d ∈ scope.set.declarations, d.name = name ∧ d.home.kind = .message) ∨
      (scope.loaded.message? name).isSome = true := by
  obtain ⟨home, hhome, hkind⟩ := Option.map_eq_some_iff.mp h
  rw [home?, scope.homes_eq] at hhome
  rcases Option.or_eq_some_iff.mp hhome with hset | ⟨-, hloaded⟩
  · obtain ⟨d, hd, hname, rfl⟩ := FileSet.exists_of_homes hset
    exact Or.inl ⟨d, hd, hname, hkind⟩
  · unfold loadedHome? at hloaded
    split at hloaded
    · next hmessage =>
      rw [hmessage]
      exact Or.inr rfl
    · cases hloaded
      cases hkind
    · cases hloaded

/-- An enum that a name means is declared in the set, or was loaded before. -/
theorem enum?_eq_some {scope : Scope} {name : String} {table : EnumTable}
    (h : scope.enum? name = some table) :
    (∃ d ∈ scope.set.declarations, d.name = name ∧ d.enum? = some table) ∨
      scope.loaded.enum? name = some table := by
  rw [enum?, scope.enums_eq] at h
  rcases Option.or_eq_some_iff.mp h with hset | ⟨-, hloaded⟩
  · exact Or.inl (FileSet.exists_of_enumTables hset)
  · exact Or.inr hloaded

end Scope

end ProtoSchema
