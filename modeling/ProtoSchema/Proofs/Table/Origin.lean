import ProtoSchema.Proofs.Resolve.NamedMessages
import ProtoSchema.Proofs.Table.Build

/-!
# Where tables come from

The table of a message goes back to a message of the set (`Scope.exists_origin_of_tables`),
which is declared under the full name of the table and at the home that the table has
(`Scope.exists_declaration_of_tables`).  The fields of the table go back to those of the
message one by one, in order (`MessageDescriptor.HasTable.describes`).
Nothing compares the fields of a message with each other on the way.
-/

namespace ProtoSchema

open Checked

/-- What a field and its table in the table of a message have in common. -/
structure FieldDescriptor.Describes (scope : Scope) (field : FieldDescriptor)
    (table : FieldTable) : Prop where
  name : field.name = some table.name
  number : ∃ n, field.number = some n ∧ 0 < n ∧ table.number = n.toInt.toNat
  holds : field.Holds scope table.content
  default : table.default = field.defaultText.bind table.content.readDefault?

namespace MessageDescriptor

/-- The fields of a message are described by those of its table. -/
theorem HasTable.describes {scope : Scope} {file package : String} {isProto3 : Bool}
    {outer name : String} {message : MessageDescriptor} {table : MessageTable}
    (h : message.HasTable scope file package isProto3 outer name table) :
    List.Forall₂ (FieldDescriptor.Describes scope) message.fields table.fields := by
  refine (mapM_eq_ok.mp h.fields).imp fun field built hbuilt => ?_
  obtain ⟨declared, hdeclared, hbuilt⟩ := bind_eq_ok.mp hbuilt
  have htable := FieldDescriptor.hasTable_of_table hdeclared
  cases hbuilt
  exact ⟨htable.name, htable.number, FieldDescriptor.holds_of_content htable.content,
    htable.default.1⟩

end MessageDescriptor

namespace NamedMessage

/-- The table of a message that is declared under a full name. -/
def HasTable (scope : Scope) (file package : String) (isProto3 : Bool) (origin : NamedMessage)
    (table : MessageTable) : Prop :=
  ∃ outer name, origin.name = FullName.inside outer name ∧
    origin.message.HasTable scope file package isProto3 outer name table

namespace HasTable

variable {scope : Scope} {file package : String} {isProto3 : Bool} {origin : NamedMessage}
  {table : MessageTable}

theorem fullName (h : origin.HasTable scope file package isProto3 table) :
    table.fullName = FullName.bare origin.name := by
  obtain ⟨outer, name, hname, htable⟩ := h
  rw [hname, htable.fullName]

/-- The table of a message has the package and the file that the message is declared in. -/
theorem home (h : origin.HasTable scope file package isProto3 table) :
    (origin.declaration package file).home = table.home := by
  obtain ⟨outer, name, -, htable⟩ := h
  rw [MessageTable.home, htable.package, htable.file]
  rfl

theorem describes (h : origin.HasTable scope file package isProto3 table) :
    List.Forall₂ (FieldDescriptor.Describes scope) origin.message.fields table.fields := by
  obtain ⟨outer, name, -, htable⟩ := h
  exact htable.describes

end HasTable

end NamedMessage

/-- A table among those of a message is that of the message or of one inside it. -/
theorem MessageDescriptor.exists_origin_of_tables {scope : Scope} {file package : String}
    {isProto3 : Bool} {outer : String} {message : MessageDescriptor}
    {found : List MessageTable × List EnumTable}
    (h : message.tables scope file package isProto3 outer = .ok found) {table : MessageTable}
    (htable : table ∈ found.1) :
    ∃ origin ∈ message.named outer, origin.HasTable scope file package isProto3 table := by
  induction message using nesting generalizing outer found with
  | step message ih =>
    obtain ⟨name, own, parts, hname, hown, hparts, rfl⟩ := tables_eq_ok h
    rw [named_of_name_eq_some hname]
    rcases List.mem_append.mp htable with hinside | hself
    · obtain ⟨part, hpart, htable⟩ := List.mem_flatMap.mp hinside
      obtain ⟨inner, hinner, hfound⟩ := exists_item_of_mapM_eq_ok hparts hpart
      obtain ⟨origin, horigin, hdescribed⟩ := ih inner hinner hfound htable
      exact ⟨origin, .tail _ (List.mem_flatMap.mpr ⟨inner, hinner, horigin⟩), hdescribed⟩
    · cases List.mem_singleton.mp hself
      exact ⟨_, .head _, outer, name, rfl, hown⟩

/-- A message that has a full name has a table. -/
theorem MessageDescriptor.exists_hasTable_of_mem_named {scope : Scope} {file package : String}
    {isProto3 : Bool} {outer : String} {message : MessageDescriptor}
    {found : List MessageTable × List EnumTable}
    (h : message.tables scope file package isProto3 outer = .ok found) {origin : NamedMessage}
    (horigin : origin ∈ message.named outer) :
    ∃ table ∈ found.1, origin.HasTable scope file package isProto3 table := by
  induction message using nesting generalizing outer found with
  | step message ih =>
    obtain ⟨name, own, parts, hname, hown, hparts, rfl⟩ := tables_eq_ok h
    rw [named_of_name_eq_some hname] at horigin
    rcases List.mem_cons.mp horigin with rfl | hinside
    · exact ⟨own, List.mem_append_right _ (.head _), outer, name, rfl, hown⟩
    · obtain ⟨inner, hinner, horigin⟩ := List.mem_flatMap.mp hinside
      obtain ⟨part, hpart, hfound⟩ := exists_of_mapM_eq_ok hparts hinner
      obtain ⟨table, htable, hbuilt⟩ := ih inner hinner hfound horigin
      exact ⟨table, List.mem_append_left _ (List.mem_flatMap.mpr ⟨part, hpart, htable⟩), hbuilt⟩

/-- Every message of a file that has a full name has a table. -/
theorem FileDescriptor.exists_hasTable_of_mem_named {scope : Scope} {file : FileDescriptor}
    {found : FileTable} (h : file.tables scope = .ok found) {origin : NamedMessage}
    (horigin : origin ∈ file.named) :
    ∃ table ∈ found.messages,
      origin.HasTable scope found.file file.packageName file.isProto3 table := by
  obtain ⟨name, parts, -, -, hparts, rfl⟩ := tables_eq_ok h
  obtain ⟨message, hmessage, horigin⟩ := List.mem_flatMap.mp horigin
  obtain ⟨part, hpart, hfound⟩ := exists_of_mapM_eq_ok hparts hmessage
  obtain ⟨table, htable, hbuilt⟩ := message.exists_hasTable_of_mem_named hfound horigin
  exact ⟨table, List.mem_flatMap.mpr ⟨part, hpart, htable⟩, hbuilt⟩

/-- Every table of a set is that of one of its messages. -/
theorem Scope.exists_origin_of_tables {scope : Scope} {files : List FileTable}
    (h : scope.tables = .ok files) {table : MessageTable}
    (htable : table ∈ files.flatMap FileTable.messages) :
    ∃ file ∈ scope.set.files, ∃ origin ∈ file.named,
      origin.HasTable scope (file.name.getD "") file.packageName file.isProto3 table := by
  obtain ⟨found, hfound, htable⟩ := List.mem_flatMap.mp htable
  obtain ⟨file, hfile, hfound⟩ := exists_item_of_mapM_eq_ok h hfound
  obtain ⟨name, parts, hname, -, hparts, rfl⟩ := FileDescriptor.tables_eq_ok hfound
  obtain ⟨part, hpart, htable⟩ := List.mem_flatMap.mp htable
  obtain ⟨message, hmessage, hpart⟩ := exists_item_of_mapM_eq_ok hparts hpart
  obtain ⟨origin, horigin, hdescribed⟩ := message.exists_origin_of_tables hpart htable
  refine ⟨file, hfile, origin, List.mem_flatMap.mpr ⟨message, hmessage, horigin⟩, ?_⟩
  rwa [hname]

/-- The table of a message goes back to a declaration of the set, under the same name
and at the same home. -/
theorem Scope.exists_declaration_of_tables {scope : Scope} {files : List FileTable}
    (h : scope.tables = .ok files) {table : MessageTable}
    (htable : table ∈ files.flatMap FileTable.messages) :
    ∃ d ∈ scope.set.declarations, table.fullName = FullName.bare d.name ∧ d.home = table.home := by
  obtain ⟨file, hfile, origin, horigin, hbuilt⟩ := exists_origin_of_tables h htable
  exact ⟨_, FileSet.declaration_mem hfile horigin, hbuilt.fullName, hbuilt.home⟩

/-- The fields of a table of a set go back to those of a message of the set. -/
theorem Scope.exists_named_of_tables {scope : Scope} {files : List FileTable}
    (h : scope.tables = .ok files) {table : MessageTable}
    (htable : table ∈ files.flatMap FileTable.messages) :
    ∃ file ∈ scope.set.files, ∃ origin ∈ file.named,
      table.fullName = FullName.bare origin.name ∧
      List.Forall₂ (FieldDescriptor.Describes scope) origin.message.fields table.fields := by
  obtain ⟨file, hfile, origin, horigin, hbuilt⟩ := exists_origin_of_tables h htable
  exact ⟨file, hfile, origin, horigin, hbuilt.fullName, hbuilt.describes⟩

/-- What a field of any table of a set holds is what some descriptor says. -/
theorem Scope.exists_holds_of_tables {scope : Scope} {files : List FileTable}
    (h : scope.tables = .ok files) {table : MessageTable}
    (htable : table ∈ files.flatMap FileTable.messages) {built : FieldTable}
    (hbuilt : built ∈ table.fields) :
    ∃ field : FieldDescriptor, field.Holds scope built.content := by
  obtain ⟨_, -, _, -, -, hfields⟩ := exists_named_of_tables h htable
  obtain ⟨field, -, hdescribes⟩ := exists_of_forall₂_right hfields hbuilt
  exact ⟨field, hdescribes.holds⟩

end ProtoSchema
