import Mathlib.Data.List.Find
import ProtoSchema.Proofs.Table.Declared

/-!
# What tables depend on

Building tables consults a scope in three places: for what a field holds, for the
table of a declared enum, and for the files that a file imports.  Two scopes that
give the same answers there give the same tables, and the same fault if there is
one (`FileDescriptor.tables_congr`).

When tables are built, every message and every field at any depth has one
(`FileDescriptor.exists_messageTable_of_tables`,
`FileDescriptor.exists_hasTable_of_tables`).  So a scope in which all fields hold what
they held gives the same tables (`FileDescriptor.tables_of_holds`), and one in which
more names are known, and those that were known mean the same, is such a scope
(`FileDescriptor.tables_mono`).
-/

namespace ProtoSchema

open Checked

variable {a b : Scope}

/-! ## Fields -/

theorem FieldDescriptor.content_congr {file : String} {field : FieldDescriptor}
    (hkind : ∀ name, field.typeName = some name → a.kind? name = b.kind? name)
    (henum : ∀ name, field.typeKind = some .enum → field.typeName = some name →
      a.enum? name = b.enum? name) :
    field.content a file = field.content b file := by
  refine bind_congr_ok fun type htype => ?_
  cases hscalar : type.scalar? with
  | some scalar => rfl
  | none =>
    refine bind_congr_ok fun name hname => ?_
    have hname := checkedReference_eq_ok.mp hname
    by_cases htypeEnum : type = .enum
    · subst htypeEnum
      unfold referencedContent
      rw [henum name (checkedType_eq_ok.mp htype) hname]
    · have hmessage := type_of_scalar?_eq_none hscalar htypeEnum
      rw [referencedContent_of_message hmessage, referencedContent_of_message hmessage,
        hkind name hname]

theorem FieldDescriptor.table_congr {file : String} {isProto3 : Bool} {field : FieldDescriptor}
    (h : field.content a file = field.content b file) :
    field.table a file isProto3 = field.table b file isProto3 := by
  unfold FieldDescriptor.table
  rw [h]

/-! ## Messages -/

namespace MessageDescriptor

theorem table_congr {file package : String} {isProto3 : Bool} {outer name : String}
    {message : MessageDescriptor}
    (h : ∀ field ∈ message.fields, field.content a file = field.content b file) :
    message.table a file package isProto3 outer name =
      message.table b file package isProto3 outer name := by
  have hfields : message.fieldTables a file isProto3 = message.fieldTables b file isProto3 := by
    refine mapM_congr_mem fun field hfield => ?_
    rw [FieldDescriptor.table_congr (h field hfield)]
  unfold MessageDescriptor.table
  rw [hfields]

theorem tables_congr {file package : String} {isProto3 : Bool} {outer : String}
    {message : MessageDescriptor}
    (hfields : ∀ inner ∈ message.preorder, ∀ field ∈ inner.fields,
      field.content a file = field.content b file)
    (henums : ∀ d ∈ message.declarations package file outer,
      a.declaredEnum? d = b.declaredEnum? d) :
    message.tables a file package isProto3 outer =
      message.tables b file package isProto3 outer := by
  induction message using nesting generalizing outer with
  | step message ih =>
    cases hname : message.name with
    | none => rw [tables_of_name_eq_none hname, tables_of_name_eq_none hname]
    | some name =>
      rw [declarations_of_name_eq_some hname] at henums
      have hown : message.table a file package isProto3 outer name =
          message.table b file package isProto3 outer name :=
        table_congr (hfields message (mem_preorder_self message))
      have hinside : message.nested.mapM (tables a file package isProto3
            (FullName.asOuter (FullName.inside outer name))) =
          message.nested.mapM (tables b file package isProto3
            (FullName.asOuter (FullName.inside outer name))) := by
        refine mapM_congr_mem fun inner hinner => ih inner hinner ?_ ?_
        · intro found hfound
          exact hfields found (mem_preorder_of_nested hinner hfound)
        · intro d hd
          exact henums d (.tail _ (List.mem_append_left _
            (List.mem_flatMap.mpr ⟨inner, hinner, hd⟩)))
      have henumTables : ∀ enum ∈ message.enums,
          enum.tables a (FullName.asOuter (FullName.inside outer name)) =
            enum.tables b (FullName.asOuter (FullName.inside outer name)) := by
        intro enum henum
        rw [enum.tables_eq_filterMap a package file, enum.tables_eq_filterMap b package file]
        refine List.filterMap_congr fun d hd => henums d (.tail _ (List.mem_append_right _ ?_))
        exact List.mem_flatMap.mpr ⟨enum, henum, hd⟩
      rw [tables_of_name_eq_some hname, tables_of_name_eq_some hname, hown, tablesInside_eq,
        tablesInside_eq, hinside, List.flatMap_congr henumTables]

/-- Every message at any depth has a name and a table. -/
theorem exists_messageTable_of_tables {scope : Scope} {file package : String} {isProto3 : Bool}
    {outer : String} {message : MessageDescriptor} {found : List MessageTable × List EnumTable}
    (h : message.tables scope file package isProto3 outer = .ok found)
    {inner : MessageDescriptor} (hinner : inner ∈ message.preorder) :
    ∃ around name table, inner.name = some name ∧
      inner.HasTable scope file package isProto3 around name table := by
  induction message using nesting generalizing outer found with
  | step message ih =>
    obtain ⟨name, own, parts, hname, hown, hparts, rfl⟩ := tables_eq_ok h
    rw [preorder_eq] at hinner
    rcases List.mem_cons.mp hinner with rfl | hinside
    · exact ⟨outer, name, own, hname, hown⟩
    · obtain ⟨nested, hnested, hinside⟩ := List.mem_flatMap.mp hinside
      obtain ⟨part, -, hpart⟩ := exists_of_mapM_eq_ok hparts hnested
      exact ih nested hnested hpart hinside

end MessageDescriptor

/-! ## Files -/

theorem FileDescriptor.tables_congr {file : FileDescriptor}
    (hdependencies : ∀ name, file.name = some name →
      a.checkDependencies name file.dependencies = b.checkDependencies name file.dependencies)
    (hfields : ∀ name, file.name = some name → ∀ message ∈ file.allMessages,
      ∀ field ∈ message.fields, field.content a name = field.content b name)
    (henums : ∀ d ∈ file.declarations, a.declaredEnum? d = b.declaredEnum? d) :
    file.tables a = file.tables b := by
  refine bind_congr_ok fun name hname => ?_
  have hname := checkedName_eq_ok.mp hname
  rw [declarations, hname] at henums
  have hmessages : file.messages.mapM (MessageDescriptor.tables a name file.packageName
        file.isProto3 file.typePrefix) =
      file.messages.mapM (MessageDescriptor.tables b name file.packageName file.isProto3
        file.typePrefix) := by
    refine mapM_congr_mem fun message hmessage => MessageDescriptor.tables_congr ?_ ?_
    · intro inner hinner
      exact hfields name hname inner (mem_allMessages.mpr ⟨message, hmessage, hinner⟩)
    · intro d hd
      exact henums d (List.mem_append_left _ (List.mem_flatMap.mpr ⟨message, hmessage, hd⟩))
  have henumTables : ∀ enum ∈ file.enums,
      enum.tables a file.typePrefix = enum.tables b file.typePrefix := by
    intro enum henum
    rw [enum.tables_eq_filterMap a file.packageName name,
      enum.tables_eq_filterMap b file.packageName name]
    refine List.filterMap_congr fun d hd => henums d (List.mem_append_right _ ?_)
    exact List.mem_flatMap.mpr ⟨enum, henum, hd⟩
  rw [hdependencies name hname, MessageDescriptor.tablesInside_eq,
    MessageDescriptor.tablesInside_eq, hmessages, List.flatMap_congr henumTables]

/-- Every message of a file has a name and a table. -/
theorem FileDescriptor.exists_messageTable_of_tables {scope : Scope} {file : FileDescriptor}
    {found : FileTable} (h : file.tables scope = .ok found) {message : MessageDescriptor}
    (hmessage : message ∈ file.allMessages) :
    ∃ outer name table, message.name = some name ∧
      message.HasTable scope found.file file.packageName file.isProto3 outer name table := by
  obtain ⟨name, parts, -, -, hparts, rfl⟩ := tables_eq_ok h
  obtain ⟨outermost, houtermost, hmessage⟩ := mem_allMessages.mp hmessage
  obtain ⟨part, -, hpart⟩ := exists_of_mapM_eq_ok hparts houtermost
  exact MessageDescriptor.exists_messageTable_of_tables hpart hmessage

/-- Every field of a file has a table. -/
theorem FileDescriptor.exists_hasTable_of_tables {scope : Scope} {file : FileDescriptor}
    {found : FileTable} (h : file.tables scope = .ok found) {message : MessageDescriptor}
    (hmessage : message ∈ file.allMessages) {field : FieldDescriptor}
    (hfield : field ∈ message.fields) :
    ∃ table, field.HasTable scope found.file file.isProto3 table := by
  obtain ⟨outer, name, own, -, hown⟩ := exists_messageTable_of_tables h hmessage
  obtain ⟨built, -, hbuilt⟩ := exists_of_mapM_eq_ok hown.fields hfield
  obtain ⟨table, htable, -⟩ := bind_eq_ok.mp hbuilt
  exact ⟨table, FieldDescriptor.hasTable_of_table htable⟩

/-! ## Larger scopes -/

namespace Scope

/-- Whether a file is in the set or was loaded before. -/
def hasFile (scope : Scope) (name : String) : Bool :=
  (scope.set.find? name).isSome || scope.loaded.containsFile name

theorem checkDependencies_eq (scope : Scope) (file : String) (dependencies : List String) :
    scope.checkDependencies file dependencies =
      match dependencies.find? fun name => !scope.hasFile name with
      | some missing => .error (.unresolvedDependency file missing)
      | none => .ok () := by
  have hmissing : (fun name => (scope.set.find? name).isNone && !scope.loaded.containsFile name) =
      fun name => !scope.hasFile name := by
    funext name
    rw [hasFile, Bool.not_or, Option.not_isSome]
  unfold checkDependencies
  cases hfound : dependencies.find? fun name => !scope.hasFile name with
  | none => rw [hmissing, hfound]
  | some missing => rw [hmissing, hfound]

theorem checkDependencies_congr {dependencies : List String}
    (h : ∀ name ∈ dependencies, a.hasFile name = b.hasFile name) (file : String) :
    a.checkDependencies file dependencies = b.checkDependencies file dependencies := by
  have hmissing : (dependencies.find? fun name => !a.hasFile name) =
      dependencies.find? fun name => !b.hasFile name :=
    List.find?_congr fun name hname => congrArg Bool.not (h name hname)
  rw [checkDependencies_eq, checkDependencies_eq, hmissing]

theorem checkDependencies_eq_ok {scope : Scope} {file : String} {dependencies : List String} :
    scope.checkDependencies file dependencies = .ok () ↔
      ∀ name ∈ dependencies, scope.hasFile name = true := by
  rw [checkDependencies_eq]
  cases hmissing : dependencies.find? fun name => !scope.hasFile name with
  | none =>
    rw [List.find?_eq_none] at hmissing
    refine iff_of_true rfl fun name hname => ?_
    simpa using hmissing name hname
  | some missing =>
    refine iff_of_false (fun h => by cases h) fun h => ?_
    have hfound := List.find?_some hmissing
    simp only [h missing (List.mem_of_find?_eq_some hmissing), Bool.not_true] at hfound
    cases hfound

/-- A scope in which what is known in a smaller one means the same. -/
structure Extends (small large : Scope) : Prop where
  kind : ∀ name kind, small.kind? name = some kind → large.kind? name = some kind
  enum : ∀ name table, small.enum? name = some table → large.enum? name = some table
  file : ∀ name, small.hasFile name = true → large.hasFile name = true

end Scope

theorem FieldDescriptor.Holds.mono {field : FieldDescriptor} {content : Content}
    (hab : a.Extends b) (h : field.Holds a content) : field.Holds b content := by
  cases h with
  | scalar htype hscalar => exact .scalar htype hscalar
  | enum htype hname henum => exact .enum htype hname (hab.enum _ _ henum)
  | message htype hmessage hname hkind =>
    exact .message htype hmessage hname (hab.kind _ _ hkind)

/-- Tables that are built in a scope are built in another one that knows the imported files
and in which the fields hold the same. -/
theorem FileDescriptor.tables_of_holds {file : FileDescriptor}
    (hfiles : ∀ name ∈ file.dependencies, a.hasFile name = true → b.hasFile name = true)
    (hfields : ∀ message ∈ file.allMessages, ∀ field ∈ message.fields, ∀ content,
      field.Holds a content → field.Holds b content)
    (henums : ∀ d ∈ file.declarations, a.declaredEnum? d = b.declaredEnum? d)
    {found : FileTable} (h : file.tables a = .ok found) : file.tables b = .ok found := by
  obtain ⟨name, parts, hname, hdependencies, -, hfound⟩ := tables_eq_ok h
  rw [← h]
  refine (tables_congr ?_ ?_ henums).symm
  · intro name' hname'
    cases hname.symm.trans hname'
    have hknown := Scope.checkDependencies_eq_ok.mp hdependencies
    rw [hdependencies, Scope.checkDependencies_eq_ok.mpr
      fun dependency hmem => hfiles dependency hmem (hknown dependency hmem)]
  · intro name' hname' message hmessage field hfield
    cases hname.symm.trans hname'
    obtain ⟨table, htable⟩ := exists_hasTable_of_tables h hmessage hfield
    have hcontent := htable.content
    rw [hfound] at hcontent
    have hholds := hfields message hmessage field hfield _
      (FieldDescriptor.holds_of_content hcontent)
    rw [hcontent, hholds.content_eq]

/-- Tables that are built in a scope are built in a larger one. -/
theorem FileDescriptor.tables_mono {file : FileDescriptor} (hab : a.Extends b)
    (henums : ∀ d ∈ file.declarations, a.declaredEnum? d = b.declaredEnum? d)
    {found : FileTable} (h : file.tables a = .ok found) : file.tables b = .ok found :=
  tables_of_holds (fun name _ => hab.file name) (fun _ _ _ _ _ hholds => hholds.mono hab) henums h

end ProtoSchema
