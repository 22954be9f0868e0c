import ProtoSchema.Table.Build
import ProtoSchema.Proofs.Collection.Checked
import ProtoSchema.Proofs.Descriptor.Nesting

/-!
# What it means that tables are built

Building stops at the first fault, so a table tells what was checked on the way
to it.  For each kind of descriptor there is one statement of that.

`FieldDescriptor.Holds` lists what a field may hold and why.
`FieldDescriptor.HasTable` and `MessageDescriptor.HasTable` list the parts of a
table of a field and of a message.  `MessageDescriptor.tables_eq_ok` and
`FileDescriptor.tables_eq_ok` say which tables come out for a message with
everything inside it, and for a file.
-/

namespace ProtoSchema

open Checked

/-! ## Fields -/

namespace FieldDescriptor

/-- What a field may hold in a scope. -/
inductive Holds (scope : Scope) (field : FieldDescriptor) : Content → Prop where
  | scalar {type : FieldType} {scalar : Scalar} :
    field.typeKind = some type →
    type.scalar? = some scalar →
    Holds scope field (.scalar scalar)
  | enum {name : String} {table : EnumTable} :
    field.typeKind = some .enum →
    field.typeName = some name →
    scope.enum? name = some table →
    Holds scope field (.enum table)
  | message {type : FieldType} {name : String} :
    field.typeKind = some type →
    type = .message ∨ type = .group →
    field.typeName = some name →
    scope.kind? name = some .message →
    Holds scope field (.message (FullName.bare name))

/-- A type that is no scalar and no enum is that of a message or a group. -/
theorem type_of_scalar?_eq_none {type : FieldType} (h : type.scalar? = none)
    (henum : type ≠ .enum) : type = .message ∨ type = .group := by
  cases type <;> first | exact Or.inl rfl | exact Or.inr rfl | exact absurd rfl henum | cases h

theorem scalar?_eq_none_of_message {type : FieldType} (h : type = .message ∨ type = .group) :
    type.scalar? = none := by
  rcases h with rfl | rfl
  · rfl
  · rfl

/-- What a reference to a message or a group stands for. -/
theorem referencedContent_of_message {scope : Scope} {file name : String} {type : FieldType}
    (h : type = .message ∨ type = .group) :
    referencedContent scope file type name =
      match scope.kind? name with
      | some .message => .ok (.message (FullName.bare name))
      | _ => .error (.unresolvedType file name) := by
  rcases h with rfl | rfl
  · rfl
  · rfl

theorem checkedType_eq_ok {file : String} {field : FieldDescriptor} {type : FieldType} :
    field.checkedType file = .ok type ↔ field.typeKind = some type := by
  unfold checkedType
  cases field.typeKind with
  | none => simp
  | some found => simp

theorem checkedReference_eq_ok {file name : String} {field : FieldDescriptor} :
    field.checkedReference file = .ok name ↔ field.typeName = some name := by
  unfold checkedReference
  cases field.typeName with
  | none => simp
  | some found => simp

/-- A field is asked for what it holds, and that is what it may hold. -/
theorem holds_of_content {scope : Scope} {file : String} {field : FieldDescriptor}
    {content : Content} (h : field.content scope file = .ok content) :
    field.Holds scope content := by
  obtain ⟨type, htype, h⟩ := bind_eq_ok.mp h
  have htype := checkedType_eq_ok.mp htype
  cases hscalar : type.scalar? with
  | some scalar =>
    rw [hscalar] at h
    cases h
    exact .scalar htype hscalar
  | none =>
    rw [hscalar] at h
    obtain ⟨name, hname, h⟩ := bind_eq_ok.mp h
    have hname := checkedReference_eq_ok.mp hname
    by_cases henum : type = .enum
    · subst henum
      simp only [referencedContent] at h
      split at h
      · next table htable =>
        cases h
        exact .enum htype hname htable
      · cases h
    · have hkind := type_of_scalar?_eq_none hscalar henum
      rw [referencedContent_of_message hkind] at h
      split at h
      · next hfound =>
        cases h
        exact .message htype hkind hname hfound
      · cases h

/-- What a field may hold is found when the field is asked. -/
theorem Holds.content_eq {scope : Scope} {field : FieldDescriptor} {content : Content}
    (h : field.Holds scope content) (file : String) : field.content scope file = .ok content := by
  cases h with
  | scalar htype hscalar =>
    refine bind_eq_ok.mpr ⟨_, checkedType_eq_ok.mpr htype, ?_⟩
    rw [hscalar]
  | enum htype hname henum =>
    refine bind_eq_ok.mpr ⟨_, checkedType_eq_ok.mpr htype, ?_⟩
    refine bind_eq_ok.mpr ⟨_, checkedReference_eq_ok.mpr hname, ?_⟩
    simp only [referencedContent, henum]
  | message htype hmessage hname hkind =>
    refine bind_eq_ok.mpr ⟨_, checkedType_eq_ok.mpr htype, ?_⟩
    have hscalar := scalar?_eq_none_of_message hmessage
    rw [hscalar]
    refine bind_eq_ok.mpr ⟨_, checkedReference_eq_ok.mpr hname, ?_⟩
    rw [referencedContent_of_message hmessage, hkind]

/-- The parts of the table of a field.  The oneof is still the declared one. -/
structure HasTable (scope : Scope) (file : String) (isProto3 : Bool) (field : FieldDescriptor)
    (table : FieldTable) : Prop where
  /-- The field has a name. -/
  name : field.name = some table.name
  /-- The number is positive. -/
  number : ∃ n, field.number = some n ∧ 0 < n ∧ table.number = n.toInt.toNat
  /-- What the field holds was found. -/
  content : field.content scope file = .ok table.content
  /-- A declared default was read. -/
  default : table.default = field.defaultText.bind table.content.readDefault? ∧
    (field.defaultText.isSome = true → table.default.isSome = true)
  presence : table.presence = field.presence isProto3
  oneof : table.oneof = field.realOneof
  jsonName : table.jsonName = field.jsonName

theorem hasTable_of_table {scope : Scope} {file : String} {isProto3 : Bool}
    {field : FieldDescriptor} {table : FieldTable}
    (h : field.table scope file isProto3 = .ok table) :
    field.HasTable scope file isProto3 table := by
  unfold FieldDescriptor.table at h
  split at h
  · next name hname =>
    split at h
    · next number hnumber =>
      obtain ⟨hnumber, hpos⟩ := Option.filter_eq_some_iff.mp hnumber
      obtain ⟨content, hcontent, h⟩ := bind_eq_ok.mp h
      simp only at h
      split at h
      · next hdefault =>
        cases h
        exact ⟨hname, ⟨number, hnumber, of_decide_eq_true hpos, rfl⟩, hcontent,
          ⟨by rw [hdefault]; rfl, by rw [hdefault]; intro h; cases h⟩, rfl, rfl, rfl⟩
      · next text hdefault =>
        split at h
        · next value hvalue =>
          cases h
          exact ⟨hname, ⟨number, hnumber, of_decide_eq_true hpos, rfl⟩, hcontent,
            ⟨by rw [hdefault]; exact hvalue.symm, fun _ => rfl⟩, rfl, rfl, rfl⟩
        · cases h
    · cases h
  · cases h

end FieldDescriptor

/-! ## Messages -/

namespace MessageDescriptor

/-- The parts of the table of a message itself. -/
structure HasTable (scope : Scope) (file package : String) (isProto3 : Bool)
    (outer name : String) (message : MessageDescriptor) (table : MessageTable) : Prop where
  /-- The tables of the fields were built. -/
  fields : message.fieldTables scope file isProto3 = .ok table.fields
  /-- The oneofs that count have names. -/
  oneofs : message.oneofNames (FullName.inside outer name) = .ok table.oneofs
  /-- The dot in front of the full name is gone. -/
  fullName : table.fullName = FullName.bare (FullName.inside outer name)
  name : table.name = name
  package : table.package = package
  file : table.file = file
  isMapEntry : table.isMapEntry = message.isMapEntry

theorem hasTable_of_table {scope : Scope} {file package : String} {isProto3 : Bool}
    {outer name : String} {message : MessageDescriptor} {table : MessageTable}
    (h : message.table scope file package isProto3 outer name = .ok table) :
    message.HasTable scope file package isProto3 outer name table := by
  obtain ⟨fields, hfields, h⟩ := bind_eq_ok.mp h
  obtain ⟨oneofs, honeofs, h⟩ := bind_eq_ok.mp h
  cases h
  exact ⟨hfields, honeofs, rfl, rfl, rfl, rfl, rfl⟩

/-- Messages side by side are worked on one after the other. -/
theorem tablesInside_eq (scope : Scope) (file package : String) (isProto3 : Bool)
    (outer : String) (messages : List MessageDescriptor) :
    tablesInside scope file package isProto3 outer messages =
      messages.mapM (tables scope file package isProto3 outer) >>= fun parts =>
        .ok (parts.flatMap Prod.fst, parts.flatMap Prod.snd) := by
  induction messages with
  | nil => rfl
  | cons message messages ih =>
    rw [tablesInside, ih, List.mapM_cons]
    cases message.tables scope file package isProto3 outer with
    | error e => rfl
    | ok first =>
      cases messages.mapM (tables scope file package isProto3 outer) with
      | error e => rfl
      | ok parts => rfl

theorem tablesInside_eq_ok {scope : Scope} {file package : String} {isProto3 : Bool}
    {outer : String} {messages : List MessageDescriptor}
    {found : List MessageTable × List EnumTable} :
    tablesInside scope file package isProto3 outer messages = .ok found ↔
      ∃ parts, messages.mapM (tables scope file package isProto3 outer) = .ok parts ∧
        found = (parts.flatMap Prod.fst, parts.flatMap Prod.snd) := by
  rw [tablesInside_eq, bind_eq_ok]
  constructor
  · rintro ⟨parts, hparts, h⟩
    cases h
    exact ⟨parts, hparts, rfl⟩
  · rintro ⟨parts, hparts, rfl⟩
    exact ⟨parts, hparts, rfl⟩

/-- The tables of a message that has a name. -/
theorem tables_of_name_eq_some {scope : Scope} {file package : String} {isProto3 : Bool}
    {outer name : String} {message : MessageDescriptor} (h : message.name = some name) :
    message.tables scope file package isProto3 outer =
      message.table scope file package isProto3 outer name >>= fun own =>
        tablesInside scope file package isProto3
            (FullName.asOuter (FullName.inside outer name)) message.nested >>= fun inside =>
          .ok (inside.1 ++ [own],
            message.enums.flatMap (EnumDescriptor.tables scope
              (FullName.asOuter (FullName.inside outer name))) ++ inside.2) := by
  cases message
  cases h
  rfl

theorem tables_of_name_eq_none {scope : Scope} {file package : String} {isProto3 : Bool}
    {outer : String} {message : MessageDescriptor} (h : message.name = none) :
    message.tables scope file package isProto3 outer =
      .error (.descriptor (.unnamedMessage file)) := by
  cases message
  cases h
  rfl

/-- The tables of a message are its own and those inside it. -/
theorem tables_eq_ok {scope : Scope} {file package : String} {isProto3 : Bool} {outer : String}
    {message : MessageDescriptor} {found : List MessageTable × List EnumTable}
    (h : message.tables scope file package isProto3 outer = .ok found) :
    ∃ name own parts, message.name = some name ∧
      message.HasTable scope file package isProto3 outer name own ∧
      message.nested.mapM (tables scope file package isProto3
        (FullName.asOuter (FullName.inside outer name))) = .ok parts ∧
      found = (parts.flatMap Prod.fst ++ [own],
        message.enums.flatMap (EnumDescriptor.tables scope
          (FullName.asOuter (FullName.inside outer name))) ++ parts.flatMap Prod.snd) := by
  cases hname : message.name with
  | none =>
    rw [tables_of_name_eq_none hname] at h
    cases h
  | some name =>
    rw [tables_of_name_eq_some hname] at h
    obtain ⟨own, hown, h⟩ := bind_eq_ok.mp h
    obtain ⟨inside, hinside, h⟩ := bind_eq_ok.mp h
    obtain ⟨parts, hparts, rfl⟩ := tablesInside_eq_ok.mp hinside
    cases h
    exact ⟨name, own, parts, rfl, hasTable_of_table hown, hparts, rfl⟩

end MessageDescriptor

/-! ## Files -/

theorem FileDescriptor.checkedName_eq_ok {file : FileDescriptor} {name : String} :
    file.checkedName = .ok name ↔ file.name = some name := by
  unfold checkedName
  cases file.name with
  | none => simp
  | some found => simp

/-- The tables of a file are those of its messages, with the enums beside the
messages first. -/
theorem FileDescriptor.tables_eq_ok {scope : Scope} {file : FileDescriptor} {found : FileTable}
    (h : file.tables scope = .ok found) :
    ∃ name parts, file.name = some name ∧
      scope.checkDependencies name file.dependencies = .ok () ∧
      file.messages.mapM (MessageDescriptor.tables scope name file.packageName file.isProto3
        file.typePrefix) = .ok parts ∧
      found = {
        file := name
        package := file.packageName
        dependencies := file.dependencies
        messages := parts.flatMap Prod.fst
        enums := file.enums.flatMap (EnumDescriptor.tables scope file.typePrefix) ++
          parts.flatMap Prod.snd } := by
  obtain ⟨name, hname, h⟩ := bind_eq_ok.mp h
  obtain ⟨_, hdependencies, h⟩ := bind_eq_ok.mp h
  obtain ⟨inside, hinside, h⟩ := bind_eq_ok.mp h
  obtain ⟨parts, hparts, rfl⟩ := MessageDescriptor.tablesInside_eq_ok.mp hinside
  cases h
  exact ⟨name, parts, checkedName_eq_ok.mp hname, hdependencies, hparts, rfl⟩

end ProtoSchema
