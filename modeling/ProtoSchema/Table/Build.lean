import ProtoSchema.Resolve.Scope

/-!
# Building tables

Building turns the descriptors of a file into tables.  It checks that what a
table needs is there, and looks up every type that a field refers to.  The first
fault stops the build.  Faults are found in the order of declaration: the fields
of a message, then its oneofs, then the messages inside it.

A oneof counts when a field really belongs to it.  The oneofs that count are
numbered anew, in the order of declaration.

A value of an enum that lacks its name or its number is left out of the table of
the enum, and an enum without a name is left out altogether.
-/

namespace ProtoSchema

/-! ## Fields -/

/-- The scalar that a type stands for, if it is one. -/
def FieldType.scalar? : FieldType → Option Scalar
  | .double => some .double
  | .float => some .float
  | .int64 => some .int64
  | .uint64 => some .uint64
  | .int32 => some .int32
  | .fixed64 => some .fixed64
  | .fixed32 => some .fixed32
  | .bool => some .bool
  | .string => some .string
  | .bytes => some .bytes
  | .uint32 => some .uint32
  | .sfixed32 => some .sfixed32
  | .sfixed64 => some .sfixed64
  | .sint32 => some .sint32
  | .sint64 => some .sint64
  | .group | .message | .enum => none

namespace FieldDescriptor

/-- The type of a field, which must be given and known. -/
def checkedType (file : String) (field : FieldDescriptor) : Except Failure FieldType :=
  match field.typeKind with
  | some type => .ok type
  | none =>
    .error (.descriptor (.unknownType (field.name.getD "") file (field.type.getD (-1))))

/-- The name of the type that a field refers to. -/
def checkedReference (file : String) (field : FieldDescriptor) : Except Failure String :=
  match field.typeName with
  | some name => .ok name
  | none => .error (.descriptor (.missingReference (field.name.getD "") file))

/-- The content that a reference stands for.  A group refers to a message. -/
def referencedContent (scope : Scope) (file : String) (type : FieldType) (name : String) :
    Except Failure Content :=
  match type with
  | .enum =>
    match scope.enum? name with
    | some table => .ok (.enum table)
    | none => .error (.unresolvedType file name)
  | _ =>
    match scope.kind? name with
    | some .message => .ok (.message (FullName.bare name))
    | _ => .error (.unresolvedType file name)

/-- What one occurrence of a field holds. -/
def content (scope : Scope) (file : String) (field : FieldDescriptor) : Except Failure Content := do
  let type ← field.checkedType file
  match type.scalar? with
  | some scalar => .ok (.scalar scalar)
  | none => referencedContent scope file type (← field.checkedReference file)

/-- How often a field occurs.  In the third dialect a field that may be left
out shows its absence when it is marked so, belongs to a oneof, or holds a
message. -/
def presence (isProto3 : Bool) (field : FieldDescriptor) : Presence :=
  match field.labelKind with
  | .repeated => .repeated
  | .required => .required
  | .optional =>
    if !isProto3 || field.proto3Optional.getD false || field.realOneof.isSome ||
        field.typeKind == some .message then .optional
    else .implicit

end FieldDescriptor

/-- Reads the default of a field of this content. -/
def Content.readDefault? : Content → String → Option Atom
  | .scalar kind, text => kind.readDefault? text
  | .enum table, text => (table.numberOf? text).map .enum
  | .message _, _ => none

/-- The table of a field.  The position of its oneof is still the declared
one. -/
def FieldDescriptor.table (scope : Scope) (file : String) (isProto3 : Bool)
    (field : FieldDescriptor) : Except Failure FieldTable := do
  let some name := field.name | .error (.descriptor (.unnamedField file))
  let some number := field.number.filter (0 < ·) | .error (.descriptor (.badNumber name file))
  let content ← field.content scope file
  let default ←
    match field.defaultText with
    | none => .ok none
    | some text =>
      match content.readDefault? text with
      | some value => .ok (some value)
      | none => .error (.descriptor (.badDefault name file text))
  return {
    name
    number := number.toInt.toNat
    content
    presence := field.presence isProto3
    default
    oneof := field.realOneof
    jsonName := field.jsonName }

/-! ## Messages -/

namespace MessageDescriptor

/-- The positions of the declared oneofs that fields really belong to. -/
def realOneofs (message : MessageDescriptor) : List Nat :=
  (List.range message.oneofs.length).filter fun i =>
    message.fields.any fun field => field.realOneof == some i

/-- The tables of the fields, with oneofs numbered anew. -/
def fieldTables (scope : Scope) (file : String) (isProto3 : Bool) (message : MessageDescriptor) :
    Except Failure (List FieldTable) :=
  message.fields.mapM fun field => do
    let table ← field.table scope file isProto3
    return { table with
      oneof := table.oneof.bind fun i => message.realOneofs.findIdx? (· == i) }

/-- The names of the oneofs that count. -/
def oneofNames (fullName : String) (message : MessageDescriptor) :
    Except Failure (List String) :=
  message.realOneofs.mapM fun i =>
    match message.oneofs[i]?.bind OneofDescriptor.name with
    | some name => .ok name
    | none => .error (.descriptor (.unnamedOneof fullName))

/-- The table of a message itself. -/
def table (scope : Scope) (file package : String) (isProto3 : Bool) (outer name : String)
    (message : MessageDescriptor) : Except Failure MessageTable := do
  let fullName := FullName.inside outer name
  let fields ← message.fieldTables scope file isProto3
  let oneofs ← message.oneofNames fullName
  return {
    fullName := FullName.bare fullName
    name
    package
    file
    fields
    oneofs
    isMapEntry := message.isMapEntry }

end MessageDescriptor

/-- The table of an enum, as the scope knows it. -/
def EnumDescriptor.tables (scope : Scope) (outer : String) (enum : EnumDescriptor) :
    List EnumTable :=
  match enum.name with
  | none => []
  | some name => (scope.enums.find? (FullName.inside outer name)).toList

mutual

/-- The tables of a message and of the messages inside it, which come first. -/
def MessageDescriptor.tables (scope : Scope) (file package : String) (isProto3 : Bool)
    (outer : String) : MessageDescriptor → Except Failure (List MessageTable × List EnumTable)
  | { name := none, .. } => .error (.descriptor (.unnamedMessage file))
  | message@{ name := some name, nested, enums, .. } => do
    let own ← message.table scope file package isProto3 outer name
    let inner := FullName.asOuter (FullName.inside outer name)
    let (messages, innerEnums) ←
      MessageDescriptor.tablesInside scope file package isProto3 inner nested
    return (messages ++ [own], enums.flatMap (EnumDescriptor.tables scope inner) ++ innerEnums)
termination_by structural message => message

/-- The tables of several messages and of those inside them. -/
def MessageDescriptor.tablesInside (scope : Scope) (file package : String) (isProto3 : Bool)
    (outer : String) :
    List MessageDescriptor → Except Failure (List MessageTable × List EnumTable)
  | [] => .ok ([], [])
  | message :: rest => do
    let (messages, enums) ← message.tables scope file package isProto3 outer
    let (moreMessages, moreEnums) ← tablesInside scope file package isProto3 outer rest
    return (messages ++ moreMessages, enums ++ moreEnums)
termination_by structural messages => messages

end

/-! ## Files and sets -/

/-- The name of a file, which must be given. -/
def FileDescriptor.checkedName (file : FileDescriptor) : Except Failure String :=
  match file.name with
  | some name => .ok name
  | none => .error (.descriptor .unnamedFile)

/-- The tables of a file. -/
def FileDescriptor.tables (scope : Scope) (file : FileDescriptor) : Except Failure FileTable := do
  let name ← file.checkedName
  scope.checkDependencies name file.dependencies
  let (messages, enums) ←
    MessageDescriptor.tablesInside scope name file.packageName file.isProto3 file.typePrefix
      file.messages
  return {
    file := name
    package := file.packageName
    dependencies := file.dependencies
    messages
    enums := file.enums.flatMap (EnumDescriptor.tables scope file.typePrefix) ++ enums }

/-- The tables of every file of a scope, in order. -/
def Scope.tables (scope : Scope) : Except Failure (List FileTable) :=
  scope.set.files.mapM (FileDescriptor.tables scope)

end ProtoSchema
