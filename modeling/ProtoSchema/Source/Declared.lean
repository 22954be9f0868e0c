import ProtoSchema.Source.Item
import ProtoSchema.Source.Naming
import ProtoSchema.Source.TypePath
import ProtoSchema.Table.Build

/-!
# Items for what a file declares

`FileDescriptor.items` turns what a file declares into items of source text:
first the enums of the file, then its messages.  The items of a file stand one
module below the root that all files share, and what is declared inside a
message stands one module deeper.  A type is named by the way up to the root and
down again, so the depth of a module is part of what is written in it.

The fields of a record are those of the message that belong to no oneof, and
then one for each oneof.  A field that is cyclic holds its message behind a
pointer.  A map field holds a map, and its map entry is not rendered.

The first fault stops the work.  A name that is no identifier is a fault, found
where the name is needed.
-/

namespace ProtoSchema

/-- Reads a name as an identifier. -/
def Ident.check (text : String) : Except Failure Ident :=
  match Ident.ofText? text with
  | some ident => .ok ident
  | none => .error (.notIdentifier text)

/-! ## Types -/

/-- The type of the atoms of a scalar. -/
def Scalar.sourceType (scalar : Scalar) : SourceType :=
  match scalar.representation with
  | .int32 | .enum => .builtin "i32"
  | .int64 => .builtin "i64"
  | .uint32 => .builtin "u32"
  | .uint64 => .builtin "u64"
  | .float => .builtin "f32"
  | .double => .builtin "f64"
  | .bool => .builtin "bool"
  | .text => .text
  | .bytes => .bytes

/-- The way to a type from a module, as names. -/
def Scope.typePath (scope : Scope) (file : String) (depth : Nat) (name : String) :
    Except Failure TypePath :=
  match scope.home? name with
  | none => .error (.unresolvedType file name)
  | some home =>
    let names := Naming.pathFrom depth name home.package home.file
    match TypePath.ofNames? names with
    | some path => .ok path
    | none => .error (.badTypePath ("::".intercalate names))

namespace FieldDescriptor

/-- The type of one occurrence of a field.  A value of an enum is kept as its
number. -/
def sourceItemType (scope : Scope) (file : String) (depth : Nat) (field : FieldDescriptor) :
    Except Failure SourceType := do
  let type ← field.checkedType file
  match type.scalar? with
  | some scalar => return scalar.sourceType
  | none =>
    if type == .enum then return .builtin "i32"
    else
      let name ← field.checkedReference file
      return .path (← scope.typePath file depth name)

/-- The type that a message is held by, behind a pointer when its field is
cyclic. -/
def held (scope : Scope) (message : String) (field : FieldDescriptor) (type : SourceType) :
    SourceType :=
  if scope.isCyclic message (field.name.getD "") then .boxed type else type

/-- The type of a field that is no map. -/
def sourceType (scope : Scope) (file : String) (isProto3 : Bool) (depth : Nat)
    (message : String) (field : FieldDescriptor) : Except Failure SourceType := do
  let type := field.held scope message (← field.sourceItemType scope file depth)
  match field.presence isProto3 with
  | .repeated => return .list type
  | .optional => return .optional type
  | .required | .implicit => return type

end FieldDescriptor

/-! ## Fields -/

namespace MessageDescriptor

/-- The first field with this number. -/
def fieldNumbered? (message : MessageDescriptor) (number : Int32) : Option FieldDescriptor :=
  message.fields.find? fun field => field.number == some number

/-- The map that a map entry stands for.  Its keys are in the first field and
its values in the second. -/
def mapType (scope : Scope) (file : String) (depth : Nat) (entry : MessageDescriptor) :
    Except Failure SourceType :=
  match entry.fieldNumbered? 1, entry.fieldNumbered? 2 with
  | some key, some value => do
    let key ← key.sourceItemType scope file depth
    let value ← value.sourceItemType scope file depth
    return .map key value
  | _, _ => .error (.descriptor (.incompleteMapEntry (entry.name.getD "") file))

/-- The map entry that a field refers to, among those inside its message.  Of
two with one name the last counts. -/
def mapEntry? (inner : String) (message : MessageDescriptor) (field : FieldDescriptor) :
    Option MessageDescriptor :=
  field.typeName.bind fun target =>
    message.nested.reverse.find? fun entry =>
      entry.isMapEntry && (entry.name.map (FullName.inside inner)) == some target

/-- The record field for a field that belongs to no oneof. -/
def recordField (scope : Scope) (file : String) (isProto3 : Bool) (depth : Nat)
    (fullName : String) (message : MessageDescriptor) (field : FieldDescriptor) :
    Except Failure RecordField := do
  let name ← Ident.check (Naming.fieldName (field.name.getD ""))
  let type ←
    match message.mapEntry? (FullName.asOuter fullName) field with
    | some entry => entry.mapType scope file depth
    | none => field.sourceType scope file isProto3 depth fullName
  return { number := some (field.number.getD 0), name, type }

/-- The record fields for the fields that belong to no oneof. -/
def recordFields (scope : Scope) (file : String) (isProto3 : Bool) (depth : Nat)
    (fullName : String) (message : MessageDescriptor) : Except Failure (List RecordField) :=
  (message.fields.filter fun field => field.realOneof.isNone).mapM
    (message.recordField scope file isProto3 depth fullName)

/-! ## Oneofs -/

/-- The variant for a member of a oneof. -/
def choiceVariant (scope : Scope) (file : String) (depth : Nat) (fullName : String)
    (member : FieldDescriptor) : Except Failure ChoiceVariant := do
  let name ← Ident.check (Naming.variantName (member.name.getD ""))
  let type ← member.sourceItemType scope file depth
  return { name, type := member.held scope fullName type }

/-- The choice for a oneof, and the record field that holds it. -/
def choice (scope : Scope) (file : String) (depth : Nat) (fullName : String) (inside : Ident)
    (message : MessageDescriptor) (position : Nat) :
    Except Failure (ChoiceItem × RecordField) := do
  let oneof := ((message.oneofs[position]?).bind OneofDescriptor.name).getD ""
  let name ← Ident.check (Naming.variantName oneof)
  let fieldName ← Ident.check (Naming.fieldName oneof)
  let members := message.fields.filter fun field => field.realOneof == some position
  let variants ← members.mapM (choiceVariant scope file (depth + 1) fullName)
  let type := SourceType.optional (.path (.ofIdents [inside, name]))
  return ({ name, variants }, { number := none, name := fieldName, type })

/-- The choices for the oneofs that have members. -/
def choices (scope : Scope) (file : String) (depth : Nat) (fullName : String) (inside : Ident)
    (message : MessageDescriptor) : Except Failure (List (ChoiceItem × RecordField)) :=
  message.realOneofs.mapM (message.choice scope file depth fullName inside)

end MessageDescriptor

/-! ## Enums -/

namespace EnumDescriptor

/-- The variant for a value, which must have a name and a number. -/
def variant (file enum : String) (value : EnumValueDescriptor) : Except Failure EnumVariant :=
  match value.name, value.number with
  | some name, some number => do return ⟨← Ident.check (Naming.variantName name), number⟩
  | _, _ => .error (.descriptor (.incompleteValue enum file))

/-- The enumeration for an enum. -/
def item (file : String) (enum : EnumDescriptor) : Except Failure EnumItem :=
  match enum.name with
  | none => .error (.descriptor (.unnamedEnum file))
  | some enumName => do
    let name ← Ident.check (Naming.typeName enumName)
    match ← enum.values.mapM (variant file enumName) with
    | [] => .error (.descriptor (.emptyEnum enumName file))
    | first :: rest => return .ofValues name first rest

end EnumDescriptor

/-! ## Messages and files -/

/-- A module, unless there is nothing to put into it. -/
def Item.moduleOf (name : Ident) : List Item → List Item
  | [] => []
  | items => [.module name items]

mutual

/-- The record for a message, and the module for what is declared inside. -/
def MessageDescriptor.items (scope : Scope) (file : String) (isProto3 : Bool) (depth : Nat)
    (outer : String) : MessageDescriptor → Except Failure (List Item)
  | { name := none, .. } => .error (.descriptor (.unnamedMessage file))
  | message@{ name := some ownName, nested, enums, .. } => do
    let fullName := FullName.inside outer ownName
    let name ← Ident.check (Naming.typeName ownName)
    let inside ← Ident.check (Naming.fieldName ownName)
    let fields ← message.recordFields scope file isProto3 depth fullName
    let choices ← message.choices scope file depth fullName inside
    let enumItems ← enums.mapM (EnumDescriptor.item file)
    let messageItems ← MessageDescriptor.itemsInside scope file isProto3 (depth + 1)
      (FullName.asOuter fullName) nested
    let record := {
      name
      fullName := FullName.bare fullName
      fields := fields ++ choices.map Prod.snd }
    return .record record ::
      Item.moduleOf inside
        (choices.map (fun (choice, _) => .choice choice) ++ enumItems.map .enumeration ++
          messageItems)
termination_by structural message => message

/-- The items for the messages inside another, map entries left out. -/
def MessageDescriptor.itemsInside (scope : Scope) (file : String) (isProto3 : Bool) (depth : Nat)
    (outer : String) : List MessageDescriptor → Except Failure (List Item)
  | [] => .ok []
  | message :: rest => do
    let items ←
      if message.isMapEntry then pure []
      else message.items scope file isProto3 depth outer
    return items ++ (← itemsInside scope file isProto3 depth outer rest)
termination_by structural messages => messages

end

/-- The items for what a file of this name declares. -/
def FileDescriptor.items (scope : Scope) (name : String) (file : FileDescriptor) :
    Except Failure (List Item) := do
  let enums ← file.enums.mapM (EnumDescriptor.item name)
  let messages ← file.messages.mapM
    (MessageDescriptor.items scope name file.isProto3 1 file.typePrefix)
  return enums.map .enumeration ++ messages.flatten

end ProtoSchema
