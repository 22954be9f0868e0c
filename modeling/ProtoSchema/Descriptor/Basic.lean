/-!
# Descriptors

A *descriptor* is a schema as data.  A compiler for schema files writes a
`FileSet`, which holds one `FileDescriptor` per file.  A file declares messages
and enums.  A message declares fields, *oneofs* (groups of fields of which one
at most is set) and further messages and enums inside itself.

A descriptor may leave out nearly everything, so most fields are options.  The
kinds of labels and types are kept as the numbers that were written, and
`FieldDescriptor.labelKind` and `FieldDescriptor.typeKind` read them.

A map field is declared as a repeated field of a message made for it, its
*map entry*, which has a flag among its options.
-/

namespace ProtoSchema

/-! ## Enums -/

/-- One value of an enum. -/
structure EnumValueDescriptor where
  /-- Its name. -/
  name : Option String := none
  /-- Its number. -/
  number : Option Int32 := none
deriving DecidableEq, Repr, Inhabited

/-- An enum. -/
structure EnumDescriptor where
  /-- The name, without the names around it. -/
  name : Option String := none
  /-- The values, in the order of declaration. -/
  values : List EnumValueDescriptor := []
deriving DecidableEq, Repr, Inhabited

/-! ## Fields and oneofs -/

/-- How often a field may occur. -/
inductive Label where
  | optional
  | required
  | repeated
deriving DecidableEq, Repr, Inhabited

/-- The label with this number, if there is one. -/
def Label.ofNumber? : Int32 → Option Label
  | 1 => some .optional
  | 2 => some .required
  | 3 => some .repeated
  | _ => none

/-- The declared type of a field. -/
inductive FieldType where
  | double
  | float
  | int64
  | uint64
  | int32
  | fixed64
  | fixed32
  | bool
  | string
  | group
  | message
  | bytes
  | uint32
  | enum
  | sfixed32
  | sfixed64
  | sint32
  | sint64
deriving DecidableEq, Repr, Inhabited

/-- The type with this number, if there is one. -/
def FieldType.ofNumber? : Int32 → Option FieldType
  | 1 => some .double
  | 2 => some .float
  | 3 => some .int64
  | 4 => some .uint64
  | 5 => some .int32
  | 6 => some .fixed64
  | 7 => some .fixed32
  | 8 => some .bool
  | 9 => some .string
  | 10 => some .group
  | 11 => some .message
  | 12 => some .bytes
  | 13 => some .uint32
  | 14 => some .enum
  | 15 => some .sfixed32
  | 16 => some .sfixed64
  | 17 => some .sint32
  | 18 => some .sint64
  | _ => none

/-- A field of a message. -/
structure FieldDescriptor where
  /-- The name. -/
  name : Option String := none
  /-- The number that stands for the field in encoded messages. -/
  number : Option Int32 := none
  /-- The label, as it was written. -/
  label : Option Int32 := none
  /-- The type, as it was written. -/
  type : Option Int32 := none
  /-- The full name of the message or enum the field refers to, with a dot in
  front. -/
  typeName : Option String := none
  /-- The declared default, as text. -/
  defaultText : Option String := none
  /-- The position of the oneof the field is listed under. -/
  oneofIndex : Option Int32 := none
  /-- The name the field has in JSON. -/
  jsonName : Option String := none
  /-- Whether the field is marked `optional` in a file of the third dialect. -/
  proto3Optional : Option Bool := none
deriving DecidableEq, Repr, Inhabited

namespace FieldDescriptor

/-- The label.  A field without a known label is optional. -/
def labelKind (field : FieldDescriptor) : Label :=
  (field.label.bind Label.ofNumber?).getD .optional

/-- The type, if it is given and known. -/
def typeKind (field : FieldDescriptor) : Option FieldType :=
  field.type.bind FieldType.ofNumber?

/-- The position of the oneof that a field really belongs to.  A field marked
`optional` is listed under a oneof made for it alone, which does not count, and
neither does a negative position. -/
def realOneof (field : FieldDescriptor) : Option Nat :=
  if field.proto3Optional.getD false then none
  else field.oneofIndex.bind fun i => if i < 0 then none else some i.toInt.toNat

end FieldDescriptor

/-- A oneof. -/
structure OneofDescriptor where
  /-- Its name. -/
  name : Option String := none
deriving DecidableEq, Repr, Inhabited

/-! ## Messages -/

/-- The options of a message. -/
structure MessageOptions where
  /-- Whether the message was made for a map field. -/
  mapEntry : Option Bool := none
deriving DecidableEq, Repr, Inhabited

/-- A message. -/
structure MessageDescriptor where
  /-- The name, without the names around it. -/
  name : Option String := none
  /-- The fields, in the order of declaration. -/
  fields : List FieldDescriptor := []
  /-- The messages declared inside this one, map entries among them. -/
  nested : List MessageDescriptor := []
  /-- The enums declared inside this one. -/
  enums : List EnumDescriptor := []
  /-- The options, if any were written. -/
  options : Option MessageOptions := none
  /-- The oneofs, in the order of declaration. -/
  oneofs : List OneofDescriptor := []
deriving Repr, Inhabited, BEq

/-- Whether a message was made for a map field. -/
def MessageDescriptor.isMapEntry (message : MessageDescriptor) : Bool :=
  message.options == some ⟨some true⟩

mutual

/-- A message and the messages inside it, each before those inside itself. -/
def MessageDescriptor.preorder : MessageDescriptor → List MessageDescriptor
  | message@{ nested, .. } => message :: preorderList nested
termination_by structural message => message

/-- The messages of a list and those inside them. -/
def MessageDescriptor.preorderList : List MessageDescriptor → List MessageDescriptor
  | [] => []
  | message :: rest => message.preorder ++ preorderList rest
termination_by structural messages => messages

end

/-! ## Files -/

/-- A schema file. -/
structure FileDescriptor where
  /-- The name other files import this file by. -/
  name : Option String := none
  /-- The package that qualifies every name of the file. -/
  package : Option String := none
  /-- The names of the imported files. -/
  dependencies : List String := []
  /-- The messages of the file. -/
  messages : List MessageDescriptor := []
  /-- The enums of the file, those inside messages left out. -/
  enums : List EnumDescriptor := []
  /-- The dialect: `proto2`, `proto3`, or nothing for `proto2`. -/
  dialect : Option String := none
deriving Repr, Inhabited, BEq

namespace FileDescriptor

/-- The package, empty when none is declared. -/
def packageName (file : FileDescriptor) : String := file.package.getD ""

/-- Whether the file is written in the third dialect. -/
def isProto3 (file : FileDescriptor) : Bool := file.dialect == some "proto3"

/-- What stands before a name of the file to make it a full name: the package
between two dots, or one dot. -/
def typePrefix (file : FileDescriptor) : String :=
  match file.packageName with
  | "" => "."
  | package => s!".{package}."

end FileDescriptor

/-- A set of schema files, each after those it imports. -/
structure FileSet where
  /-- The files. -/
  files : List FileDescriptor := []
deriving Repr, Inhabited, BEq

namespace FileSet

/-- The first file of this name. -/
def find? (set : FileSet) (name : String) : Option FileDescriptor :=
  set.files.find? fun file => file.name == some name

/-- The names of the files, in order. -/
def names (set : FileSet) : List String := set.files.filterMap FileDescriptor.name

end FileSet

/-- The files of two sets, those of the first one first. -/
instance : Append FileSet := ⟨fun first second => ⟨first.files ++ second.files⟩⟩

theorem FileSet.files_append (first second : FileSet) :
    (first ++ second).files = first.files ++ second.files := rfl

end ProtoSchema
