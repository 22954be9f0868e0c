import ProtoSchema.Descriptor.Basic
import ProtoSchema.Wire.Encode

/-!
# Encoding descriptors

Every descriptor has one encoded form here, in which the fields that are present
are written in the order of their numbers.  The numbers are those that the
tables of known fields in `ProtoSchema.Descriptor.Decode` give.
-/

namespace ProtoSchema

/-! ## Parts of messages -/

/-- Encodes an enum value. -/
def EnumValueDescriptor.encode (value : EnumValueDescriptor) : List UInt8 :=
  writePresent (writeText 1) value.name ++ writePresent (writeInt32 2) value.number

/-- Encodes an enum. -/
def EnumDescriptor.encode (enum : EnumDescriptor) : List UInt8 :=
  writePresent (writeText 1) enum.name ++
    enum.values.flatMap fun value => writeChunk 2 value.encode

/-- Encodes a field. -/
def FieldDescriptor.encode (field : FieldDescriptor) : List UInt8 :=
  writePresent (writeText 1) field.name ++
    writePresent (writeInt32 3) field.number ++
    writePresent (writeInt32 4) field.label ++
    writePresent (writeInt32 5) field.type ++
    writePresent (writeText 6) field.typeName ++
    writePresent (writeText 7) field.defaultText ++
    writePresent (writeInt32 9) field.oneofIndex ++
    writePresent (writeText 10) field.jsonName ++
    writePresent (writeBool 17) field.proto3Optional

/-- Encodes a oneof. -/
def OneofDescriptor.encode (oneof : OneofDescriptor) : List UInt8 :=
  writePresent (writeText 1) oneof.name

/-- Encodes the options of a message. -/
def MessageOptions.encode (options : MessageOptions) : List UInt8 :=
  writePresent (writeBool 7) options.mapEntry

/-! ## Messages -/

mutual

/-- Encodes a message. -/
def MessageDescriptor.encode : MessageDescriptor → List UInt8
  | { name, fields, nested, enums, options, oneofs } =>
    writePresent (writeText 1) name ++
      (fields.flatMap fun field => writeChunk 2 field.encode) ++
      MessageDescriptor.encodeInside nested ++
      (enums.flatMap fun enum => writeChunk 4 enum.encode) ++
      writePresent (fun options => writeChunk 7 (MessageOptions.encode options)) options ++
      (oneofs.flatMap fun oneof => writeChunk 8 oneof.encode)
termination_by structural message => message

/-- Encodes the messages inside another. -/
def MessageDescriptor.encodeInside : List MessageDescriptor → List UInt8
  | [] => []
  | message :: rest => writeChunk 3 message.encode ++ encodeInside rest
termination_by structural messages => messages

end

/-! ## Files -/

/-- Encodes a file. -/
def FileDescriptor.encode (file : FileDescriptor) : List UInt8 :=
  writePresent (writeText 1) file.name ++
    writePresent (writeText 2) file.package ++
    (file.dependencies.flatMap fun name => writeText 3 name) ++
    (file.messages.flatMap fun message => writeChunk 4 message.encode) ++
    (file.enums.flatMap fun enum => writeChunk 5 enum.encode) ++
    writePresent (writeText 12) file.dialect

/-- Encodes a set of files. -/
def FileSet.encode (set : FileSet) : List UInt8 :=
  set.files.flatMap fun file => writeChunk 1 file.encode

end ProtoSchema
