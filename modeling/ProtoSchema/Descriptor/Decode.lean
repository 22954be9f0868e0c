import ProtoSchema.Wire.Record
import ProtoSchema.Descriptor.Basic

/-!
# Decoding descriptors

Each kind of descriptor is a message with its own table of known fields.  A
table gives the number of a field and what the field does to the descriptor
read so far: a field of its own kind replaces what came before, and a list
grows at its end.

Messages contain messages.  `MessageDescriptor.decode` therefore recurses on
the bytes of the inner message, which are fewer than those of the outer one.

`FileSet.decodeFrom` reads from a source that may fail after some bytes.  Such
a failure wins over anything that is wrong with the bytes.
-/

namespace ProtoSchema

open FieldReader (int32 bool text message)

/-! ## Tables of known fields -/

/-- The fields of an enum value. -/
def EnumValueDescriptor.readers : Nat → Option (FieldReader EnumValueDescriptor)
  | 1 => some (text fun d name => { d with name })
  | 2 => some (int32 fun d number => { d with number })
  | _ => none

/-- Decodes an enum value. -/
def EnumValueDescriptor.decode : List UInt8 → Except DecodeError EnumValueDescriptor :=
  readRecords readers {}

/-- The fields of an enum. -/
def EnumDescriptor.readers : Nat → Option (FieldReader EnumDescriptor)
  | 1 => some (text fun d name => { d with name })
  | 2 => some (message EnumValueDescriptor.decode fun d v => { d with values := d.values ++ [v] })
  | _ => none

/-- Decodes an enum. -/
def EnumDescriptor.decode : List UInt8 → Except DecodeError EnumDescriptor :=
  readRecords readers {}

/-- The fields of a field. -/
def FieldDescriptor.readers : Nat → Option (FieldReader FieldDescriptor)
  | 1 => some (text fun d name => { d with name })
  | 3 => some (int32 fun d number => { d with number })
  | 4 => some (int32 fun d label => { d with label })
  | 5 => some (int32 fun d type => { d with type })
  | 6 => some (text fun d typeName => { d with typeName })
  | 7 => some (text fun d defaultText => { d with defaultText })
  | 9 => some (int32 fun d oneofIndex => { d with oneofIndex })
  | 10 => some (text fun d jsonName => { d with jsonName })
  | 17 => some (bool fun d proto3Optional => { d with proto3Optional })
  | _ => none

/-- Decodes a field. -/
def FieldDescriptor.decode : List UInt8 → Except DecodeError FieldDescriptor :=
  readRecords readers {}

/-- The fields of a oneof. -/
def OneofDescriptor.readers : Nat → Option (FieldReader OneofDescriptor)
  | 1 => some (text fun d name => { d with name })
  | _ => none

/-- Decodes a oneof. -/
def OneofDescriptor.decode : List UInt8 → Except DecodeError OneofDescriptor :=
  readRecords readers {}

/-- The fields of the options of a message. -/
def MessageOptions.readers : Nat → Option (FieldReader MessageOptions)
  | 7 => some (bool fun d mapEntry => { d with mapEntry })
  | _ => none

/-- Decodes the options of a message. -/
def MessageOptions.decode : List UInt8 → Except DecodeError MessageOptions :=
  readRecords readers {}

/-- The fields of a message, given how the messages inside it are decoded. -/
def MessageDescriptor.readersWith (inner : List UInt8 → Except DecodeError MessageDescriptor) :
    Nat → Option (FieldReader MessageDescriptor)
  | 1 => some (text fun d name => { d with name })
  | 2 => some (message FieldDescriptor.decode fun d f => { d with fields := d.fields ++ [f] })
  | 3 => some (message inner fun d m => { d with nested := d.nested ++ [m] })
  | 4 => some (message EnumDescriptor.decode fun d e => { d with enums := d.enums ++ [e] })
  | 7 => some (message MessageOptions.decode fun d options => { d with options })
  | 8 => some (message OneofDescriptor.decode fun d o => { d with oneofs := d.oneofs ++ [o] })
  | _ => none

/-- Decodes a message.  The bytes of a message inside it are always fewer, so
the guard never fails. -/
def MessageDescriptor.decode (bytes : List UInt8) : Except DecodeError MessageDescriptor :=
  readRecords
    (readersWith fun inner =>
      if _h : inner.length < bytes.length then MessageDescriptor.decode inner
      else .error .unexpectedEnd)
    {} bytes
termination_by bytes.length

/-- The fields of a file. -/
def FileDescriptor.readers : Nat → Option (FieldReader FileDescriptor)
  | 1 => some (text fun d name => { d with name })
  | 2 => some (text fun d package => { d with package })
  | 3 => some (text fun d name => { d with dependencies := d.dependencies ++ [name] })
  | 4 => some (message MessageDescriptor.decode fun d m => { d with messages := d.messages ++ [m] })
  | 5 => some (message EnumDescriptor.decode fun d e => { d with enums := d.enums ++ [e] })
  | 12 => some (text fun d dialect => { d with dialect })
  | _ => none

/-- Decodes a file. -/
def FileDescriptor.decode : List UInt8 → Except DecodeError FileDescriptor :=
  readRecords readers {}

/-- The fields of a set of files. -/
def FileSet.readers : Nat → Option (FieldReader FileSet)
  | 1 => some (message FileDescriptor.decode fun d f => { d with files := d.files ++ [f] })
  | _ => none

/-- Decodes a set of files. -/
def FileSet.decode : List UInt8 → Except DecodeError FileSet :=
  readRecords readers {}

/-! ## Sources that may fail -/

/-- Bytes from a place that may fail before its end is reached. -/
structure ByteSource where
  /-- The bytes that were delivered. -/
  bytes : List UInt8
  /-- Why the delivery stopped, when it did not end by itself. -/
  failure : Option String := none

/-- Reads a source to its end and decodes what it delivered. -/
def FileSet.decodeFrom (source : ByteSource) : Except DecodeError FileSet :=
  match source.failure with
  | some reason => .error (.unreadable reason)
  | none => FileSet.decode source.bytes

end ProtoSchema
