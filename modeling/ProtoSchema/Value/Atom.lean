import ProtoSchema.Number.Binary

/-!
# Atoms

An *atom* is a value that holds no other value: a truth value, a number, text,
bytes, or the number of an enum value.  The integer types of a schema differ in
how they are encoded and share their representation, so there are fewer kinds
of atoms than of scalar types.

Equality of atoms is that of the numbers they hold.  A NaN differs from itself.
-/

namespace ProtoSchema

/-- How an atom is represented. -/
inductive Representation where
  | bool
  | int32
  | int64
  | uint32
  | uint64
  | float
  | double
  | text
  | bytes
  | enum
deriving DecidableEq, Repr, Inhabited

/-- The name of a representation in messages about values. -/
def Representation.name : Representation → String
  | bool => "bool"
  | int32 => "i32"
  | int64 => "i64"
  | uint32 => "u32"
  | uint64 => "u64"
  | float => "f32"
  | double => "f64"
  | text => "string"
  | bytes => "bytes"
  | enum => "enum"

/-- A value that holds no other value. -/
inductive Atom where
  | bool (value : Bool)
  | int32 (value : Int32)
  | int64 (value : Int64)
  | uint32 (value : UInt32)
  | uint64 (value : UInt64)
  | float (value : Binary .single)
  | double (value : Binary .double)
  | text (value : String)
  | bytes (value : List UInt8)
  /-- A value of an enum, by its number. -/
  | enum (number : Int32)
deriving DecidableEq, Repr, Inhabited

namespace Atom

/-- How an atom is represented. -/
def representation : Atom → Representation
  | bool _ => .bool
  | int32 _ => .int32
  | int64 _ => .int64
  | uint32 _ => .uint32
  | uint64 _ => .uint64
  | float _ => .float
  | double _ => .double
  | text _ => .text
  | bytes _ => .bytes
  | enum _ => .enum

/-- Equality of the values that atoms stand for. -/
def same : Atom → Atom → Bool
  | float x, float y => x.same y
  | double x, double y => x.same y
  | x, y => x == y

end Atom

end ProtoSchema
