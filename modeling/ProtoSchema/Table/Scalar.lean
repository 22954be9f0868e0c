import ProtoSchema.Number.Scientific
import ProtoSchema.Text.Escape
import ProtoSchema.Value.Atom

/-!
# Scalar types

A *scalar* is one of the fifteen types of a schema that are neither messages
nor enums.  Each has one representation, a zero, and a way to read a default
that was written as text.  A scalar accepts exactly the atoms of its
representation.
-/

namespace ProtoSchema

/-- A type that is neither a message nor an enum. -/
inductive Scalar where
  | double
  | float
  | int32
  | int64
  | uint32
  | uint64
  | sint32
  | sint64
  | fixed32
  | fixed64
  | sfixed32
  | sfixed64
  | bool
  | string
  | bytes
deriving DecidableEq, Repr, Inhabited

namespace Scalar

/-- Every scalar. -/
def all : List Scalar :=
  [double, float, int32, int64, uint32, uint64, sint32, sint64, fixed32, fixed64, sfixed32,
    sfixed64, bool, string, bytes]

/-- The name of a scalar in a schema. -/
def name : Scalar → String
  | double => "double"
  | float => "float"
  | int32 => "int32"
  | int64 => "int64"
  | uint32 => "uint32"
  | uint64 => "uint64"
  | sint32 => "sint32"
  | sint64 => "sint64"
  | fixed32 => "fixed32"
  | fixed64 => "fixed64"
  | sfixed32 => "sfixed32"
  | sfixed64 => "sfixed64"
  | bool => "bool"
  | string => "string"
  | bytes => "bytes"

/-- The scalar of this name. -/
def ofName? (text : String) : Option Scalar := all.find? fun scalar => scalar.name == text

/-- How the values of a scalar are represented. -/
def representation : Scalar → Representation
  | double => .double
  | float => .float
  | int32 | sint32 | sfixed32 => .int32
  | int64 | sint64 | sfixed64 => .int64
  | uint32 | fixed32 => .uint32
  | uint64 | fixed64 => .uint64
  | bool => .bool
  | string => .text
  | bytes => .bytes

/-- Whether an atom is represented as the scalar asks. -/
def accepts (scalar : Scalar) (atom : Atom) : Bool := atom.representation == scalar.representation

/-- The value of a field for which no default is declared. -/
def zero (scalar : Scalar) : Atom :=
  match scalar.representation with
  | .bool => .bool false
  | .int32 => .int32 0
  | .int64 => .int64 0
  | .uint32 => .uint32 0
  | .uint64 => .uint64 0
  | .float => .float .zero
  | .double => .double .zero
  | .text => .text ""
  | .bytes => .bytes []
  | .enum => .enum 0

/-- Reads a truth value. -/
def readBool? : String → Option Bool
  | "true" => some true
  | "false" => some false
  | _ => none

/-- Reads a default as a schema compiler writes it. -/
def readDefault? (scalar : Scalar) (text : String) : Option Atom :=
  match scalar.representation with
  | .bool => (readBool? text).map .bool
  | .int32 => (Decimal.signedOfWidth? 32 text).map fun n => .int32 (Int32.ofInt n)
  | .int64 => (Decimal.signedOfWidth? 64 text).map fun n => .int64 (Int64.ofInt n)
  | .uint32 => (Decimal.unsignedOfWidth? 32 text).map fun n => .uint32 (UInt32.ofNat n)
  | .uint64 => (Decimal.unsignedOfWidth? 64 text).map fun n => .uint64 (UInt64.ofNat n)
  | .float => (Binary.ofText? text).map .float
  | .double => (Binary.ofText? text).map .double
  | .text => some (.text text)
  | .bytes => some (.bytes (Escape.decode text.toUTF8.toList))
  | .enum => none

end Scalar

end ProtoSchema
