/-!
# What stops a decoder

A decoder reads bytes from left to right and stops at the first fault.  This
module names the faults and gives each its wording.
-/

namespace ProtoSchema

/-- A fault in encoded bytes, or in reading them. -/
inductive DecodeError where
  /-- A variable-length integer runs past ten bytes, or past 64 bits. -/
  | invalidVarint
  /-- The bytes end inside a record. -/
  | unexpectedEnd
  /-- A record carries a wire type that does not exist, that is not supported,
  or that is not the one its field is declared with. -/
  | invalidWireType (code : Nat)
  /-- A text field is not UTF-8. -/
  | invalidText
  /-- A length prefix is over the limit. -/
  | tooLarge (length : Nat)
  /-- The bytes could not be read at all. -/
  | unreadable (reason : String)
deriving DecidableEq, Repr, Inhabited

namespace DecodeError

/-- The wording of a fault. -/
def message : DecodeError → String
  | invalidVarint => "invalid varint encoding"
  | unexpectedEnd => "unexpected end of buffer"
  | invalidWireType code => s!"invalid wire type: {code}"
  | invalidText => "invalid UTF-8 in string field"
  | tooLarge length => s!"message size {length} exceeds maximum"
  | unreadable reason => s!"IO error: {reason}"

end DecodeError

end ProtoSchema
