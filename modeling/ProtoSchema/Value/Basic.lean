import ProtoSchema.Collection.Ascending
import ProtoSchema.Table.Basic

/-!
# Values and messages

A value is an atom, a message, or a list, which is what a repeated field holds.
A message carries the table of its type and the values of the fields that are
set, by number and in ascending order.

A value fits a content when it has the representation the content asks for.  A
message fits by the name of its type alone.
-/

namespace ProtoSchema

mutual

/-- A value of a field. -/
inductive Value where
  | atom (value : Atom)
  | message (value : Message)
  | list (items : List Value)

/-- An instance of a message type. -/
structure Message where
  /-- The table of the type. -/
  type : MessageTable
  /-- The values that are set, by the number of their field. -/
  entries : List (Nat × Value)

end

instance : Inhabited Value := ⟨.list []⟩
instance : Inhabited Message := ⟨⟨default, []⟩⟩

/-! ## Equality -/

mutual

/-- Equality of values, where a NaN differs from itself. -/
def Value.same : Value → Value → Bool
  | .atom x, .atom y => x.same y
  | .message x, .message y => x.same y
  | .list xs, .list ys => sameItems xs ys
  | _, _ => false
termination_by structural value => value

/-- Equality of messages: the tables of their types and all values are equal. -/
def Message.same : Message → Message → Bool
  | ⟨type, entries⟩, other => type.same other.type && sameEntries entries other.entries
termination_by structural message => message

/-- Equality of lists, item by item. -/
def sameItems : List Value → List Value → Bool
  | [], [] => true
  | x :: xs, y :: ys => x.same y && sameItems xs ys
  | _, _ => false
termination_by structural items => items

/-- Equality of the values of two messages, field by field. -/
def sameEntries : List (Nat × Value) → List (Nat × Value) → Bool
  | [], [] => true
  | (m, x) :: xs, (n, y) :: ys => m == n && x.same y && sameEntries xs ys
  | _, _ => false
termination_by structural entries => entries

end

/-! ## Kinds and contents -/

/-- A kind of value in words, for messages about values. -/
def Value.kindName : Value → String
  | .atom value => value.representation.name
  | .message value => s!"message {value.type.fullName}"
  | .list _ => "list"

/-- Whether a value that is no list fits a scalar. -/
def Scalar.acceptsValue (scalar : Scalar) : Value → Bool
  | .atom value => scalar.accepts value
  | _ => false

/-- Whether a value can be one occurrence of a field. -/
def Content.accepts : Content → Value → Bool
  | .scalar kind, value => kind.acceptsValue value
  | .message name, .message value => value.type.fullName == name
  | .enum _, .atom (.enum _) => true
  | _, _ => false

/-- The value a reader sees when a field is not set: an empty list, the
declared default, or the zero of the content.  A message has none. -/
def FieldTable.absentValue? (field : FieldTable) : Option Value :=
  if field.isRepeated then some (.list [])
  else
    match field.default, field.content with
    | some value, _ => some (.atom value)
    | none, .scalar kind => some (.atom kind.zero)
    | none, .enum table => some (.atom (.enum table.defaultNumber))
    | none, .message _ => none

end ProtoSchema
