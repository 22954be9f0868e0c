import ProtoSchema.Failure
import ProtoSchema.Value.Basic

/-!
# Reading and writing messages

Fields are addressed by name.  A write is checked against the table of the
field before anything changes.  For a field that holds an enum, a plain 32-bit
integer is taken as the number of an enum value, also inside a list.

Setting a member of a oneof unsets the other members.  Appending to a repeated
field touches no other field.
-/

namespace ProtoSchema

/-- A plain integer as a value of an enum. -/
def Value.asEnumItem : Value → Value
  | .atom (.int32 n) => .atom (.enum n)
  | value => value

/-- A value as a field of this content takes it. -/
def Content.coerce : Content → Value → Value
  | .enum _, .list items => .list (items.map Value.asEnumItem)
  | .enum _, value => value.asEnumItem
  | _, value => value

/-- The failure for a value that does not fit a field. -/
def FieldTable.mismatch (field : FieldTable) (expected : String) (found : Value) : Failure :=
  .mismatch field.name
    (if field.isRepeated then s!"repeated {expected}" else expected) found.kindName

/-- Whether a value fits a field as a whole, or why it does not.  Of the items
of a list, the first that does not fit is reported. -/
def FieldTable.check (field : FieldTable) (value : Value) : Except Failure Unit :=
  if field.isRepeated then
    match value with
    | .list items =>
      match items.find? fun item => !field.content.accepts item with
      | some item => .error (field.mismatch field.content.describe item)
      | none => .ok ()
    | other => .error (.mismatch field.name "list" other.kindName)
  else if field.content.accepts value then .ok ()
  else .error (field.mismatch field.content.describe value)

namespace Message

/-- The empty message of a type. -/
def empty (type : MessageTable) : Message := ⟨type, []⟩

/-- The table of the field of this name. -/
def fieldTable (message : Message) (field : String) : Except Failure FieldTable :=
  match message.type.field? field with
  | some table => .ok table
  | none => .error (.unknownField message.type.fullName field)

/-! ## Reading -/

/-- The stored value under a number. -/
def stored? (message : Message) (number : Nat) : Option Value :=
  Ascending.find? number message.entries

/-- The value of a field, if it is set. -/
def get (message : Message) (field : String) : Except Failure (Option Value) :=
  (message.fieldTable field).map fun table => message.stored? table.number

/-- The value of a field, or what a reader sees when it is not set. -/
def getOrDefault (message : Message) (field : String) : Except Failure Value :=
  match message.fieldTable field with
  | .error e => .error e
  | .ok table =>
    match (message.stored? table.number).or table.absentValue? with
    | some value => .ok value
    | none => .error (.noDefault table.name message.type.fullName)

/-- Whether a field is set. -/
def has (message : Message) (field : String) : Except Failure Bool :=
  (message.get field).map Option.isSome

/-- The fields that are set, by ascending number. -/
def fields (message : Message) : List (FieldTable × Value) :=
  message.entries.filterMap fun (number, value) =>
    (message.type.fieldNumbered? number).map fun table => (table, value)

/-- The name of the member of a oneof that is set. -/
def whichOneof (message : Message) (oneof : String) : Option String :=
  (message.type.oneofs.findIdx? fun name => name == oneof).bind fun index =>
    (message.type.fields.find? fun field =>
      field.oneof == some index && (message.stored? field.number).isSome).map FieldTable.name

/-! ## Writing -/

/-- Stores a value under a number. -/
def store (message : Message) (number : Nat) (value : Value) : Message :=
  { message with entries := Ascending.insert number value message.entries }

/-- Drops the value under a number. -/
def drop (message : Message) (number : Nat) : Message :=
  { message with entries := Ascending.erase number message.entries }

/-- The numbers of the other members of the oneof of a field. -/
def siblings (message : Message) (field : FieldTable) : List Nat :=
  match field.oneof with
  | none => []
  | some oneof =>
    (message.type.fields.filter fun other =>
      other.oneof == some oneof && other.number != field.number).map FieldTable.number

/-- Sets a field, and unsets the other members of its oneof. -/
def set (message : Message) (field : String) (value : Value) : Except Failure Message :=
  match message.fieldTable field with
  | .error e => .error e
  | .ok table =>
    let value := table.content.coerce value
    (table.check value).map fun _ =>
      ((message.siblings table).foldl drop message).store table.number value

/-- The items of a repeated field, empty when it is not set. -/
def itemsAt (message : Message) (number : Nat) : List Value :=
  match message.stored? number with
  | some (.list items) => items
  | _ => []

/-- Appends an item to a repeated field. -/
def push (message : Message) (field : String) (value : Value) : Except Failure Message :=
  match message.fieldTable field with
  | .error e => .error e
  | .ok table =>
    let value := table.content.coerce value
    if !table.isRepeated then .error (table.mismatch table.content.describe (.list [value]))
    else if !table.content.accepts value then
      .error (table.mismatch table.content.describe value)
    else .ok (message.store table.number (.list (message.itemsAt table.number ++ [value])))

/-- Sets a field that holds an enum to the value of this name. -/
def setEnumByName (message : Message) (field valueName : String) : Except Failure Message :=
  match message.fieldTable field with
  | .error e => .error e
  | .ok table =>
    match table.content with
    | .enum enum =>
      match enum.numberOf? valueName with
      | some number => message.set field (.atom (.enum number))
      | none => .error (.mismatch table.name s!"a value of {enum.fullName}" valueName)
    | _ => .error (table.mismatch "enum" (.atom (.text valueName)))

/-- Unsets a field.  The answer is its former value and the new message. -/
def clear (message : Message) (field : String) : Except Failure (Option Value × Message) :=
  (message.fieldTable field).map fun table =>
    (message.stored? table.number, message.drop table.number)

/-- Puts a value in the place of the one a field has, without any check.  The
answer is nothing when the field is not set. -/
def replace (message : Message) (field : String) (value : Value) :
    Except Failure (Option Message) :=
  (message.fieldTable field).map fun table =>
    (message.stored? table.number).map fun _ => message.store table.number value

end Message

end ProtoSchema
