import ProtoSchema.Table.Scalar

/-!
# Type tables

A *table* is what remains of a descriptor once it is checked: names are
present, numbers are valid, and every reference has been found.  A
`FileTable` holds the tables of one schema file, with the messages and enums
inside other messages brought to the top and known by their full names.

A field that holds a message knows it by name, so tables of messages that
contain each other are finite.  A field that holds an enum carries the table of
the enum.
-/

namespace ProtoSchema

/-! ## Enums -/

/-- One value of an enum. -/
structure EnumEntry where
  /-- Its name. -/
  name : String
  /-- Its number. -/
  number : Int32
deriving DecidableEq, Repr, Inhabited

/-- The table of an enum. -/
structure EnumTable where
  /-- The name with the package and the names around it, and no dot in front. -/
  fullName : String
  /-- The last part of the full name. -/
  name : String
  /-- The package of the file that declares the enum. -/
  package : String
  /-- The file that declares the enum. -/
  file : String
  /-- The values, in the order of declaration. -/
  values : List EnumEntry
deriving DecidableEq, Repr, Inhabited

namespace EnumTable

/-- The number of the first value of this name. -/
def numberOf? (table : EnumTable) (name : String) : Option Int32 :=
  (table.values.find? fun entry => entry.name == name).map EnumEntry.number

/-- The name of the first value with this number. -/
def nameOf? (table : EnumTable) (number : Int32) : Option String :=
  (table.values.find? fun entry => entry.number == number).map EnumEntry.name

/-- The number a field has before it is set: that of the first value. -/
def defaultNumber (table : EnumTable) : Int32 := (table.values.head?.map EnumEntry.number).getD 0

end EnumTable

/-! ## Fields -/

/-- What one occurrence of a field holds. -/
inductive Content where
  | scalar (kind : Scalar)
  /-- A message, by its full name without a dot in front. -/
  | message (name : String)
  | enum (table : EnumTable)
deriving DecidableEq, Repr, Inhabited

/-- A content in words, for messages about values. -/
def Content.describe : Content → String
  | .scalar kind => kind.name
  | .message name => s!"message {name}"
  | .enum table => s!"enum {table.fullName}"

/-- How often a field occurs, and whether its absence shows. -/
inductive Presence where
  /-- At most once, where an absent field cannot be told from a zero. -/
  | implicit
  /-- At most once. -/
  | optional
  /-- Exactly once. -/
  | required
  /-- Any number of times. -/
  | repeated
deriving DecidableEq, Repr, Inhabited

/-- The table of a field. -/
structure FieldTable where
  /-- The name. -/
  name : String
  /-- The number. -/
  number : Nat
  /-- What one occurrence holds. -/
  content : Content
  /-- How often the field occurs. -/
  presence : Presence
  /-- The declared default. -/
  default : Option Atom
  /-- The position of the oneof of the field among those of the message. -/
  oneof : Option Nat
  /-- The name the field has in JSON. -/
  jsonName : Option String
deriving DecidableEq, Repr, Inhabited

namespace FieldTable

/-- Whether a field holds a list. -/
def isRepeated (field : FieldTable) : Bool := field.presence == .repeated

/-- Equality of tables, with defaults compared as the values they stand for. -/
def same (a b : FieldTable) : Bool :=
  { a with default := none } == { b with default := none } &&
    match a.default, b.default with
    | some x, some y => x.same y
    | none, none => true
    | _, _ => false

end FieldTable

/-! ## Messages and files -/

/-- The table of a message. -/
structure MessageTable where
  /-- The name with the package and the names around it, and no dot in front. -/
  fullName : String
  /-- The last part of the full name. -/
  name : String
  /-- The package of the file that declares the message. -/
  package : String
  /-- The file that declares the message. -/
  file : String
  /-- The fields, in the order of declaration. -/
  fields : List FieldTable
  /-- The names of the oneofs that have members. -/
  oneofs : List String
  /-- Whether the message was made for a map field. -/
  isMapEntry : Bool
deriving DecidableEq, Repr, Inhabited

namespace MessageTable

/-- The first field of this name. -/
def field? (table : MessageTable) (name : String) : Option FieldTable :=
  table.fields.find? fun field => field.name == name

/-- The first field with this number. -/
def fieldNumbered? (table : MessageTable) (number : Nat) : Option FieldTable :=
  table.fields.find? fun field => field.number == number

/-- Equality of tables, with defaults compared as the values they stand for. -/
def same (a b : MessageTable) : Bool :=
  { a with fields := [] } == { b with fields := [] } &&
    a.fields.length == b.fields.length && (a.fields.zip b.fields).all fun (x, y) => x.same y

end MessageTable

/-- The tables of a schema file. -/
structure FileTable where
  /-- The name of the file. -/
  file : String
  /-- Its package, empty when it has none. -/
  package : String
  /-- The files it imports. -/
  dependencies : List String
  /-- Its messages, those inside a message before that message. -/
  messages : List MessageTable := []
  /-- Its enums. -/
  enums : List EnumTable := []
deriving DecidableEq, Repr, Inhabited

end ProtoSchema
