import ProtoSchema.Failure
import ProtoSchema.Collection.Ascending
import ProtoSchema.Table.Basic
import ProtoSchema.Text.FullName
import ProtoSchema.Value.Message

/-!
# The catalog

A *catalog* holds the tables that were loaded so far, by their full names, and
the names of the files they came from.  A look-up accepts dots in front of a
name.

Loading a file puts its messages and then its enums into the catalog.  A table
under a name that is taken replaces the one that was there.  When the two
differ, the replacement is reported.  A table with a NaN for a default differs
from itself.
-/

namespace ProtoSchema

/-- Whether a type is a message or an enum. -/
inductive TypeKind where
  | message
  | enum
deriving DecidableEq, Repr, Inhabited

/-- The tables that were loaded. -/
structure Catalog where
  /-- The messages. -/
  messages : NameTable MessageTable := .empty
  /-- The enums. -/
  enums : NameTable EnumTable := .empty
  /-- The files. -/
  files : NameTable Unit := .empty

instance : Inhabited Catalog := ⟨{}⟩

/-- A table that took the place of a different one. -/
structure Replacement where
  /-- What kind of type it describes. -/
  kind : TypeKind
  /-- The full name of the type. -/
  typeName : String
  /-- The file of the new table. -/
  file : String
deriving DecidableEq, Repr

namespace Catalog

/-! ## Looking up -/

/-- The message of this name. -/
def message? (catalog : Catalog) (name : String) : Option MessageTable :=
  catalog.messages.find? (FullName.bare name)

/-- The enum of this name. -/
def enum? (catalog : Catalog) (name : String) : Option EnumTable :=
  catalog.enums.find? (FullName.bare name)

/-- Whether a file was loaded. -/
def containsFile (catalog : Catalog) (file : String) : Bool := catalog.files.contains file

/-- Whether a message or an enum of this name was loaded. -/
def containsType (catalog : Catalog) (name : String) : Bool :=
  (catalog.message? name).isSome || (catalog.enum? name).isSome

/-- The names of the messages, in ascending order. -/
def messageNames (catalog : Catalog) : List String := catalog.messages.names

/-- An empty message of the type of this name. -/
def newMessage (catalog : Catalog) (name : String) : Except Failure Message :=
  match catalog.message? name with
  | some table => .ok (.empty table)
  | none => .error (.unknownMessage name)

/-! ## Loading -/

/-- Puts in a message, and reports a replacement. -/
def addMessage (file : String) (state : Catalog × List Replacement) (table : MessageTable) :
    Catalog × List Replacement :=
  let (catalog, replaced) := state
  let differs := (catalog.messages.find? table.fullName).any fun old => !old.same table
  ({ catalog with messages := catalog.messages.insert table.fullName table },
    if differs then replaced ++ [⟨.message, table.fullName, file⟩] else replaced)

/-- Puts in an enum, and reports a replacement. -/
def addEnum (file : String) (state : Catalog × List Replacement) (table : EnumTable) :
    Catalog × List Replacement :=
  let (catalog, replaced) := state
  let differs := (catalog.enums.find? table.fullName).any fun old => old != table
  ({ catalog with enums := catalog.enums.insert table.fullName table },
    if differs then replaced ++ [⟨.enum, table.fullName, file⟩] else replaced)

/-- Puts in the tables of a file. -/
def addFile (state : Catalog × List Replacement) (tables : FileTable) :
    Catalog × List Replacement :=
  let state := tables.messages.foldl (addMessage tables.file) state
  let (catalog, replaced) := tables.enums.foldl (addEnum tables.file) state
  ({ catalog with files := catalog.files.insert tables.file () }, replaced)

/-- Puts in the tables of several files, in order. -/
def addFiles (catalog : Catalog) (files : List FileTable) : Catalog × List Replacement :=
  files.foldl addFile (catalog, [])

end Catalog

end ProtoSchema
