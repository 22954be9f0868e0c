import ProtoSchema.Table.Build

/-!
# Loading a set of files

Loading builds the tables of every file of a set and then puts them into a
catalog.  Nothing is put in before everything is built, so a set with a fault
leaves the catalog as it was.
-/

namespace ProtoSchema

/-- What a load made available. -/
structure LoadReport where
  /-- The files, in the order of the set. -/
  files : List String := []
  /-- The full names of the messages. -/
  messages : List String := []
  /-- The full names of the enums. -/
  enums : List String := []
deriving DecidableEq, Repr, Inhabited

namespace LoadReport

/-- Whether a load made a message or an enum of this name available. -/
def contains (report : LoadReport) (name : String) : Bool :=
  (report.messages ++ report.enums).contains (FullName.bare name)

/-- What is made available by putting in some tables. -/
def ofTables (files : List FileTable) : LoadReport where
  files := files.map FileTable.file
  messages := files.flatMap fun file => file.messages.map MessageTable.fullName
  enums := files.flatMap fun file => file.enums.map EnumTable.fullName

end LoadReport

/-- The outcome of a load. -/
structure Loaded where
  /-- The catalog after it. -/
  catalog : Catalog
  /-- What was made available. -/
  report : LoadReport
  /-- The tables that took the place of different ones. -/
  replaced : List Replacement

namespace Catalog

/-- Puts built tables into a catalog. -/
def activate (catalog : Catalog) (files : List FileTable) : Loaded :=
  let (catalog, replaced) := catalog.addFiles files
  { catalog, report := .ofTables files, replaced }

/-- Loads a set of files into a catalog. -/
def load (catalog : Catalog) (set : FileSet) : Except Failure Loaded :=
  (Scope.of set catalog).tables.map catalog.activate

end Catalog

end ProtoSchema
