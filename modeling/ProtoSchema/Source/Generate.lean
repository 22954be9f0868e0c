import ProtoSchema.Source.Declared
import ProtoSchema.Source.Flat
import ProtoSchema.Source.Formatted

/-!
# Generated source

Generating source for a file builds its tables first, so a file whose tables
cannot be built has no source either.  The source is written on one line or laid
out in lines, and says the same in both styles.
-/

namespace ProtoSchema

/-- How source is written. -/
inductive SourceStyle where
  /-- On one line. -/
  | flat
  /-- Laid out in lines. -/
  | formatted
deriving DecidableEq, Repr, Inhabited

/-- Writes items.  What is written is read again, so there is no source when a name
in them may not stand where it stands, be it a reserved word that is not raw.  There
may also be no layout in lines. -/
def SourceStyle.write (style : SourceStyle) (items : List Item) : Except Failure String :=
  if !Item.areWritable items then .error .reservedName
  else
    match style with
    | .flat => .ok (Flat.render items)
    | .formatted =>
      if Item.haveLines items then .ok (Formatted.render items) else .error .noLayout

/-- What is generated for a file. -/
structure GeneratedFile where
  /-- Its tables. -/
  tables : FileTable
  /-- The module that the source belongs into. -/
  module : String
  /-- The source. -/
  source : String
deriving Repr, Inhabited

/-- Generates the source for a file. -/
def FileDescriptor.generate (scope : Scope) (style : SourceStyle) (file : FileDescriptor) :
    Except Failure GeneratedFile := do
  let tables ← FileDescriptor.tables scope file
  let source ← style.write (← FileDescriptor.items scope tables.file file)
  return { tables, module := Naming.fileModule file.packageName tables.file, source }

/-- Generates the source for every file of a scope, in order. -/
def Scope.generate (scope : Scope) (style : SourceStyle) : Except Failure (List GeneratedFile) :=
  scope.set.files.mapM (FileDescriptor.generate scope style)

end ProtoSchema
