import ProtoSchema.Source.Grammar
import ProtoSchema.Source.Lexeme

/-!
# Reading the way to a type

The way to a type is written as names with two colons between them.  A package
may hold any text, so what is written need not be readable.  `TypePath.ofText?`
reads it by the rules of source text: blanks and comments may stand between the
names and the colons, a reserved word must be written raw, and the words that
stand for a place among modules may be used as names.  A name may be given
arguments.

Where every name is readable by itself, so is the whole way, and it is made of
these names.
-/

namespace ProtoSchema.TypePath

/-- Reads a name that stands alone. -/
def plain? (text : String) : Option PathPart :=
  ((Ident.ofText? text).filter Ident.mayStandInPath).map PathPart.plain

/-- The way that is written in text, if it can be read. -/
def ofText? (text : String) : Option TypePath := do
  let tokens ← Token.ofText? text
  let (path, after) ←
    (PathText.read (.forTokens tokens) .inType).run { rest := tokens }
  guard (!path.absolute && after.rest.isEmpty)
  return { parts := path.parts, hasLines := after.hasLines }

/-- The way that some names make, if it can be read. -/
def ofNames? (names : List String) : Option TypePath :=
  match names.mapM plain? with
  | some parts => some { parts }
  | none => ofText? ("::".intercalate names)

end ProtoSchema.TypePath
