import ProtoSchema.Source.Ident
import ProtoSchema.Text.Layout

/-!
# Spellings

Source is written on one line or in lines.  A `Spelling` is a part of source in
both styles: the words that it has on one line, and the pieces that it is laid
out from in lines.  Words in brackets are one word.

The styles differ in more than blanks.  What means nothing is kept on one line
and left out in lines, such as a comma at the end of a list that fits.
-/

namespace ProtoSchema

/-! ## Words on one line -/

namespace Flat

/-- Words with blanks between them. -/
def spaced (words : List String) : String := " ".intercalate words

/-- Words in parentheses. -/
def parens (words : List String) : String := "(" ++ spaced words ++ ")"

/-- Words in square brackets. -/
def brackets (words : List String) : String := "[" ++ spaced words ++ "]"

/-- Words in braces. -/
def braces (words : List String) : String := spaced ("\x7b" :: words ++ ["\x7d"])

/-- Parts with a word between them. -/
def separated (word : String) (parts : List (List String)) : List String :=
  (parts.intersperse [word]).flatten

/-- Items with commas between them, and one at the end if it was asked for. -/
def listed (items : List (List String)) (comma : Bool) : List String :=
  separated "," items ++ (if comma && !items.isEmpty then [","] else [])

end Flat

/-! ## Spellings -/

open Layout (Piece)

/-- A part of source in both styles. -/
structure Spelling where
  /-- Its words on one line. -/
  words : List String := []
  /-- Its pieces in lines. -/
  pieces : List Piece := []
deriving Repr, Inhabited

namespace Spelling

/-- One spelling after the other. -/
instance : Append Spelling where
  append first second := ⟨first.words ++ second.words, first.pieces ++ second.pieces⟩

/-- A word. -/
def word (text : String) : Spelling := ⟨[text], [.word text]⟩

/-- A word that is written on one line only. -/
def flatWord (text : String) : Spelling := { words := [text] }

/-- Spellings one after the other, with a word between them. -/
def separated (text : String) : List Spelling → Spelling
  | [] => {}
  | [last] => last
  | first :: rest => first ++ word text ++ separated text rest

/-- A list between angle brackets.  One of nothing is left out in lines. -/
def angles (items : List Spelling) (comma : Bool) : Spelling where
  words := "<" :: Flat.listed (items.map words) comma ++ [">"]
  pieces := if items.isEmpty then [] else Layout.enclosed "<" ">" (items.map pieces)

end Spelling

/-! ## Paths -/

/-- A name in a path, and the arguments that it is given there. -/
structure PathPart where
  /-- The name. -/
  name : Ident
  /-- The arguments with their brackets. -/
  arguments : Spelling := {}
deriving Repr, Inhabited

namespace PathPart

/-- A name without arguments. -/
def plain (name : Ident) : PathPart := { name }

/-- A part as it is written. -/
def spelling (part : PathPart) : Spelling := .word part.name.spelling ++ part.arguments

/-- Parts with two colons between them. -/
def spellAll (parts : List PathPart) : Spelling := .separated "::" (parts.map spelling)

end PathPart

/-- The way to a type: the modules on it, and the type. -/
structure TypePath where
  /-- The names. -/
  parts : List PathPart
  /-- Whether it can be laid out in lines. -/
  hasLines : Bool := true
deriving Repr, Inhabited

namespace TypePath

/-- The way that is made of some names. -/
def ofIdents (names : List Ident) : TypePath := { parts := names.map PathPart.plain }

/-- A way as it is written. -/
def spelling (path : TypePath) : Spelling := PathPart.spellAll path.parts

end TypePath

end ProtoSchema
