import ProtoSchema.Source.Nested

/-!
# Reading imports

An import names what it makes known by a path.  A path may end in a star, in
another name for what is imported, or in several imports in braces.

An import in braces that starts at the root of all names has no layout in lines.
-/

namespace ProtoSchema

open Layout (Piece level newline)

namespace Import

open Reader

/-- Imports in braces, as many on a line as fit.  One that ends in braces itself
ends its line. -/
def fill : List ImportText → List Piece
  | [] => []
  | [item] => item.pieces
  | item :: rest =>
    item.pieces ++ .word "," ::
      (if item.endsInBraces then newline 0 else .gap { blanks := 1 }) :: fill rest

/-- The pieces of imports in braces. -/
def braces (items : List ImportText) : List Piece :=
  [.word "\x7b",
    .group level true
      [.gap {}, .group 0 false (fill items), .gap { atEnd := some ',', shift := -level }],
    .word "\x7d"]

/-- Reads an import in braces, which may start at the root. -/
def item (nested : Nested) (rooted : Bool) : Reader ImportText := do
  let isRooted ← if rooted then takesMark "::" else pure false
  if isRooted then withoutLines
  nested.imported (rooted && !isRooted)

/-- Reads what follows the name in an import. -/
def afterName (nested : Nested) (name : Ident) : Reader ImportText := do
  if ← takesMark "::" then
    let rest ← nested.imported false
    return { rest with pieces := .word (name.spelling ++ "::") :: rest.pieces }
  if ← takesWord "as" then
    guard (← sees (.or Ahead.name (.word "_")))
    let other ← anyName
    return { pieces := [.word (name.spelling ++ " as " ++ other.spelling)] }
  return { pieces := [.word name.spelling] }

/-- Reads what is imported.  In braces it may start at the root or not. -/
def read (nested : Nested) (rooted : Bool) : Reader ImportText := do
  if ← takesMark "*" then return { pieces := [.word "*"] }
  if ← sees (.group .brace) then
    let items ← inside .brace (list (item nested rooted))
    return { pieces := braces items, endsInBraces := true }
  guard (← sees (.or Ahead.name (.oneOfWords ["self", "super", "crate", "try"])))
  afterName nested (← anyName)

end Import

end ProtoSchema
