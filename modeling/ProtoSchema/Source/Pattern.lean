import ProtoSchema.Source.TypeExpression

/-!
# Reading patterns

A pattern takes a value apart.  It is a name, a literal, or a path with what is
inside of the value in brackets.  A choice of patterns has bars between them.
-/

namespace ProtoSchema

open Layout (Piece level)

namespace Pattern

open Reader

/-! ## Choices -/

/-- Whether a bar comes next that stands between two patterns. -/
def bar : Ahead := .and (.mark "|") (.not (.marks ["||", "|="]))

/-- Reads further patterns, each after a bar. -/
def casesUpTo (nested : Nested) : Nat → Reader (List PatternText)
  | 0 => failure
  | n + 1 => do
    if ← sees bar then
      mark "|"
      let first ← nested.pattern
      return first :: (← casesUpTo nested n)
    return []

/-- Reads a choice of patterns, or one.  A bar may stand in front. -/
def choice (nested : Nested) : Reader PatternText := do
  let leads ← takesMark "|"
  let first ← nested.pattern
  let rest ← bounded (casesUpTo nested)
  if !leads && rest.isEmpty then return first
  let cases := first :: rest
  return {
    pieces :=
      [.group 0 (!cases.all PatternText.isSmall)
        ([.gap { blanks := 1 }, .word "| "].intercalate (cases.map PatternText.pieces))] }

/-! ## Brackets -/

/-- Items in parentheses.  When they are broken, a comma follows the last one. -/
def parentheses (items : List (List Piece)) : List Piece := Layout.bracketed "(" ")" items

/-- Reads patterns in parentheses: one, or several with commas. -/
def grouped (nested : Nested) : Reader (List Piece) := do
  let found ← inside .parenthesis (separated Ahead.nothing (choice nested))
  match found.items, found.trailing with
  | [item], false => return .word "(" :: item.pieces ++ [.word ")"]
  | items, _ => return TypeExpression.tuple (items.map PatternText.pieces)

/-- The pieces of items in square brackets. -/
def slicePieces : List (List Piece) → List Piece
  | [] => []
  | [item] => item ++ [.gap { atEnd := some ',' }]
  | item :: rest => item ++ .word "," :: .gap { blanks := 1 } :: slicePieces rest

/-- Reads patterns in square brackets. -/
def slice (nested : Nested) : Reader (List Piece) := do
  let items ← inside .bracket (list (choice nested))
  return .word "[" :: slicePieces (items.map PatternText.pieces) ++ [.word "]"]

/-- Items in braces after a header.  They belong into a group that is
indented. -/
def fieldPieces : List (List Piece) → List Piece
  | [] => []
  | [item] => item ++ [.gap { blanks := 1, shift := -level, atEnd := some ',' }]
  | item :: rest => item ++ .word "," :: .gap { blanks := 1 } :: fieldPieces rest

/-- A header with fields in braces. -/
def fields (header : List Piece) (items : List (List Piece)) : List Piece :=
  let inside := if items.isEmpty then [] else .gap { blanks := 1 } :: fieldPieces items
  [.group level true (header ++ .word " \x7b" :: inside), .word "\x7d"]

/-- Reads the name of a field or its index. -/
def member : Reader String := do
  if ← sees Ahead.index then index else return (← name).spelling

/-- Reads a field of a pattern. -/
def field (nested : Nested) : Reader (List Piece) := do
  let attributes ← Attribute.outer nested
  if ← sees (.word "box") then
    verbatim do
      word "box"
      let _ ← takesWord "ref"
      let _ ← takesWord "mut"
      let _ ← name
    return []
  let byReference ← optionalWord "ref"
  let mutability ← optionalWord "mut"
  if byReference.isEmpty && mutability.isEmpty then
    let isIndex ← sees Ahead.index
    let member ← member
    if isIndex || (← sees (.mark ":")) then
      mark ":"
      return attributes ++ .word (member ++ ": ") :: (← choice nested).pieces
    return attributes ++ [.word member]
  return attributes ++ byReference ++ mutability ++ [.word (← name).spelling]

/-! ## Patterns -/

/-- Reads a pattern that starts with a path. -/
def path (nested : Nested) : Reader (List Piece) := do
  let (header, isSimple) ← PathText.value nested
  if isSimple && (← sees Invocation.bang) then return (← Invocation.rest header).pieces
  if ← sees (.group .brace) then
    return fields header (← inside .brace (list (field nested)))
  if ← sees (.group .parenthesis) then
    let items ← inside .parenthesis (list (choice nested))
    return header ++ parentheses (items.map PatternText.pieces)
  return header

/-- Reads a pattern that is a name, and what stands behind it. -/
def named (nested : Nested) : Reader (List Piece) := do
  let byReference ← optionalWord "ref"
  let mutability ← optionalWord "mut"
  let name ← if ← sees (.word "self") then anyName else name
  let rest : List Piece ←
    if ← takesMark "@" then do pure (.word " @ " :: (← nested.pattern).pieces) else pure []
  return byReference ++ mutability ++ .word name.spelling :: rest

/-- Reads a pattern behind a reference. -/
def reference (nested : Nested) : Reader (List Piece) := do
  mark "&"
  let mutability ← optionalWord "mut"
  return .word "&" :: mutability ++ (← nested.pattern).pieces

/-- Whether a path comes next that is more than a name. -/
def startsPath : Ahead := fun tokens =>
  (Ahead.name tokens &&
    (Ahead.after 1 (.marks ["::", "!"]) tokens || Ahead.after 1 (.group .brace) tokens ||
      Ahead.after 1 (.group .parenthesis) tokens)) ||
    (Ahead.word "self" tokens && Ahead.after 1 (.mark "::") tokens) ||
    Ahead.marks ["::", "<"] tokens || Ahead.oneOfWords ["Self", "super", "crate"] tokens

/-- Reads a pattern that is no choice. -/
def read (nested : Nested) : Reader PatternText := do
  if ← sees startsPath then return { pieces := ← path nested }
  if ← takesWord "_" then return { pieces := [.word "_"], isSmall := true }
  if ← sees (.word "box") then
    verbatim do
      word "box"
      let _ ← nested.pattern
    return { pieces := [] }
  if ← takesWord "const" then
    let block ← nested.block
    return { pieces := [.word "const ", block.group] }
  if ← sees Ahead.literal then return { pieces := [.word (← literal)], isSmall := true }
  if ← sees (.or Ahead.name (.oneOfWords ["ref", "mut", "self"])) then
    return { pieces := ← named nested }
  if ← sees (.mark "&") then return { pieces := ← reference nested }
  if ← sees (.group .parenthesis) then return { pieces := ← grouped nested }
  return { pieces := ← slice nested }

end Pattern

end ProtoSchema
