import ProtoSchema.Source.Import
import ProtoSchema.Source.Member

/-!
# Reading declarations

A declaration introduces a name: a function, a type, a constant, a module, or
what is imported from elsewhere.  It may also give a type the members that a trait
asks for.

Some forms are read and have no layout in lines, such as a constant without a
value.
-/

namespace ProtoSchema

open Layout (Piece level newline)

namespace Declaration

open Reader
open Member (Found line withBody)

/-! ## Modules and imports -/

/-- Reads a name from another package. -/
def otherPackage (visibility : List Piece) : Reader Found := do
  word "extern"
  word "crate"
  let name ← if ← sees (.word "self") then anyName else name
  let other : String ←
    if ← takesWord "as" then do pure (" as " ++ (← Member.openName).spelling) else pure ""
  mark ";"
  return visibility ++ [.word ("extern crate " ++ name.spelling ++ other ++ ";"), newline 0]

/-- Reads declarations of what is defined elsewhere. -/
def otherBlock (nested : Nested) : Reader Found := do
  let safety ← optionalWord "unsafe"
  guard (← sees (.word "extern"))
  let convention ← TypeExpression.convention
  return withBody (safety ++ convention) (← Member.body nested (Member.elsewhere nested))

/-- Reads an import. -/
def imported (nested : Nested) (visibility : List Piece) : Reader Found := do
  word "use"
  let isAbsolute ← takesMark "::"
  let tree ← nested.imported (!isAbsolute)
  mark ";"
  let start := if isAbsolute then "use ::" else "use "
  return visibility ++ .word start :: tree.pieces ++ [.word ";", newline 0]

/-- Reads a module. -/
def module (nested : Nested) (visibility : List Piece) : Reader Found := do
  let safety ← optionalWord "unsafe"
  word "mod"
  let name ← if ← sees (.word "try") then anyName else name
  let header := visibility ++ safety ++ [.word ("mod " ++ name.spelling)]
  if ← takesMark ";" then return line (header ++ [.word ";"])
  return withBody (header ++ [.word " "]) (← Member.body nested nested.declaration)

/-! ## Values -/

/-- Reads a value that is kept in one place.  One without a type or without a value
has no layout. -/
def stored (nested : Nested) (visibility : List Piece) : Reader Found := do
  word "static"
  let mutability ← optionalWord "mut"
  let name ← name
  let isTyped ← sees (.not (.mark "="))
  let type ← if isTyped then Member.typed nested else pure []
  let isGiven ← sees fun tokens => !isTyped || !Ahead.mark ";" tokens
  let value ← if isGiven then Member.valued nested else pure []
  mark ";"
  return Found.onlyIf (isTyped && isGiven)
    [.group 0 true
      (visibility ++ .word "static " :: mutability ++ .word name.spelling :: type ++ value ++
        [.word ";"]),
      newline 0]

/-! ## Types -/

/-- Reads a field with a name. -/
def namedField (nested : Nested) : Reader (List Piece) := do
  let attributes ← Attribute.outer nested
  let visibility ← Visibility.read
  let name ← Member.openName
  let start := attributes ++ visibility ++ [.word (name.spelling ++ ": ")]
  mark ":"
  let record : Ahead := .or (.word "struct") (.and (.word "union") (.after 1 (.group .brace)))
  if name.text == "_" && (← sees record) then
    verbatim do
      let _ ← anyName
      guard (← sees (.group .brace))
      let _ ← nested.fields
    return start
  return start ++ (← nested.type true).pieces

/-- Reads a field without a name. -/
def plainField (nested : Nested) : Reader (List Piece) := do
  let attributes ← Attribute.outer nested
  let visibility ← Visibility.read
  return attributes ++ visibility ++ (← nested.type true).pieces

/-- Reads fields with names in braces. -/
def namedFields (nested : Nested) : Reader (List (List Piece)) :=
  inside .brace (list (namedField nested))

/-- Reads fields without names in parentheses.  There is a gap even where there are
none. -/
def plainFields (nested : Nested) : Reader (List Piece) := do
  let fields ← inside .parenthesis (list (plainField nested))
  let items : List Piece :=
    if fields.isEmpty then [.gap { shift := -level }] else .gap {} :: Layout.items fields
  return .word "(" :: items ++ [.word ")"]

/-- Things on lines of their own, each with a comma. -/
def commaLines (items : List (List Piece)) : List Piece :=
  items.flatMap fun item => item ++ [.word ",", newline 0]

/-- Reads a record. -/
def record (nested : Nested) (visibility : List Piece) : Reader Found := do
  word "struct"
  let name ← name
  let parameters ← Parameters.read nested
  let header := visibility ++ .word ("struct " ++ name.spelling) :: parameters
  let isEarly ← sees (.word "where")
  if !isEarly && (← sees (.group .parenthesis)) then
    let fields ← plainFields nested
    let conditions ← Condition.all nested
    mark ";"
    return line (header ++ fields ++ Condition.beforeSemicolon conditions)
  let conditions ← Condition.all nested
  if ← takesMark ";" then return line (header ++ Condition.beforeSemicolon conditions)
  let fields ← namedFields nested
  return withBody (header ++ Condition.beforeBody conditions) (commaLines fields)

/-- The columns between the braces of a variant on one line. -/
def variantWidth : Nat := 34

/-- The pieces of a variant's fields that have names. -/
def variantFields (fields : List (List Piece)) : List Piece :=
  if fields.isEmpty then [.word " \x7b", .word "\x7d"]
  else
    let items := Pattern.fieldPieces fields
    let isWide := variantWidth < 1 + Layout.widths items
    let start : Piece := if isWide then newline 0 else .gap { blanks := 1 }
    [.word " \x7b", .group level true (start :: items), .word "\x7d"]

/-- Reads a variant.  Who may use it means nothing. -/
def variant (nested : Nested) : Reader (List Piece) := do
  let attributes ← Attribute.outer nested
  let _ ← silently Visibility.read
  let name ← name
  let fields : List Piece ←
    if ← sees (.group .brace) then do pure (variantFields (← namedFields nested))
    else if ← sees (.group .parenthesis) then do
      pure [.group level true (← plainFields nested)]
    else pure []
  let value : List Piece ←
    if ← takesMark "=" then do pure (.word " = " :: (← nested.expression true).pieces)
    else pure []
  return attributes ++ .word name.spelling :: fields ++ value

/-- Reads an enumeration. -/
def enumeration (nested : Nested) (visibility : List Piece) : Reader Found := do
  word "enum"
  let name ← name
  let parameters ← Parameters.read nested
  let conditions ← Condition.all nested
  let variants ← inside .brace (list (variant nested))
  return withBody
    (visibility ++ .word ("enum " ++ name.spelling) :: parameters ++
      Condition.beforeBody conditions)
    (commaLines variants)

/-- Reads a record of which only one field has a value. -/
def overlay (nested : Nested) (visibility : List Piece) : Reader Found := do
  word "union"
  let name ← name
  let parameters ← Parameters.read nested
  let conditions ← Condition.all nested
  let fields ← namedFields nested
  return withBody
    (visibility ++ .word ("union " ++ name.spelling) :: parameters ++
      Condition.beforeBody conditions)
    (commaLines fields)

/-- Reads another name for a type.  One with bounds, or that stands for nothing,
has no layout. -/
def otherName (nested : Nested) (visibility : List Piece) : Reader Found := do
  let type ← Member.namedType nested .beforeDefinition
  return type.definition.bind fun definition =>
    Found.onlyIf (!type.hasColon)
      (line (visibility ++ type.header ++ Condition.onOneLine type.conditions ++
        Member.definitionPieces definition ++ [.word ";"]))

/-! ## Traits -/

/-- Reads a trait after its name and its parameters. -/
def traitAfter (nested : Nested) (header : List Piece) : Reader Found := do
  let bounds ← Bound.optionalList nested (.or (.word "where") (.group .brace))
  let bounds : List Piece :=
    if bounds.isEmpty then [] else .word ": " :: [Piece.word " + "].intercalate bounds
  let conditions ← Condition.all nested
  return withBody (header ++ bounds ++ Condition.beforeBody conditions)
    (← Member.body nested (Member.inTrait nested))

/-- Reads a trait that is another name for bounds, after its name and its
parameters. -/
def otherTraitAfter (nested : Nested) (header : List Piece) : Reader Found := do
  mark "="
  let bounds ← Bound.list nested (.or (.word "where") (.mark ";"))
  let conditions ← Condition.all nested
  mark ";"
  let bounds :=
    [Piece.gap { blanks := 1 }, .word "+ "].intercalate (bounds.map BoundText.pieces)
  return line (header ++ .word " = " :: .gap { fixed := true } :: bounds ++
    Condition.beforeSemicolon conditions)

/-- Reads a trait. -/
def trait (nested : Nested) (visibility : List Piece) : Reader Found := do
  let isPlain ← sees (.word "trait")
  let words ← ["unsafe", "auto"].flatMapM optionalWord
  word "trait"
  let name ← name
  let parameters ← Parameters.read nested
  let header := visibility ++ words ++ .word ("trait " ++ name.spelling) :: parameters
  if isPlain && (← sees (.mark "=")) then otherTraitAfter nested header
  else traitAfter nested header

/-! ## Implementations -/

/-- The header of an implementation up to its conditions. -/
def implementationHeader (words parameters trait type : List Piece) : List Piece :=
  [.group (-level) false
    (.group level true (words ++ .word "impl" :: parameters) :: .word " " :: trait ++ type)]

/-- Reads what is implemented, and for which type.  Says whether that has a
layout. -/
def implemented (nested : Nested) : Reader (List Piece × List Piece × Bool) := do
  let isNegative ← sees (.and (.mark "!") (.not (.after 1 (.group .brace))))
  if isNegative then mark "!"
  let first ← nested.type true
  if ← takesWord "for" then
    let negation : List Piece := if isNegative then [.word "!"] else []
    let trait := negation ++ first.pieces ++ [.gap { blanks := 1 }, .word "for "]
    return (trait, (← nested.type true).pieces, first.isPath)
  guard !isNegative
  return ([], first.pieces, true)

/-- Reads an implementation.  One with a visibility has no layout, nor has one that
depends on constants. -/
def implementation (nested : Nested) (visibility : List Piece) : Reader Found := do
  let words ← ["default", "unsafe"].flatMapM optionalWord
  word "impl"
  let hasParameters ← sees Parameters.mayStart
  let parameters ← if hasParameters then Parameters.read nested else pure []
  let isConstant ← sees (.or (.word "const") (.and (.mark "?") (.after 1 (.word "const"))))
  if isConstant then
    let _ ← takesMark "?"
    word "const"
  let (trait, type, hasLayout) ← implemented nested
  let conditions ← Condition.all nested
  let body ← Member.body nested (Member.inImplementation nested)
  return Found.onlyIf (visibility.isEmpty && !isConstant && hasLayout)
    (withBody
      (implementationHeader words parameters trait type ++ Condition.beforeBody conditions) body)

/-! ## All declarations -/

/-- Reads rules that are declared by name.  They have no layout. -/
def rules : Reader Found := do
  word "macro"
  let _ ← name
  if ← sees (.group .parenthesis) then
    let _ ← anyGroup
  guard (← sees (.group .brace))
  let _ ← anyGroup
  return none

/-- Whether a trait comes next. -/
def startsTrait : Ahead := fun tokens =>
  let tokens := Ahead.skipWords ["unsafe"] tokens
  Ahead.word "trait" tokens || (Ahead.word "auto" tokens && Ahead.after 1 (.word "trait") tokens)

/-- Whether an implementation comes next. -/
def startsImplementation : Ahead := fun tokens =>
  Ahead.word "impl" (Ahead.skipWords ["unsafe"] tokens) ||
    (Ahead.word "default" tokens && !Ahead.after 1 (.mark "!") tokens)

/-- Whether a declaration with a block of what is defined elsewhere comes next. -/
def startsOtherBlock : Ahead := fun tokens =>
  let rest := FunctionHeader.skipConvention (Ahead.skipWords ["unsafe"] tokens)
  Ahead.or (.word "extern") (.and (.word "unsafe") (.after 1 (.word "extern"))) tokens &&
    Ahead.group .brace rest

/-- Reads a declaration after its attributes and its visibility. -/
def afterVisibility (nested : Nested) (visibility : List Piece) : Reader Found := do
  if ← sees (FunctionHeader.mayStart false) then
    return ← Member.function nested visibility false
  if ← sees (.and (.word "extern") (.after 1 (.word "crate"))) then
    return ← otherPackage visibility
  if ← sees startsOtherBlock then
    guard visibility.isEmpty
    return ← otherBlock nested
  if ← sees (.word "use") then return ← imported nested visibility
  if ← sees (.word "static") then return ← stored nested visibility
  if ← sees (.word "const") then return ← Member.constant nested visibility false
  if ← sees startsTrait then return ← trait nested visibility
  if ← sees startsImplementation then return ← implementation nested visibility
  if ← sees (.or (.word "mod") (.and (.word "unsafe") (.after 1 (.word "mod")))) then
    return ← module nested visibility
  if ← sees (.word "type") then return ← otherName nested visibility
  if ← sees (.word "struct") then return ← record nested visibility
  if ← sees (.word "enum") then return ← enumeration nested visibility
  if ← sees (.and (.word "union") (.after 1 Ahead.name)) then
    return ← overlay nested visibility
  if ← sees (.word "macro") then return ← rules
  guard (visibility.isEmpty && (← sees Member.mayBeInvoked))
  Member.invoked true

/-- Reads a declaration. -/
def read (nested : Nested) : Reader (List Piece) :=
  Member.kept nested do afterVisibility nested (← Visibility.read)

end Declaration

end ProtoSchema
