import ProtoSchema.Source.Header

/-!
# Reading members

The members of a trait, of an implementation, and of a block of what is defined
elsewhere are functions, constants, types, and what is invoked.  What may be left
out differs: a trait need not give values, an implementation has to, and what is
defined elsewhere must not have any.

A member in a form that is read but means nothing where it stands has no layout in
lines.
-/

namespace ProtoSchema

open Layout (Piece level newline)

namespace Member

open Reader

/-- The pieces of what was read, or nothing if it has no layout in lines. -/
abbrev Found := Option (List Piece)

/-- What was read, or nothing. -/
def Found.onlyIf (hasLayout : Bool) (pieces : List Piece) : Found :=
  if hasLayout then some pieces else none

/-- Reads something after its attributes.  It is kept as it is when it has no
layout in lines. -/
def kept (nested : Nested) (reader : Reader Found) : Reader (List Piece) := do
  let start ← get
  let attributes ← Attribute.outer nested
  match ← reader with
  | some pieces => return attributes ++ pieces
  | none =>
    keepSince start
    return []

/-! ## Common parts -/

/-- A declaration on a line, or on several ones that are indented. -/
def line (pieces : List Piece) : List Piece := [.group level true pieces, newline 0]

/-- A header and a body in braces, on several lines. -/
def withBody (header body : List Piece) : List Piece :=
  [.group level true (header ++ .word "\x7b" :: Layout.hanging body), .word "\x7d", newline 0]

/-- Reads what stands in braces: attributes, and then one thing after the other. -/
def body (nested : Nested) (item : Reader (List Piece)) : Reader (List Piece) :=
  inside .brace do
    let attributes ← Attribute.inner nested
    return attributes ++ (← repeated Ahead.nothing item).flatten

/-- Reads a name, or the word that stands for no name. -/
def openName : Reader Ident := do
  guard (← sees (.or Ahead.name (.word "_")))
  anyName

/-- Reads a type after a colon. -/
def typed (nested : Nested) : Reader (List Piece) := do
  mark ":"
  return .word ": " :: (← nested.type true).pieces

/-- Reads a value after the equals sign. -/
def valued (nested : Nested) : Reader (List Piece) := do
  mark "="
  return .word " = " :: .gap { fixed := true } :: (← nested.expression true).pieces

/-! ## Invocations -/

/-- Whether something that is invoked may come next. -/
def mayBeInvoked : Ahead := fun tokens =>
  Ahead.name tokens || Ahead.oneOfWords ["self", "super", "crate"] tokens ||
    Ahead.mark "::" tokens

/-- The pieces of something that is invoked to introduce a name.  Rules that do
not have the form of rules cannot be laid out. -/
def invocationPieces (path : List String) (name : Option Ident) (delimiter : Delimiter)
    (tokens : List Token) : Found :=
  let stop : List Piece := if delimiter == .brace then [] else [.word ";"]
  match path, name with
  | ["macro_rules"], some name => TokenLayout.namedRules? name tokens
  | path, some name =>
    some (Attribute.pathPieces path ++ .word ("! " ++ name.spelling) ::
      TokenLayout.invoked delimiter tokens ++ stop)
  | path, none =>
    some (Attribute.pathPieces path ++ .word "!" :: TokenLayout.invoked delimiter tokens ++ stop)

/-- Reads something that is invoked, perhaps to introduce a name.  A semicolon has
to follow unless its tokens are in braces. -/
def invoked (named : Bool) : Reader Found := do
  let path ← Attribute.plainPath
  mark "!"
  let isNamed ← sees fun tokens => named && (Ahead.name tokens || Ahead.word "try" tokens)
  let name : Option Ident ← if isNamed then some <$> anyName else pure none
  let (delimiter, tokens) ← anyGroup
  if delimiter != .brace then mark ";"
  return (invocationPieces path name delimiter tokens).map (· ++ [newline 0])

/-! ## Functions, constants and types -/

/-- A function in lines. -/
def functionLines (before : List Piece) (header : FunctionHeader) (block : BlockText) :
    List Piece :=
  withBody (before ++ header.pieces ++ Condition.beforeBody header.conditions) block.inside

/-- A function without a body in lines. -/
def headerLines (before : List Piece) (header : FunctionHeader) : List Piece :=
  line (before ++ header.pieces ++ Condition.beforeSemicolon header.conditions)

/-- Reads a function.  One without a body has a layout only where that may be left
out. -/
def function (nested : Nested) (before : List Piece) (bodiless : Bool) : Reader Found := do
  let header ← FunctionHeader.read nested false
  if ← takesMark ";" then return Found.onlyIf bodiless (headerLines before header)
  return functionLines before header (← nested.block)

/-- Reads a constant.  One with parameters or conditions has no layout, and one
without a value only where that may be left out. -/
def constant (nested : Nested) (before : List Piece) (valueless : Bool) : Reader Found := do
  word "const"
  let name ← openName
  let hasParameters ← sees (.mark "<")
  let _ ← Parameters.read nested
  let type ← typed nested
  let hasValue ← sees (.mark "=")
  let value ← if hasValue then valued nested else pure []
  let hasConditions ← sees (.word "where")
  let _ ← Condition.all nested
  mark ";"
  return Found.onlyIf (!hasParameters && !hasConditions && (hasValue || valueless))
    (line (before ++ .word ("const " ++ name.spelling) :: type ++ value ++ [.word ";"]))

/-- Where conditions stand in the declaration of a type. -/
inductive ConditionPlace where
  | beforeDefinition
  | afterDefinition
  | anywhere
deriving DecidableEq, Repr, Inhabited

/-- A type that is declared by name. -/
structure NamedType where
  /-- The name and its parameters. -/
  header : List Piece
  /-- Whether bounds may follow. -/
  hasColon : Bool
  /-- The bounds. -/
  bounds : List (List Piece)
  /-- What the name stands for. -/
  definition : Option (List Piece)
  /-- The conditions on the parameters. -/
  conditions : List (List Piece)

/-- Reads the declaration of a type. -/
def namedType (nested : Nested) (place : ConditionPlace) : Reader NamedType := do
  word "type"
  let name ← name
  let parameters ← Parameters.read nested
  let hasColon ← sees (.mark ":")
  let bounds ← Bound.optionalList nested (.or (.word "where") (.marks ["=", ";"]))
  let isEarly ← sees (.word "where")
  let before ← if place != .afterDefinition then Condition.all nested else pure []
  let definition : Option (List Piece) ←
    if ← takesMark "=" then do pure (some (← nested.type true).pieces) else pure none
  let after ←
    if place == .afterDefinition || (place == .anywhere && !isEarly) then Condition.all nested
    else pure []
  mark ";"
  return {
    header := .word ("type " ++ name.spelling) :: parameters
    hasColon
    bounds
    definition
    conditions := before ++ after }

/-- What a type stands for, behind the equals sign. -/
def definitionPieces (definition : List Piece) : List Piece :=
  [.word "= ", .gap { fixed := true }, .group (-level) false definition]

/-! ## Members of a trait -/

/-- Reads a type of a trait. -/
def traitType (nested : Nested) : Reader Found := do
  let type ← namedType nested .afterDefinition
  let definition := match type.definition with
    | some definition => .word " " :: definitionPieces definition
    | none => []
  return line (type.header ++ Bound.boundPieces type.bounds ++ definition ++
    Condition.onOneLineBeforeSemicolon type.conditions)

/-- Reads a member of a trait after what is said in front of it. -/
def inTraitAfter (nested : Nested) (isPlain : Bool) : Reader Found := do
  if ← sees (FunctionHeader.mayStart false) then return ← function nested [] true
  if ← sees (.word "const") then return ← constant nested [] true
  if ← sees (.word "type") then return ← traitType nested
  guard (isPlain && (← sees mayBeInvoked))
  invoked false

/-- Reads a member of a trait.  What is said about who may use it means
nothing. -/
def inTrait (nested : Nested) : Reader (List Piece) := kept nested do
  let visibility ← Visibility.read
  let default ← optionalWord "default"
  let isPlain := visibility.isEmpty && default.isEmpty
  let found ← inTraitAfter nested isPlain
  return if isPlain then found else none

/-! ## Members of an implementation -/

/-- Reads a type of an implementation. -/
def ownType (nested : Nested) (before : List Piece) : Reader Found := do
  let type ← namedType nested .afterDefinition
  return type.definition.bind fun definition =>
    Found.onlyIf (!type.hasColon)
      (line (before ++ type.header ++ .word " " :: definitionPieces definition ++
        Condition.onOneLineBeforeSemicolon type.conditions))

/-- Reads a member of an implementation. -/
def inImplementation (nested : Nested) : Reader (List Piece) := kept nested do
  let visibility ← Visibility.read
  let isDefault ← sees (.and (.word "default") (.not (.after 1 (.mark "!"))))
  let default ← if isDefault then optionalWord "default" else pure []
  let before := visibility ++ default
  if ← sees (FunctionHeader.mayStart false) then return ← function nested before false
  if ← sees (.word "const") then return ← constant nested before false
  if ← sees (.word "type") then return ← ownType nested before
  guard (before.isEmpty && (← sees mayBeInvoked))
  invoked false

/-! ## What is defined elsewhere -/

/-- Reads a function that is defined elsewhere.  One that is said to be safe, or
that has a body, has no layout. -/
def outerFunction (nested : Nested) (visibility : List Piece) : Reader Found := do
  let isSafe ← sees fun tokens =>
    Ahead.word "safe" (Ahead.skipWords ["const", "async"] tokens)
  let header ← FunctionHeader.read nested true
  if ← sees (.group .brace) then
    let _ ← nested.block
    return none
  mark ";"
  return Found.onlyIf (!isSafe) (headerLines visibility header)

/-- Whether a value that is kept in one place comes next. -/
def startsStored : Ahead :=
  .or (.word "static") (.and (.oneOfWords ["unsafe", "safe"]) (.after 1 (.word "static")))

/-- Reads a value that is kept in one place elsewhere.  One that is said to be safe
or not, or that is given here, has no layout. -/
def outerValue (nested : Nested) (visibility : List Piece) : Reader Found := do
  let isPlain ← sees (.word "static")
  let _ ← ["unsafe", "safe"].flatMapM optionalWord
  word "static"
  let mutability ← optionalWord "mut"
  let name ← name
  let type ← typed nested
  let hasValue ← sees (.mark "=")
  let _ ← if hasValue then valued nested else pure []
  mark ";"
  return Found.onlyIf (isPlain && !hasValue)
    [.group 0 true
      (visibility ++ .word "static " :: mutability ++ .word name.spelling :: type ++ [.word ";"]),
      newline 0]

/-- Reads a type that is defined elsewhere.  One that is defined here has no
layout. -/
def outerType (nested : Nested) (visibility : List Piece) : Reader Found := do
  let type ← namedType nested .anywhere
  return Found.onlyIf (!type.hasColon && type.definition.isNone)
    [.group 0 true (visibility ++ type.header ++ [.word ";"]), newline 0]

/-- Reads something that is defined elsewhere. -/
def elsewhere (nested : Nested) : Reader (List Piece) := kept nested do
  let visibility ← Visibility.read
  if ← sees (FunctionHeader.mayStart true) then return ← outerFunction nested visibility
  if ← sees startsStored then return ← outerValue nested visibility
  if ← sees (.word "type") then return ← outerType nested visibility
  guard (visibility.isEmpty && (← sees mayBeInvoked))
  invoked false

end Member

end ProtoSchema
