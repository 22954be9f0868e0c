import ProtoSchema.Source.Declaration

/-!
# Reading statements

A block is made of statements.  A statement binds a pattern to a value, declares
something, invokes something with tokens in braces, or is an expression.  A
semicolon ends it, unless it ends by itself or the block ends there.  A semicolon
alone is a statement that does nothing.
-/

namespace ProtoSchema

open Layout (Piece level newline)

namespace Statement

open Reader

/-! ## Bindings -/

/-- Whether what was read since a place ends in a brace. -/
def endsInBrace (start : Cursor) : Reader Bool := do
  let taken := start.rest.take (start.rest.length - (← get).rest.length)
  return match taken.getLast? with
    | some (.group .brace _) => true
    | _ => false

/-- Reads the block for a pattern that does not match, if there is one. -/
def otherwise (nested : Nested) : Reader (Option BlockText) := do
  if ← takesWord "else" then return some (← Expression.plainBlock nested)
  return none

/-- Reads a value that is bound, and the block for when the pattern does not match.
The block may not follow another one. -/
def bound (nested : Nested) : Reader (List Piece × Option BlockText) := do
  if ← takesMark "=" then
    let start ← get
    let value ← nested.expression true
    let pieces := .word " = " :: .gap { fixed := true } :: value.pieces
    if ← endsInBrace start then return (pieces, none)
    return (pieces, ← otherwise nested)
  return ([], none)

/-- Reads a binding. -/
def binding (nested : Nested) (attributes : List Piece) : Reader StatementText := do
  word "let"
  let pattern ← nested.pattern
  let type ← if ← sees (.mark ":") then Member.typed nested else pure []
  let (value, otherwise) ← bound nested
  mark ";"
  let start := .word "let " :: pattern.pieces ++ type ++ value
  let pieces : List Piece :=
    match otherwise with
    | some block =>
      [.group 0 false (start ++ [.gap { blanks := 1 }, .word "else "]), .gap { fixed := true },
        block.group]
    | none => [.group 0 false start]
  return { pieces := attributes ++ pieces ++ [.word ";", newline 0] }

/-! ## Invocations and declarations -/

/-- The tokens after a path without arguments, if there is one. -/
def afterPath? (tokens : List Token) : Option (List Token) :=
  (Attribute.plainPath.run { rest := tokens }).map fun (_, cursor) => cursor.rest

/-- Whether something comes next that is invoked with tokens in braces. -/
def startsInvocation : Ahead := fun tokens =>
  (afterPath? tokens).any fun rest =>
    Ahead.mark "!" rest && Ahead.after 1 (Ahead.group .brace) rest &&
      !Ahead.after 2 (.mark "?") rest

/-- Reads something that is invoked with tokens in braces.  The semicolon after it
means nothing. -/
def invocation (attributes : List Piece) : Reader StatementText := do
  let path ← Attribute.plainPath
  let found ← Invocation.rest (Attribute.pathPieces path)
  let _ ← takesMark ";"
  return { pieces := attributes ++ found.pieces ++ [newline 0] }

/-- Whether something comes next that is invoked to introduce a name. -/
def startsNamedInvocation : Ahead := fun tokens =>
  (afterPath? tokens).any fun rest =>
    Ahead.mark "!" rest && Ahead.after 1 (.or Ahead.name (.word "try")) rest

/-- Whether a word that starts a declaration is followed by what makes it one. -/
def startsStored : Ahead := fun tokens =>
  Ahead.word "static" tokens &&
    (Ahead.after 1 (.word "mut") tokens || Ahead.after 1 Ahead.name tokens)

/-- Whether a constant or a function that is constant comes next, and neither a
block nor a closure. -/
def startsConstant : Ahead := fun tokens =>
  let asynchronous : Ahead :=
    .and (.word "async") (.not (.after 1 (.oneOfWords ["unsafe", "extern", "fn"])))
  let closure : Ahead := .or asynchronous (.or (.oneOfWords ["static", "move"]) (.mark "|"))
  Ahead.word "const" tokens && !Ahead.after 1 (.or (.group .brace) closure) tokens

/-- Whether a declaration comes next. -/
def startsDeclaration : Ahead := fun tokens =>
  Ahead.oneOfWords ["pub", "extern", "use", "fn", "mod", "type", "struct", "enum", "trait", "impl",
    "macro"] tokens ||
    (Ahead.word "crate" tokens && !Ahead.after 1 (.mark "::") tokens) ||
    startsStored tokens || startsConstant tokens ||
    (Ahead.word "unsafe" tokens && !Ahead.after 1 (.group .brace) tokens) ||
    (Ahead.word "async" tokens && Ahead.after 1 (.oneOfWords ["unsafe", "extern", "fn"]) tokens) ||
    (Ahead.word "union" tokens && Ahead.after 1 Ahead.name tokens) ||
    (Ahead.word "auto" tokens && Ahead.after 1 (.word "trait") tokens) ||
    (Ahead.word "default" tokens && Ahead.after 1 (.oneOfWords ["unsafe", "impl"]) tokens) ||
    startsNamedInvocation tokens

/-! ## Expressions -/

/-- Something with a semicolon after it, if it was asked for. -/
def ended (pieces : List Piece) (hasSemicolon : Bool) : List Piece :=
  if hasSemicolon then pieces ++ [.word ";"] else pieces

/-- Reads an expression as a statement. -/
def expression (nested : Nested) (attributes : List Piece) : Reader StatementText := do
  let expression ← nested.result attributes
  let hasSemicolon ← takesMark ";"
  match expression.kind, hasSemicolon with
  | .invocation true, _ => return { pieces := expression.pieces ++ [newline 0] }
  | .invocation false, true => return { pieces := ended expression.pieces true ++ [newline 0] }
  | _, true =>
    return {
      pieces := [.group 0 false (ended expression.pieces !expression.dropsSemicolon), newline 0] }
  | _, false =>
    return {
      pieces := [.group 0 false (ended expression.pieces expression.takesSemicolon), newline 0]
      result := some expression
      isClosed := !expression.needsSemicolon }

/-! ## Blocks -/

/-- Reads a statement. -/
def read (nested : Nested) : Reader StatementText := do
  let start ← get
  let attributes ← Attribute.outer nested
  if ← sees startsInvocation then return ← invocation attributes
  if ← sees (.word "let") then return ← binding nested attributes
  if ← sees startsDeclaration then
    set start
    return { pieces := ← Declaration.read nested }
  expression nested attributes

/-- Reads the statements of a block. -/
def listUpTo (nested : Nested) : Nat → Reader (List StatementText)
  | 0 => failure
  | n + 1 => do
    if ← takesMark ";" then return { pieces := [] } :: (← listUpTo nested n)
    if ← sees Ahead.nothing then return []
    let first ← read nested
    guard (first.isClosed || (← sees Ahead.nothing))
    return first :: (← listUpTo nested n)

/-- Reads a block with its braces. -/
def block (nested : Nested) : Reader BlockText := inside .brace do
  let attributes ← Attribute.inner nested
  return { attributes, statements := ← bounded (listUpTo nested) }

end Statement

end ProtoSchema
