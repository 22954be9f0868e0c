import ProtoSchema.Source.Reader

/-!
# What readers find

What a reader finds is kept as the pieces by which it is laid out in lines, with
what the source around it has to know.  That is whether a comma has to follow an
expression, for instance, or whether a type may be a bound.

Types hold expressions, expressions hold blocks, and blocks hold types again.
The readers of one kind are therefore made from those for what is nested, which
come in a `Nested`.
-/

namespace ProtoSchema

open Layout (Piece level)

/-! ## Paths -/

/-- Where a path stands, which decides how arguments are written in lines. -/
inductive PathPlace where
  /-- In a type. -/
  | inType
  /-- In an expression or a pattern, where two colons stand in front of
  arguments. -/
  | inExpression
deriving DecidableEq, Repr, Inhabited

/-- A path: names with two colons between them. -/
structure PathText where
  /-- Whether two colons stand in front of the first name. -/
  absolute : Bool := false
  /-- The names. -/
  parts : List PathPart
deriving Inhabited

namespace PathText

/-- The words of a path. -/
def words (path : PathText) : List String :=
  (if path.absolute then ["::"] else []) ++ (PathPart.spellAll path.parts).words

/-- The pieces of one name. -/
def partPieces (place : PathPlace) (part : PathPart) : List Piece :=
  let colons : List Piece :=
    if place = .inExpression && !part.arguments.pieces.isEmpty then [.word "::"] else []
  .word part.name.spelling :: colons ++ part.arguments.pieces

/-- The pieces of a path. -/
def pieces (place : PathPlace) (path : PathText) : List Piece :=
  (if path.absolute then [.word "::"] else []) ++
    [Piece.word "::"].intercalate (path.parts.map (partPieces place))

/-- Whether no name has arguments. -/
def isSimple (path : PathText) : Bool :=
  path.parts.all fun part => part.arguments.words.isEmpty

/-- Whether it is one name alone. -/
def isSingle (path : PathText) : Bool := !path.absolute && path.parts.length == 1

/-- Whether the last name has no arguments, or none between its brackets. -/
def endsBare (path : PathText) : Bool :=
  path.parts.getLast?.any fun part => part.arguments.pieces.isEmpty

/-- A path with other arguments for the last name. -/
def withLast (path : PathText) (arguments : Spelling) : PathText :=
  match path.parts.getLast? with
  | some last => { path with parts := path.parts.dropLast ++ [{ last with arguments }] }
  | none => path

end PathText

/-! ## Types -/

/-- What a bound demands. -/
inductive BoundKind where
  | trait
  | lifetime
  /-- It names what is captured. -/
  | capture
  /-- A trait in a form that has no layout. -/
  | special
deriving DecidableEq, Repr, Inhabited

/-- Where a bound stands, which decides what it may be. -/
structure BoundPlace where
  /-- Whether it may be a trait in a form that has no layout. -/
  special : Bool := false
  /-- Whether it may name what is captured. -/
  capture : Bool := false
deriving DecidableEq, Repr, Inhabited

/-- A bound. -/
structure BoundText where
  /-- Its pieces. -/
  pieces : List Piece
  /-- What it demands. -/
  kind : BoundKind
  /-- How it is written without the parentheses around it. -/
  bare : Spelling := {}
deriving Inhabited

/-- A type. -/
structure TypeText where
  /-- Its pieces. -/
  pieces : List Piece
  /-- Whether it is one name, perhaps with arguments. -/
  isSingle : Bool := false
  /-- Whether it is a path that does not start at a type. -/
  isPath : Bool := false
  /-- How it is written as a bound in parentheses, if it may be one. -/
  bound : Option Spelling := none
deriving Inhabited

/-! ## Patterns -/

/-- A pattern. -/
structure PatternText where
  /-- Its pieces. -/
  pieces : List Piece
  /-- Whether several of its kind stand on one line as long as they fit. -/
  isSmall : Bool := false
deriving Inhabited

/-! ## Expressions -/

/-- What an expression is, as far as that matters to what is around it. -/
inductive ExpressionKind where
  /-- A character, a byte, a whole number or a truth value. -/
  | simple
  /-- Items in brackets, or a body that has to be closed by a semicolon. -/
  | enclosed
  /-- A block, perhaps behind a word. -/
  | block
  /-- A choice between arms. -/
  | choice
  /-- A block that depends on a condition, and whether there is another one when
  it does not hold. -/
  | conditional (complete : Bool)
  /-- A block that is repeated, and whether it may have a value. -/
  | loop (valued : Bool)
  | call
  | comparison
  | assignment
  /-- It leaves what is around it. -/
  | jump
  /-- Something is invoked with tokens, which stand in braces or not. -/
  | invocation (braces : Bool)
  | other
deriving DecidableEq, Repr, Inhabited

namespace ExpressionKind

/-- Whether it ends a statement, and the result of an arm. -/
def isClosed : ExpressionKind → Bool
  | block | choice | conditional _ | loop _ => true
  | _ => false

/-- Whether it keeps close to the brackets around it. -/
def hugs : ExpressionKind → Bool
  | enclosed | block => true
  | _ => false

end ExpressionKind

/-- An expression. -/
structure ExpressionText where
  /-- Its pieces. -/
  pieces : List Piece
  /-- What it is. -/
  kind : ExpressionKind := .other
  /-- Its pieces as the result of an arm, if they are special there. -/
  ownArm : Option (List Piece) := none
  /-- Whether attributes stand in front of it. -/
  isAttributed : Bool := false
  /-- Whether a brace after it starts a line of its own when it is broken. -/
  wraps : Bool := false
  /-- Whether it can stand in front of a statement. -/
  startsStatement : Bool := true
deriving Inhabited

namespace ExpressionText

/-- Whether it keeps close to the brackets around it. -/
def hugs (expression : ExpressionText) : Bool :=
  expression.kind.hugs && !expression.isAttributed

/-- Whether it keeps close to the inputs of the closure that it is the body of. -/
def followsInputs (expression : ExpressionText) : Bool :=
  !expression.isAttributed &&
    (expression.kind.hugs || expression.kind == .choice || expression.kind == .call)

/-- Whether a semicolon has to follow it as a statement. -/
def needsSemicolon (expression : ExpressionText) : Bool :=
  !expression.kind.isClosed && expression.kind != .invocation true

/-- Whether a semicolon is added to it at the end of a block. -/
def takesSemicolon (expression : ExpressionText) : Bool :=
  expression.kind == .assignment || expression.kind == .jump

/-- Whether the semicolon after it is dropped. -/
def dropsSemicolon (expression : ExpressionText) : Bool :=
  expression.kind == .conditional false || expression.kind == .loop false

/-- An expression behind attributes. -/
def withAttributes (attributes : List Piece) (expression : ExpressionText) : ExpressionText :=
  if attributes.isEmpty then expression
  else { expression with pieces := attributes ++ expression.pieces, isAttributed := true }

/-- Whether it can be the left side of what stands in front of a statement. -/
def opensStatement (expression : ExpressionText) : Bool :=
  expression.needsSemicolon && expression.startsStatement

/-- An expression that is put in brackets when it does not fit.  They are braces
where a statement may stand in them.  As the result of an arm it is followed by a
comma. -/
def inBrackets (expression : ExpressionText) (isArm : Bool) : Piece :=
  let braces := expression.startsStatement
  .group level true
    (.gap { atEnd := some (if braces then '\x7b' else '(') } :: expression.pieces ++
      [.gap {
        shift := -level
        atEnd := if braces && expression.takesSemicolon then some ';' else none
        atStart := if braces then "\x7d" else if isArm then ")," else ")"
        joined := if isArm && !expression.kind.isClosed then some ',' else none }])

/-- An expression as the result of an arm. -/
def armPieces (expression : ExpressionText) : List Piece :=
  expression.ownArm.getD [.gap { fixed := true }, expression.inBrackets true]

/-- An expression in front of a brace. -/
def beforeBrace (expression : ExpressionText) : List Piece :=
  let stop : Piece := if expression.wraps then .gap { blanks := 1 } else .word " "
  [.group 0 true (expression.pieces ++ [stop])]

end ExpressionText

/-! ## Blocks -/

/-- A statement. -/
structure StatementText where
  /-- Its pieces, which end in a gap. -/
  pieces : List Piece
  /-- The expression that it is, when no semicolon follows. -/
  result : Option ExpressionText := none
  /-- Whether another statement may follow at once. -/
  isClosed : Bool := true
deriving Inhabited

/-- What stands in the braces of a block. -/
structure BlockText where
  /-- The attributes at its start. -/
  attributes : List Piece := []
  /-- The statements. -/
  statements : List StatementText := []
deriving Inhabited

namespace BlockText

/-- Whether nothing stands in the braces. -/
def isEmpty (block : BlockText) : Bool := block.attributes.isEmpty && block.statements.isEmpty

/-- The expression that a block is nothing but. -/
def single? (block : BlockText) : Option ExpressionText :=
  match block.statements with
  | [statement] => statement.result
  | _ => none

/-- The pieces of all statements. -/
def statementPieces (block : BlockText) : List Piece :=
  block.statements.flatMap StatementText.pieces

/-- The pieces in the braces, for a block on several lines. -/
def inside (block : BlockText) : List Piece := block.attributes ++ block.statementPieces

/-- The pieces of a block with its braces.  One of a single expression stands on
one line if it fits.  They belong into a group that is indented. -/
def pieces (block : BlockText) : List Piece :=
  if block.isEmpty then [.word "\x7b\x7d"]
  else
    let statements :=
      match block.single? with
      | some expression => [.group 0 false expression.pieces, .gap { blanks := 1 }]
      | none => block.statementPieces
    .word "\x7b" ::
      Layout.shiftLast (-level) (.gap { blanks := 1 } :: block.attributes ++ statements) ++
      [.word "\x7d"]

/-- A block as a group. -/
def group (block : BlockText) : Piece := .group level true block.pieces

/-- A block on several lines, unless it is empty. -/
def hanging (block : BlockText) : List Piece :=
  if block.isEmpty then [.word "\x7b\x7d"]
  else
    .word "\x7b" :: Layout.shiftLast (-level) (Layout.newline 0 :: block.inside) ++
      [.word "\x7d"]

/-- A block on several lines that is a group of its own inside the braces. -/
def hangingGroup (block : BlockText) : List Piece :=
  .word "\x7b" :: .gap { fixed := true } :: Layout.hangingGroup block.inside ++ [.word "\x7d"]

end BlockText

/-! ## Imports -/

/-- What is imported. -/
structure ImportText where
  /-- Its pieces. -/
  pieces : List Piece
  /-- Whether it ends in several names in braces. -/
  endsInBraces : Bool := false
deriving Inhabited

/-! ## Readers for what is nested -/

/-- Readers for what stands inside of something else. -/
structure Nested where
  /-- Reads a type.  Bounds joined by a plus are read if they may stand there. -/
  type : (plus : Bool) → Reader TypeText
  /-- Reads arguments with their angle brackets, without noting them. -/
  arguments : Reader Spelling
  /-- Reads a bound, of which some forms stand only in certain places. -/
  bound : BoundPlace → Reader BoundText
  /-- Reads a pattern that is no choice. -/
  pattern : Reader PatternText
  /-- Reads an expression.  One with fields in braces is read if it may stand
  there. -/
  expression : (fields : Bool) → Reader ExpressionText
  /-- Reads an expression without operators between two. -/
  operand : (fields : Bool) → Reader ExpressionText
  /-- Reads an expression that is the result of an arm, of which some attributes
  were read before. -/
  result : (before : List Piece) → Reader ExpressionText
  /-- Reads a block with its braces. -/
  block : Reader BlockText
  /-- Reads fields with names in braces. -/
  fields : Reader (List (List Piece))
  /-- Reads what is imported, which may start at the root in braces or not. -/
  imported : (rooted : Bool) → Reader ImportText
  /-- Reads a declaration.  Its pieces end in a gap. -/
  declaration : Reader (List Piece)

namespace Nested

/-- Readers that find nothing. -/
def none : Nested where
  type _ := failure
  arguments := failure
  bound _ := failure
  pattern := failure
  expression _ := failure
  operand _ := failure
  result _ := failure
  block := failure
  fields := failure
  imported _ := failure
  declaration := failure

end Nested

end ProtoSchema
