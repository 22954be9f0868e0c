import ProtoSchema.Source.Expression

/-!
# Reading headers

The header of a declaration says who may use it, which parameters it has, and
which conditions hold for them.  That of a function says what it takes and what
it gives back.
-/

namespace ProtoSchema

open Layout (Piece level newline)

/-! ## Visibility -/

namespace Visibility

open Reader

/-- The words that stand for a place. -/
def words : List String := ["crate", "self", "super"]

/-- Whether the tokens in parentheses restrict visibility to a place. -/
def isPlace : List Token → Bool
  | .name ident :: rest =>
    !ident.raw && (ident.text == "in" || (words.contains ident.text && rest.isEmpty))
  | _ => false

/-- Reads the place to which visibility is restricted. -/
def place : Reader (List Piece) := do
  let isPath ← takesWord "in"
  let names ← if isPath then Attribute.plainPath else do pure [(← anyName).spelling]
  let short := names.length == 1 && names.all words.contains
  return .word (if short then "pub(" else "pub(in ") :: Attribute.pathPieces names ++ [.word ") "]

/-- Reads who may use what is declared, if that is said. -/
def read : Reader (List Piece) := do
  if ← takesWord "pub" then
    let restricted ← sees fun
      | .group .parenthesis tokens :: _ => isPlace tokens
      | _ => false
    if restricted then return ← inside .parenthesis place
    return [.word "pub "]
  return []

/-- What follows the visibility. -/
def skip : List Token → List Token
  | .name ident :: rest =>
    if ident == { text := "pub" } then
      match rest with
      | .group .parenthesis tokens :: more => if isPlace tokens then more else rest
      | rest => rest
    else .name ident :: rest
  | tokens => tokens

end Visibility

/-! ## Parameters -/

namespace Parameters

open Reader

/-- Reads parameters between angle brackets, if there are any. -/
def read (nested : Nested) : Reader (List Piece) := do
  if ← sees (.mark "<") then
    let list ← silently do
      mark "<"
      let list ← separated (.mark ">") (Bound.parameter nested true)
      mark ">"
      return list
    if list.items.isEmpty then return []
    let sorted := list.lifetimesFirst ParameterText.isLifetime
    noteAll ("<" :: Flat.listed (sorted.items.map fun item => item.spelling.words) sorted.trailing)
    note ">"
    let items := sorted.items.map fun item => item.spelling.pieces
    return [.word "<", .group 0 true (.gap {} :: Layout.items items), .word ">"]
  return []

end Parameters

/-! ## Conditions -/

namespace Condition

open Reader

/-- What ends conditions. -/
def ends : Ahead := fun tokens =>
  tokens.isEmpty || Ahead.group .brace tokens || Ahead.marks [",", ";", "="] tokens ||
    Ahead.colon tokens

/-- Bounds, each after the first one in a line of its own if they do not fit. -/
def boundPieces (bounds : List (List Piece)) : Piece :=
  let start : List Piece := if bounds.isEmpty then [] else [.word " "]
  .group (if bounds.length == 1 then 0 else level) false
    (start ++ [.gap { blanks := 1 }, .word "+ "].intercalate bounds)

/-- Reads a condition on a lifetime. -/
def lifetimeCondition : Reader (List Piece) := do
  let name ← lifetime
  mark ":"
  let bounds ← bounded (Bound.lifetimeBounds ends)
  let pieces := [.gap { blanks := 1 }, .word "+ "].intercalate (bounds.map fun bound =>
    [Piece.word bound])
  let start : List Piece := if bounds.isEmpty then [] else [.word " "]
  return [.word (name ++ ":"), .group level false (start ++ pieces)]

/-- Reads a condition on a type. -/
def typeCondition (nested : Nested) : Reader (List Piece) := do
  let binder ← Bound.binder nested
  let type ← nested.type true
  mark ":"
  let bounds ← Bound.list nested ends
  return binder.getD [] ++ type.pieces ++
    [.word ":", boundPieces (bounds.map BoundText.pieces)]

/-- Reads a condition. -/
def read (nested : Nested) : Reader (List Piece) := do
  if ← sees (.and Ahead.lifetime (.after 1 (.mark ":"))) then lifetimeCondition
  else typeCondition nested

/-- Reads conditions with commas between them. -/
def listUpTo (nested : Nested) : Nat → Reader (List (List Piece))
  | 0 => failure
  | n + 1 => do
    if ← sees ends then return []
    let first ← read nested
    if ← takesMark "," then return first :: (← listUpTo nested n)
    return [first]

/-- Reads the conditions on parameters, if there are any. -/
def all (nested : Nested) : Reader (List (List Piece)) := do
  if ← sees (.word "where") then
    let (conditions, words) ← captured do
      word "where"
      guard !(← sees Parameters.mayStart)
      bounded (listUpTo nested)
    if !conditions.isEmpty then noteAll words
    return conditions
  return []

/-- Conditions that start at a gap, with what stands between two of them and what
follows the last one. -/
def laidOut (start between : Piece) (stop : List Piece) (conditions : List (List Piece)) :
    List Piece :=
  Layout.shiftLast (-level) [start] ++ .word "where" :: start ::
    [Piece.word ",", between].intercalate conditions ++ stop

/-- Conditions in front of a body. -/
def beforeBody (conditions : List (List Piece)) : List Piece :=
  if conditions.isEmpty then [.word " "]
  else laidOut (newline 0) (newline 0) [.word ",", newline (-level)] conditions

/-- Conditions in front of a semicolon. -/
def beforeSemicolon (conditions : List (List Piece)) : List Piece :=
  if conditions.isEmpty then [.word ";"]
  else laidOut (newline 0) (newline 0) [.word ";"] conditions

/-- Conditions that may stand on one line, in front of something else. -/
def onOneLine (conditions : List (List Piece)) : List Piece :=
  let gap : Piece := .gap { blanks := 1 }
  if conditions.isEmpty then [.word " "]
  else
    laidOut gap gap [.gap { blanks := 1, atEnd := some ',', shift := -level }] conditions

/-- Conditions that may stand on one line, in front of a semicolon. -/
def onOneLineBeforeSemicolon (conditions : List (List Piece)) : List Piece :=
  let gap : Piece := .gap { blanks := 1 }
  if conditions.isEmpty then [.word ";"] else laidOut gap gap [.word ";"] conditions

end Condition

/-! ## Functions -/

/-- The header of a function. -/
structure FunctionHeader where
  /-- Its pieces up to the result. -/
  pieces : List Piece
  /-- The conditions on its parameters. -/
  conditions : List (List Piece)
deriving Inhabited

namespace FunctionHeader

open Reader

/-- What follows the convention by which a function is called. -/
def skipConvention (tokens : List Token) : List Token :=
  if Ahead.word "extern" tokens then
    if Ahead.after 1 Ahead.textLiteral tokens then tokens.drop 2 else tokens.drop 1
  else tokens

/-- Whether a function comes next.  Some functions may be said to be safe. -/
def mayStart (safe : Bool) : Ahead := fun tokens =>
  let tokens := Ahead.skipWords ["const", "async"] tokens
  let safety := if safe && Ahead.word "safe" tokens then "safe" else "unsafe"
  Ahead.word "fn" (skipConvention (Ahead.skipWords [safety] tokens))

/-- Whether the receiver of a function comes next. -/
def startsReceiver : Ahead := fun tokens =>
  let isReference := Ahead.mark "&" tokens
  let afterMark := if isReference then tokens.drop 1 else tokens
  let afterLifetime :=
    if isReference && Ahead.lifetime afterMark then afterMark.drop 1 else afterMark
  let rest := Ahead.skipWords ["mut"] afterLifetime
  Ahead.word "self" rest && (isReference || !Ahead.after 1 (.mark "::") rest)

/-- Reads the receiver of a function. -/
def receiver (nested : Nested) : Reader (List Piece) := do
  let isReference ← takesMark "&"
  let reference : List Piece ←
    if isReference then do pure (.word "&" :: (← TypeExpression.optionalLifetime)) else pure []
  let mutability ← optionalWord "mut"
  word "self"
  let type : List Piece ←
    if ← takesMark ":" !isReference then do
      pure (.word ": " :: (← nested.type true).pieces)
    else pure []
  return reference ++ mutability ++ .word "self" :: type

/-- Reads an argument of a function.  The receiver may only be the first one. -/
def argument (nested : Nested) (isFirst : Bool) : Reader (List Piece) := do
  let attributes ← Attribute.outer nested
  if ← sees startsReceiver then
    guard isFirst
    return attributes ++ (← receiver nested)
  if ← sees (.and Ahead.name (.after 1 (.mark "<"))) then
    noteAll ["_", ":"]
    return attributes ++ .word "_: " :: (← nested.type true).pieces
  let pattern ← nested.pattern
  mark ":"
  return attributes ++ pattern.pieces ++ .word ": " :: (← nested.type true).pieces

/-- Reads the arguments of a function. -/
def argumentsUpTo (nested : Nested) (isFirst : Bool) : Nat → Reader (List (List Piece))
  | 0 => failure
  | n + 1 => do
    if ← sees Ahead.nothing then return []
    let first ← argument nested isFirst
    if ← sees Ahead.nothing then return [first]
    mark ","
    return first :: (← argumentsUpTo nested false n)

/-- Reads the header of a function.  Some functions may be said to be safe. -/
def read (nested : Nested) (safe : Bool) : Reader FunctionHeader := do
  let words ← ["const", "async"].flatMapM optionalWord
  let isSafe ← sees (.and (.word "safe") (fun _ => safe))
  let safety ← optionalWord (if isSafe then "safe" else "unsafe")
  let convention ← TypeExpression.convention
  word "fn"
  let name ← name
  let parameters ← Parameters.read nested
  let arguments ← inside .parenthesis (bounded (argumentsUpTo nested true))
  let result ← Signature.result nested true
  let conditions ← Condition.all nested
  let list : List Piece :=
    if arguments.isEmpty then [] else [.group 0 true (.gap {} :: Layout.items arguments)]
  return {
    pieces :=
      words ++ safety ++ convention ++ .word ("fn " ++ name.spelling) :: parameters ++
        .word "(" :: .gap { fixed := true } :: list ++
        [.word ")", .group (-level) true result]
    conditions }

end FunctionHeader

end ProtoSchema
