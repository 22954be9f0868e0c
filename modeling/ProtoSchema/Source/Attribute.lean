import ProtoSchema.Source.Comment
import ProtoSchema.Source.Nested
import ProtoSchema.Source.TokenLayout

/-!
# Reading attributes

An attribute is a name between brackets after a number sign.  The name may be
given a value, or tokens in brackets.  An attribute with an exclamation mark is
about what it stands in.

What is invoked with tokens is read here as well.
-/

namespace ProtoSchema

open Layout (Piece)

namespace Attribute

open Reader

/-! ## Names -/

/-- Reads the names of a path without arguments. -/
def plainNames : Nat → Reader (List String)
  | 0 => failure
  | n + 1 => do
    let ident ← anyName
    guard (ident.isFree || ["super", "self", "Self", "crate"].contains ident.text)
    if ← takesMark "::" then return ident.spelling :: (← plainNames n)
    return [ident.spelling]

/-- Reads a path without arguments. -/
def plainPath : Reader (List String) := do
  let start ← if ← takesMark "::" then pure [""] else pure []
  return start ++ (← bounded plainNames)

/-- The pieces of a path without arguments. -/
def pathPieces (names : List String) : List Piece := [.word ("::".intercalate names)]

/-! ## Contents -/

/-- Reads a value after the equals sign, and its text if it is a literal that
stands for text. -/
def value (nested : Nested) : Reader (List Piece × Option (List Char)) := do
  if ← sees (.and Ahead.literal (.after 1 Ahead.nothing)) then
    let text ← literal
    return ([.word text], Literal.text? text)
  if ← sees (.and Ahead.negative (.after 2 Ahead.nothing)) then
    return ([.word (← literal)], none)
  guard !(← sees (.and (.mark "#") (.after 1 (Ahead.group .bracket))))
  return ((← nested.expression true).pieces, none)

/-- Reads what is between the brackets of an attribute.  A comment is laid out
in its own way. -/
def content (nested : Nested) (around : Bool) : Reader (Except (List Piece) (List Piece)) := do
  let names ← if ← takesWord "unsafe" then pure ["unsafe"] else plainPath
  let path := pathPieces names
  if ← sees Ahead.nothing then return .ok path
  if ← takesMark "=" then
    let (pieces, text) ← value nested
    let comment :=
      match names, text with
      | ["doc"], some text => Comment.documentation? around text
      | ["comment"], some text => Comment.plain? text
      | _, _ => none
    match comment with
    | some comment => return .error comment
    | none => return .ok (path ++ .word " = " :: pieces)
  let (delimiter, tokens) ← anyGroup
  return .ok (path ++ TokenLayout.attributeGroup (.group delimiter tokens))

/-- Reads what follows the mark of an attribute. -/
def body (nested : Nested) (around : Bool) : Reader (List Piece) := do
  match ← inside .bracket (content nested around) with
  | .error comment => return comment
  | .ok pieces =>
    let start := if around then "#![" else "#["
    return .word start :: pieces ++ [.word "]", .gap { blanks := 1 }]

/-! ## Attributes -/

/-- Reads the attributes of what follows. -/
def outer (nested : Nested) : Reader (List Piece) :=
  List.flatten <$> repeated (.not (.mark "#")) do
    mark "#"
    body nested false

/-- Reads the attributes of what they stand in. -/
def inner (nested : Nested) : Reader (List Piece) :=
  List.flatten <$> repeated (.not (.and (.mark "#") (.after 1 (.mark "!")))) do
    mark "#"
    mark "!"
    body nested true

end Attribute

/-! ## Invocations -/

namespace Invocation

open Reader

/-- Whether an exclamation mark comes next that starts an invocation. -/
def bang : Ahead := .and (.mark "!") (.not (.mark "!="))

/-- An invocation. -/
structure Text where
  /-- Its pieces. -/
  pieces : List Piece
  /-- Whether its tokens are in braces. -/
  hasBraces : Bool
deriving Inhabited

/-- Reads an invocation after the path of what is invoked. -/
def rest (path : List Piece) : Reader Text := do
  mark "!"
  let (delimiter, tokens) ← anyGroup
  return {
    pieces := path ++ .word "!" :: TokenLayout.invoked delimiter tokens
    hasBraces := delimiter == .brace }

end Invocation

end ProtoSchema
