import ProtoSchema.Source.Bound

/-!
# Reading types

A type is a path, a list of types in parentheses, something behind a pointer, a
function, or a sum of bounds.  Bounds that are not introduced as such are laid
out in lines as if they were.

An argument in a path is a type, a constant, a lifetime, or says what an
associated name stands for.  Lifetimes come first among arguments.
-/

namespace ProtoSchema

open Layout (Piece level)

namespace TypeExpression

open Reader

/-! ## Lists in parentheses -/

/-- What stands between parentheses. -/
inductive Enclosed where
  /-- Types with commas. -/
  | several (items : List (List Piece))
  /-- A type. -/
  | one (type : TypeText)
  /-- A trait that need not hold. -/
  | maybe (bound : Spelling)

/-- The pieces of bounds that are a type. -/
def traits (bounds : List Piece) : List Piece := .word "dyn " :: bounds

/-- Reads bounds, of which at least one is a trait. -/
def bounds (nested : Nested) (plus : Bool) (place : BoundPlace) : Reader (List BoundText) := do
  let bounds ← Bound.sum nested plus place
  guard (bounds.any fun bound => bound.kind == .trait || bound.kind == .special)
  return bounds

/-- Reads what is between parentheses. -/
def enclosed (nested : Nested) : Reader Enclosed := do
  if ← sees Ahead.nothing then return .several []
  if ← sees Ahead.lifetime then
    return .one { pieces := traits (Bound.sumPieces (← bounds nested true {})) }
  if ← sees (.mark "?") then
    let ((bound, _), words) ← captured (Bound.bareTrait nested false)
    noteAll words
    return .maybe ⟨words, bound⟩
  let first ← nested.type true
  if ← takesMark "," then
    let rest ← list (nested.type true)
    return .several (first.pieces :: rest.map TypeText.pieces)
  return .one first

/-- The pieces of types in parentheses.  A comma follows a single one in any
case. -/
def tuple (items : List (List Piece)) : List Piece :=
  match items with
  | [item] =>
    [.word "(",
      .group level true (.gap {} :: item ++ [.word ",", .gap { shift := -level }]),
      .word ")"]
  | items => Layout.bracketed "(" ")" items

/-- Reads further bounds, each after a plus. -/
def sumAfter (nested : Nested) : Nat → Reader (List (List Piece))
  | 0 => failure
  | n + 1 => do
    if ← takesMark "+" then
      let bound ← nested.bound {}
      return bound.pieces :: (← sumAfter nested n)
    return []

/-- The pieces of bounds, of which the first one is in parentheses. -/
def sum (first : List Piece) (rest : List (List Piece)) : List Piece :=
  traits ([Piece.word " + "].intercalate ((.word "(" :: first ++ [.word ")"]) :: rest))

/-- Reads a type in parentheses, several of them, or bounds of which the first
one is in parentheses. -/
def grouped (nested : Nested) (plus : Bool) : Reader TypeText := do
  let (found, words) ← captured (inside .parenthesis (enclosed nested))
  match found with
  | .several items =>
    noteAll words
    return { pieces := tuple items }
  | .maybe bound =>
    noteAll words
    let rest ← bounded (sumAfter nested)
    return {
      pieces := sum bound.pieces rest
      bound := if rest.isEmpty then some bound else none }
  | .one type =>
    if plus && (← sees (.mark "+")) then
      if let some bound := type.bound then
        note (Delimiter.parenthesis.enclose (Flat.spaced bound.words))
        return { pieces := sum bound.pieces (← bounded (sumAfter nested)) }
    noteAll words
    return { pieces := .word "(" :: type.pieces ++ [.word ")"] }

/-! ## Functions -/

/-- Reads the convention by which a function is called, if it is said. -/
def convention : Reader (List Piece) := do
  if ← takesWord "extern" then
    if ← sees Ahead.textLiteral then
      return [.word "extern ", .word (← literalToken), .word " "]
    return [.word "extern "]
  return []

/-- Reads an argument of a function that is the receiver. -/
def receiver (nested : Nested) : Reader Unit := do
  let _ ← takesWord "mut"
  word "self"
  if ← sees Ahead.colon then
    mark ":"
    let _ ← nested.type true

/-- Whether a name comes next that a colon follows. -/
def labelled (name : Ahead) : Ahead := .and name (.after 1 Ahead.colon)

/-- Reads an argument of a function.  Only the first one may be the receiver. -/
def argument (nested : Nested) (isFirst : Bool) : Reader (List Piece) := do
  let attributes ← Attribute.outer nested
  if isFirst && (← sees (.and (.word "mut") (.after 1 (.word "self")))) then
    verbatim (receiver nested)
    return []
  let isNamed ← sees (labelled (.or Ahead.name (.word "_")))
  if isNamed || (isFirst && (← sees (labelled (.word "self")))) then
    let name ← anyName
    mark ":"
    return attributes ++ .word (name.spelling ++ ": ") :: (← nested.type true).pieces
  return attributes ++ (← nested.type true).pieces

/-- Reads the arguments of a function. -/
def argumentsUpTo (nested : Nested) (isFirst : Bool) : Nat → Reader (List (List Piece))
  | 0 => failure
  | n + 1 => do
    if ← sees Ahead.nothing then return []
    let first ← argument nested isFirst
    if ← sees Ahead.nothing then return [first]
    mark ","
    return first :: (← argumentsUpTo nested false n)

/-- Reads a type of functions. -/
def function (nested : Nested) : Reader (List Piece) := do
  let safety ← optionalWord "unsafe"
  let convention ← convention
  word "fn"
  let arguments ← inside .parenthesis (bounded (argumentsUpTo nested true))
  let result ← Signature.result nested false
  return safety ++ convention ++ .word "fn" :: Layout.bracketed "(" ")" arguments ++ result

/-! ## Pointers and sequences -/

/-- Reads a lifetime that may be left out. -/
def optionalLifetime : Reader (List Piece) := do
  if ← sees Ahead.lifetime then return [.word ((← lifetime) ++ " ")]
  return []

/-- Reads a type behind a reference. -/
def reference (nested : Nested) : Reader (List Piece) := do
  mark "&"
  let lifetime ← optionalLifetime
  let mutability ← optionalWord "mut"
  return .word "&" :: lifetime ++ mutability ++ (← nested.type false).pieces

/-- Reads a type behind a pointer. -/
def pointer (nested : Nested) : Reader (List Piece) := do
  mark "*"
  let isConstant ← takesWord "const"
  if !isConstant then word "mut"
  let kind := if isConstant then "*const " else "*mut "
  return .word kind :: (← nested.type false).pieces

/-- Reads a type of several items. -/
def sequence (nested : Nested) : Reader (List Piece) := inside .bracket do
  let item ← nested.type true
  let length : List Piece ←
    if ← takesMark ";" then do pure (.word "; " :: (← nested.expression true).pieces)
    else pure []
  return .word "[" :: item.pieces ++ length ++ [.word "]"]

/-! ## Named types -/

/-- Reads a path as a type.  With a binder, or with bounds after it, it stands for
what has these bounds. -/
def named (nested : Nested) (plus : Bool) (binder : Option (List Piece)) : Reader TypeText := do
  if ← sees (.mark "<") then
    return { pieces := ← PathText.qualified nested .inType }
  let path ← PathText.noted nested .inType
  let pieces := path.pieces .inType
  if path.isSimple && (← sees Invocation.bang) then
    return { pieces := (← Invocation.rest pieces).pieces }
  let first := binder.getD [] ++ pieces
  if ← takesMark "+" plus then
    let rest ←
      if ← sees (Bound.mayStart false) then Bound.sum nested true {} else pure []
    return { pieces := traits ([Piece.word " + "].intercalate (first :: rest.map (·.pieces))) }
  if binder.isSome then
    return { pieces := traits first, bound := some ⟨[], first⟩ }
  return {
    pieces
    isSingle := path.isSingle
    isPath := true
    bound := some ⟨path.words, pieces⟩ }

/-- Reads bounds that are introduced as such. -/
def dynamic (nested : Nested) (plus : Bool) : Reader TypeText := do
  let start ← get
  word "dyn"
  let isStarred ← takesMark "*"
  let bounds ← bounds nested plus {}
  if isStarred then keepSince start
  return { pieces := traits (Bound.sumPieces bounds) }

/-- Whether a type may follow the binder in front of it. -/
def mayBeBound : Ahead := fun tokens =>
  Ahead.name tokens ||
    Ahead.oneOfWords ["fn", "unsafe", "extern", "super", "self", "Self", "crate"] tokens

/-- Reads a type. -/
def read (nested : Nested) (plus : Bool) : Reader TypeText := do
  let start ← get
  let binder ← Bound.binder nested
  if binder.isSome then guard (← sees mayBeBound)
  if ← sees (.oneOfWords ["fn", "unsafe", "extern"]) then
    return { pieces := binder.getD [] ++ (← function nested) }
  if (← sees Ahead.name) || binder.isSome ||
      (← sees (.or (.oneOfWords ["super", "self", "Self", "crate"]) (.marks ["::", "<"]))) then
    let type ← named nested plus binder
    if binder.isSome then
      let words := (← get).words.drop start.words.length
      return { type with bound := type.bound.map fun bound => ⟨words, bound.pieces⟩ }
    return type
  if ← sees (.group .parenthesis) then return ← grouped nested plus
  if ← sees (.group .bracket) then return { pieces := ← sequence nested }
  if ← sees (.mark "&") then return { pieces := ← reference nested }
  if ← sees (.mark "*") then return { pieces := ← pointer nested }
  if ← sees (.word "dyn") then return ← dynamic nested plus
  if ← takesWord "impl" then
    let bounds ← bounds nested plus { special := true, capture := true }
    return { pieces := .word "impl " :: Bound.sumPieces bounds }
  if ← takesWord "_" then return { pieces := [.word "_"] }
  if ← sees Ahead.lifetime then
    return { pieces := traits (Bound.sumPieces (← bounds nested true {})) }
  mark "!"
  return { pieces := [.word "!"] }

/-! ## Arguments -/

/-- Whether a constant comes next that may be an argument. -/
def startsConstant : Ahead := .or Ahead.literal (.group .brace)

/-- Reads a constant that is an argument. -/
def constant (nested : Nested) : Reader (List Piece) := do
  if ← sees Ahead.literal then return [.word (← literal)]
  return [(← nested.block).group]

/-- Reads the bounds of an associated name. -/
def constraint (nested : Nested) : Reader (List Piece) := do
  mark ":"
  let bounds ← Bound.list nested (.marks [",", ">"])
  return [.group level false (Bound.boundPieces (bounds.map BoundText.pieces))]

/-- Reads what is said about an associated name: what it stands for, or its
bounds. -/
def binding (nested : Nested) : Reader (List Piece) := do
  if ← takesMark "=" then
    if ← sees startsConstant then return .word " = " :: (← constant nested)
    return .word " = " :: (← nested.type true).pieces
  if ← sees (.mark ":") then constraint nested else return []

/-- Reads an argument, without noting it. -/
def pathArgument (nested : Nested) : Reader ParameterText := do
  if ← sees (.and Ahead.lifetime (.not (.after 1 (.mark "+")))) then
    let spelling ← spelled do return [.word (← lifetime)]
    return { spelling, isLifetime := true }
  let spelling ← spelled do
    if ← sees startsConstant then constant nested
    else
      let type ← nested.type true
      if type.isSingle then return type.pieces ++ (← binding nested) else return type.pieces
  return { spelling }

/-- Reads arguments with their brackets, without noting them. -/
def arguments (nested : Nested) : Reader Spelling := do
  silently (mark "<")
  let list ← separated (.mark ">") (pathArgument nested)
  silently (mark ">")
  let sorted := list.lifetimesFirst ParameterText.isLifetime
  return .angles (sorted.items.map ParameterText.spelling) sorted.trailing

end TypeExpression

end ProtoSchema
