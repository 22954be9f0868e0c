import ProtoSchema.Source.Attribute

/-!
# Reading paths and bounds

A path is made of names, which may be given arguments between angle brackets.  A
*bound* says what a type has to be: it names a trait or a lifetime.  The last
name of a trait may be given the arguments of a function and its result.

*Parameters* introduce lifetimes, types and constants by name.  Lifetimes come
first among them, whatever their order was.  A *condition* puts bounds on any
type.
-/

namespace ProtoSchema

open Layout (Piece level)

/-! ## Paths -/

namespace PathText

open Reader

/-- Reads a name in a path, and its arguments. -/
def part (nested : Nested) (place : PathPlace) : Reader PathPart := do
  let name ← anyName
  guard name.mayStandInPath
  if !name.raw && name.text != "Self" && Ident.placeWords.contains name.text then
    return .plain name
  let direct := Ahead.and (.mark "<") (.not (.mark "<="))
  if (← sees direct) && place = .inType then
    return { name, arguments := ← nested.arguments }
  if ← sees (.and (.mark "::") (.after 2 (.mark "<"))) then
    silently (mark "::")
    return { name, arguments := .flatWord "::" ++ (← nested.arguments) }
  return .plain name

/-- Reads the rest of a path. -/
def partsAfter (nested : Nested) (place : PathPlace) (stop : Ahead) : Nat → Reader (List PathPart)
  | 0 => failure
  | n + 1 => do
    if ← sees (.and (.mark "::") (.not (.after 2 stop))) then
      mark "::"
      let part ← part nested place
      return part :: (← partsAfter nested place stop n)
    return []

/-- Reads a path without noting its words. -/
def read (nested : Nested) (place : PathPlace) : Reader PathText := silently do
  let absolute ← takesMark "::"
  let first ← part nested place
  let rest ← bounded (partsAfter nested place (.group .parenthesis))
  return { absolute, parts := first :: rest }

/-- Reads a path. -/
def noted (nested : Nested) (place : PathPlace) : Reader PathText := do
  let path ← read nested place
  noteAll path.words
  return path

/-- Reads a path that starts at a type, which is put between angle brackets. -/
def qualified (nested : Nested) (place : PathPlace) : Reader (List Piece) := do
  mark "<"
  let type ← nested.type true
  let trait : List Piece ←
    if ← takesWord "as" then
      let path ← noted nested .inType
      pure (.word " as " :: path.pieces .inType)
    else pure []
  mark ">"
  mark "::"
  let path ← silently do
    let first ← part nested place
    let rest ← bounded (partsAfter nested place (fun _ => false))
    return { parts := first :: rest : PathText }
  noteAll path.words
  return .word "<" :: type.pieces ++ trait ++ .word ">" :: .word "::" :: path.pieces place

/-- Reads a path to a value.  Says whether something may be invoked by it. -/
def value (nested : Nested) : Reader (List Piece × Bool) := do
  if ← sees (.mark "<") then return (← qualified nested .inExpression, false)
  let path ← noted nested .inExpression
  return (path.pieces .inExpression, path.isSimple)

end PathText

/-! ## Functions -/

namespace Signature

open Reader

/-- Reads the result of a function, if there is one. -/
def result (nested : Nested) (plus : Bool) : Reader (List Piece) := do
  if ← takesMark "->" then return .word " -> " :: (← nested.type plus).pieces
  return []

/-- The pieces of the arguments of a function and its result, which are broken
together.  There is a gap even where there are no arguments. -/
def pieces (items : List (List Piece)) (result : List Piece) : List Piece :=
  let inside :=
    match items with
    | [] => [.gap { shift := -level }]
    | items => .gap {} :: Layout.items items
  [.group level true (.word "(" :: inside ++ .word ")" :: result)]

/-- Reads the arguments of a function in parentheses, and its result. -/
def read (nested : Nested) : Reader (List Piece) := do
  let items ← inside .parenthesis (list (nested.type true))
  return pieces (items.map TypeText.pieces) (← result nested false)

end Signature

/-! ## Parameters -/

/-- Brings what is about lifetimes to the front.  The comma at the end stays with
what it follows. -/
def Reader.Punctuated.lifetimesFirst {α : Type} (isLifetime : α → Bool)
    (list : Reader.Punctuated α) : Reader.Punctuated α :=
  let (lifetimes, others) := list.items.partition isLifetime
  let moved := !others.isEmpty && list.items.getLast?.any isLifetime
  { items := lifetimes ++ others, trailing := list.trailing || moved }

/-- Whether parameters come next, and not a path that starts at a type. -/
def Parameters.mayStart : Ahead := fun tokens =>
  let ends : Ahead := .or (.marks [">", ",", "="]) Ahead.colon
  Ahead.mark "<" tokens &&
    (Ahead.after 1 (.or (.marks [">", "#"]) (.word "const")) tokens ||
      (Ahead.after 1 (.or Ahead.lifetime Ahead.name) tokens && Ahead.after 2 ends tokens))

/-- A parameter. -/
structure ParameterText where
  /-- How it is written. -/
  spelling : Spelling
  /-- Whether it is a lifetime. -/
  isLifetime : Bool := false
deriving Inhabited

namespace Bound

open Reader

/-- Reads the names that are captured. -/
def capture : Reader (List Piece) := do
  word "use"
  mark "<"
  let names ← separated (.mark ">") do
    if ← sees Ahead.lifetime then lifetime
    else
      guard (← sees (.or Ahead.name (.word "Self")))
      return (← anyName).spelling
  mark ">"
  return Layout.bracketed "use<" ">" (names.items.map fun name => [.word name])

/-- Reads the bounds of a lifetime after the colon. -/
def lifetimeBounds (stop : Ahead) : Nat → Reader (List String)
  | 0 => failure
  | n + 1 => do
    if ← sees stop then return []
    let first ← lifetime
    if ← takesMark "+" then return first :: (← lifetimeBounds stop n)
    return [first]

/-- What ends the bounds of a parameter. -/
def endsParameter : Ahead :=
  .or Ahead.nothing (.marks [",", ">"])

/-- Reads a constant that needs no braces to be an argument. -/
def defaultConstant (nested : Nested) : Reader (List Piece) := do
  if ← sees Ahead.literal then return [.word (← literal)]
  if ← sees Ahead.name then return [.word (← name).spelling]
  return [(← nested.block).group]

/-- The bounds of a parameter, each after the first one in a line of its own if
they do not fit. -/
def boundPieces (bounds : List (List Piece)) : List Piece :=
  match bounds with
  | [] => []
  | bounds => .word ": " :: [.gap { blanks := 1 }, .word "+ "].intercalate bounds

/-- Reads a parameter that is a lifetime. -/
def lifetimeParameter : Reader (List Piece) := do
  let name ← lifetime
  if ← sees Ahead.colon then
    let (bounds, words) ← captured do
      mark ":"
      bounded (lifetimeBounds endsParameter)
    if !bounds.isEmpty then
      noteAll words
      return [.word (name ++ ": " ++ " + ".intercalate bounds)]
  return [.word name]

/-- Reads a parameter that is a constant. -/
def constantParameter (nested : Nested) : Reader (List Piece) := do
  word "const"
  let name ← name
  mark ":"
  let type ← nested.type true
  let default : List Piece ←
    if ← takesMark "=" then do pure (.word " = " :: (← defaultConstant nested)) else pure []
  return .word ("const " ++ name.spelling ++ ": ") :: type.pieces ++ default

/-- Reads bounds with a plus between them until something comes next. -/
def listUpTo (nested : Nested) (stop : Ahead) : Nat → Reader (List BoundText)
  | 0 => failure
  | n + 1 => do
    if ← sees stop then return []
    let first ← nested.bound { special := true }
    if ← takesMark "+" then return first :: (← listUpTo nested stop n)
    return [first]

/-- Reads bounds with a plus between them until something comes next. -/
def list (nested : Nested) (stop : Ahead) : Reader (List BoundText) :=
  bounded (listUpTo nested stop)

/-- Reads a colon and the bounds after it, if there are any. -/
def optionalList (nested : Nested) (stop : Ahead) : Reader (List (List Piece)) := do
  if ← sees (.mark ":") then
    let (bounds, words) ← captured do
      mark ":"
      list nested stop
    if !bounds.isEmpty then noteAll words
    return bounds.map BoundText.pieces
  return []

/-- Reads a parameter that is a type. -/
def typeParameter (nested : Nested) : Reader (List Piece) := do
  let name ← name
  let bounds ← optionalList nested (.or endsParameter (.mark "="))
  let default : List Piece ←
    if ← takesMark "=" then do
      pure (.gap { blanks := 1 } :: .word "= " :: (← nested.type true).pieces)
    else pure []
  return [.word name.spelling,
    .group level false (boundPieces bounds ++ default)]

/-- Reads a parameter, without noting it.  It may have no name in certain
places. -/
def parameter (nested : Nested) (unnamed : Bool) : Reader ParameterText := do
  let isLifetime ← sees fun tokens =>
    Ahead.lifetime (tokens.dropWhile fun token =>
      match token with
      | .mark '#' _ => true
      | .group .bracket _ => true
      | _ => false)
  let spelling ← spelled do
    let attributes ← Attribute.outer nested
    let pieces ←
      if ← sees Ahead.lifetime then lifetimeParameter
      else if ← sees (.word "const") then constantParameter nested
      else if ← takesWord "_" unnamed then pure [.word "_"]
      else typeParameter nested
    return attributes ++ pieces
  return { spelling, isLifetime }

/-- Reads the parameters that hold for what follows, if there are any. -/
def binder (nested : Nested) : Reader (Option (List Piece)) := do
  if ← takesWord "for" then
    mark "<"
    let list ← separated (.mark ">") (parameter nested false)
    noteAll (Flat.listed (list.items.map fun item => item.spelling.words) list.trailing)
    mark ">"
    let items := list.items.map fun item => item.spelling.pieces
    return some (.word "for<" :: [Piece.word ", "].intercalate items ++ [.word "> "])
  return none

/-! ## Bounds -/

/-- Reads the arguments of a function after the path of a trait, if there are
any.  They replace empty arguments, and two colons in front of them mean
nothing. -/
def trait (nested : Nested) : Reader (List Piece) := do
  let path ← PathText.read nested .inType
  let direct := Ahead.group .parenthesis
  let isCalled ← sees (.or direct (.and (.mark "::") (.after 2 direct)))
  if path.endsBare && isCalled then
    noteAll (path.withLast {}).words
    let _ ← silently (takesMark "::")
    return (path.withLast {}).pieces .inType ++ (← Signature.read nested)
  noteAll path.words
  return path.pieces .inType

/-- Reads what makes a trait special, if anything does. -/
def speciality : Reader Bool := do
  if ← sees (.group .bracket) then
    inside .bracket (word "const")
    return true
  takesWord "const"

/-- Reads the name of a trait as a bound.  Says whether it is special. -/
def bareTrait (nested : Nested) (special : Bool) : Reader (List Piece × Bool) := do
  let binder ← binder nested
  let isSpecial ← speciality
  guard (special || !isSpecial)
  let maybe ← takesMark "?"
  guard (!(maybe && binder.isSome))
  let trait ← trait nested
  return (binder.getD [] ++ (if maybe then [.word "?"] else []) ++ trait, isSpecial)

/-- Reads a trait as a bound, which may be put in parentheses. -/
def traitBound (nested : Nested) (special : Bool) : Reader BoundText := do
  let start ← get
  let isEnclosed ← sees (.group .parenthesis)
  let bare := do
    let (found, words) ← captured (bareTrait nested special)
    noteAll words
    return (found, words)
  let ((pieces, isSpecial), words) ← if isEnclosed then inside .parenthesis bare else bare
  if isSpecial then
    keepSince start
    return { pieces := [], kind := .special }
  return {
    pieces := if isEnclosed then .word "(" :: pieces ++ [.word ")"] else pieces
    kind := .trait
    bare := ⟨words, pieces⟩ }

/-- Reads a bound. -/
def read (nested : Nested) (place : BoundPlace) : Reader BoundText := do
  if ← sees Ahead.lifetime then return { pieces := [.word (← lifetime)], kind := .lifetime }
  if ← sees (.word "use") then
    guard place.capture
    return { pieces := ← capture, kind := .capture }
  traitBound nested place.special

/-- Whether a bound may come next. -/
def mayStart (special : Bool) : Ahead := fun tokens =>
  Ahead.anyName tokens || Ahead.marks ["::", "?"] tokens || Ahead.lifetime tokens ||
    Ahead.group .parenthesis tokens || (special && Ahead.group .bracket tokens)

/-- Reads bounds with a plus between them.  One may follow the last one. -/
def sumUpTo (nested : Nested) (plus : Bool) (place : BoundPlace) : Nat → Reader (List BoundText)
  | 0 => failure
  | n + 1 => do
    let first ← read nested place
    if ← takesMark "+" plus then
      if ← sees (mayStart place.special) then
        return first :: (← sumUpTo nested plus place n)
    return [first]

/-- Reads bounds with a plus between them.  One may follow the last one. -/
def sum (nested : Nested) (plus : Bool) (place : BoundPlace) : Reader (List BoundText) :=
  bounded (sumUpTo nested plus place)

/-- The pieces of bounds. -/
def sumPieces (bounds : List BoundText) : List Piece :=
  [Piece.word " + "].intercalate (bounds.map BoundText.pieces)

end Bound

end ProtoSchema
