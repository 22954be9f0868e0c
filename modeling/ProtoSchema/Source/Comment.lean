import ProtoSchema.Source.Literal
import ProtoSchema.Text.Layout
import ProtoSchema.Text.Split

/-!
# Comments in lines

An attribute that holds documenting text is laid out as a comment, unless the
text does not go into one.  Text on one line follows three slashes, and text on
several lines stands between stars.  What stands between stars must not end the
comment early.
-/

namespace ProtoSchema

open Layout (Piece)

namespace Literal

/-! ## The text of a literal -/

/-- The character that an escape stands for, of which the backslash is left out,
and what follows it. -/
def escaped : List Char → Option (Char × List Char)
  | 'x' :: a :: b :: rest => some (Char.ofNat (digitValue a * 16 + digitValue b), rest)
  | 'u' :: '\x7b' :: rest =>
    some (Char.ofNat (hexadecimalValue (rest.takeWhile isPointPart)),
      (rest.dropWhile isPointPart).drop 1)
  | 'n' :: rest => some ('\n', rest)
  | 'r' :: rest => some ('\r', rest)
  | 't' :: rest => some ('\t', rest)
  | '0' :: rest => some ('\x00', rest)
  | c :: rest => some (c, rest)
  | [] => none

/-- The characters between quotes, up to the closing one.  `n` bounds how many
there are. -/
def unescape : Nat → List Char → List Char
  | 0, _ => []
  | n + 1, text =>
    match text with
    | [] => []
    | '"' :: _ => []
    | '\r' :: '\n' :: rest => '\n' :: unescape n rest
    | '\\' :: '\n' :: rest => unescape n (rest.dropWhile isMargin)
    | '\\' :: rest =>
      match escaped rest with
      | some (c, rest) => c :: unescape n rest
      | none => []
    | c :: rest => c :: unescape n rest

/-- The characters of raw text, up to a quote with `marks` number signs. -/
def unmark (marks : Nat) : List Char → List Char
  | [] => []
  | '\r' :: '\n' :: rest => '\n' :: unmark marks rest
  | c :: rest =>
    if c == '"' && (List.replicate marks '#').isPrefixOf rest then [] else c :: unmark marks rest

/-- The text that a literal stands for, if it stands for text. -/
def text? (literal : String) : Option (List Char) :=
  match literal.toList with
  | '"' :: rest => some (unescape rest.length rest)
  | 'r' :: rest =>
    let marks := (rest.takeWhile fun c => c == '#').length
    some (unmark marks (rest.drop (marks + 1)))
  | _ => none

end Literal

namespace Comment

/-- Whether text may stand between stars, inside of which `depth` comments are
open. -/
def closesAll (depth : Nat) : List Char → Bool
  | '/' :: '*' :: rest => closesAll (depth + 1) rest
  | '*' :: '/' :: rest =>
    match depth with
    | 0 => false
    | depth + 1 => closesAll depth rest
  | _ :: rest => closesAll depth rest
  | [] => depth == 0

/-- Whether text may stand between stars. -/
def isBlock (text : List Char) : Bool := closesAll 0 text && text.getLast? != some '/'

/-- Text without the spaces at its end. -/
def trimEnd (text : List Char) : List Char :=
  (text.reverse.dropWhile fun c => c == ' ').reverse

/-- Text without the spaces at the ends of its lines, but for the last one. -/
def trimLines (text : List Char) : List Char :=
  let lines := Text.split '\n' text
  ['\n'].intercalate (lines.dropLast.map trimEnd ++ lines.getLast?.toList)

/-- A comment and the end of its line. -/
def pieces (start : String) (text : List Char) (stop : String) : List Piece :=
  [.word (start ++ String.ofList text ++ stop), Layout.newline 0]

/-- The comment that documents what is around it, or else what follows it. -/
def documentation? (around : Bool) (text : List Char) : Option (List Piece) :=
  if !text.contains '\n' && (around || text.head? != some '/') then
    some (pieces (if around then "//!" else "///") (trimEnd text) "")
  else if isBlock text && (around || (text.head? != some '/' && text.head? != some '*')) then
    some (pieces (if around then "/*!" else "/**") (trimLines text) "*/")
  else none

/-- The comment that documents nothing. -/
def plain? (text : List Char) : Option (List Piece) :=
  if !text.contains '\n' then some (pieces "//" (trimEnd text) "")
  else if isBlock text && text.head? != some '*' && text.head? != some '!' then
    some (pieces "/*" (trimLines text) "*/")
  else none

end Comment

end ProtoSchema
