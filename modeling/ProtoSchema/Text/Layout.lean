/-!
# Layout of lines

Text is laid out from *pieces*.  A piece is a word, a *gap* between words, or a
*group* of pieces that belong together.  A gap is written as blanks, or a new
line is begun there, which *breaks* the gap.

A group is broken when it does not fit into the rest of the line.  What has to
fit is the group together with the words after it up to the next gap outside.
In a group that is not broken no gap breaks.  In a broken group that is
*consistent* every gap breaks, and in another one a gap breaks when the words up
to the next gap do not fit.

A line holds 89 columns.  A line that starts far to the right may hold 60
columns of its own.  Width is counted in bytes.
-/

namespace ProtoSchema.Layout

/-- The place between two words. -/
structure Gap where
  /-- The blanks that are written when the gap does not break. -/
  blanks : Nat := 0
  /-- How far the new line is moved against the indentation of the group. -/
  shift : Int := 0
  /-- What is written at the end of the line when the gap breaks. -/
  atEnd : Option Char := none
  /-- What is written at the start of the new line when the gap breaks. -/
  atStart : String := ""
  /-- What is written when the gap does not break. -/
  joined : Option Char := none
  /-- Whether the gap never breaks. -/
  fixed : Bool := false
deriving Repr

/-- A part of a text to be laid out. -/
inductive Piece where
  | word (text : String)
  | gap (gap : Gap)
  /-- Pieces that belong together, and how far they are indented. -/
  | group (indent : Int) (consistent : Bool) (pieces : List Piece)
deriving Repr

instance : Inhabited Piece := ⟨.word ""⟩

/-- More columns than any line has. -/
def endless : Nat := 0xffff

/-- A gap that always breaks, inside groups that are then broken as well. -/
def newline (shift : Int) : Piece := .gap { blanks := endless, shift }

/-! ## Widths -/

mutual

/-- The columns that a piece takes when none of its gaps breaks. -/
def Piece.width : Piece → Nat
  | .word text => text.utf8ByteSize
  | .gap gap => gap.blanks
  | .group _ _ pieces => widths pieces
termination_by structural piece => piece

/-- The columns that several pieces take. -/
def widths : List Piece → Nat
  | [] => 0
  | piece :: rest => piece.width + widths rest
termination_by structural pieces => pieces

end

/-- The columns up to the next gap outside of groups.  When there is none,
`after` more follow. -/
def reach (after : Nat) : List Piece → Nat
  | [] => after
  | .gap _ :: _ => 0
  | piece :: rest => piece.width + reach after rest

/-! ## Writing -/

/-- The columns of a line. -/
def lineWidth : Int := 89

/-- The columns that a line has at least after its indentation. -/
def leastWidth : Int := 60

/-- What is written so far. -/
structure Page where
  /-- The text. -/
  text : String := ""
  /-- The blanks that come before the next word. -/
  pending : Nat := 0
  /-- The columns that are left on the line. -/
  space : Int := lineWidth

/-- How the gaps of a group are treated. -/
structure Frame where
  /-- The indentation of new lines. -/
  indent : Int := 0
  /-- Whether the group is broken. -/
  broken : Bool := true
  /-- Whether the group is consistent. -/
  consistent : Bool := true

namespace Page

/-- Writes a word. -/
def word (page : Page) (text : String) : Page where
  text := page.text.pushn ' ' page.pending ++ text
  space := page.space - text.utf8ByteSize

/-- Writes a character, if there is one. -/
def mark (page : Page) (c : Option Char) : Page :=
  match c with
  | some c => page.word (String.singleton c)
  | none => page

/-- Writes what a new line starts with, if there is anything. -/
def start (page : Page) (text : String) : Page := if text.isEmpty then page else page.word text

/-- Begins a new line. -/
def feed (page : Page) (indent : Int) : Page where
  text := page.text.push '\n'
  pending := indent.toNat
  space := max (lineWidth - indent) leastWidth

/-- Writes a gap.  The words up to the next gap take `width` columns. -/
def gap (page : Page) (frame : Frame) (gap : Gap) (width : Nat) : Page :=
  let breaks :=
    !gap.fixed && frame.broken && (frame.consistent || page.space < gap.blanks + width)
  if breaks then ((page.mark gap.atEnd).feed (frame.indent + gap.shift)).start gap.atStart
  else
    { page with
      pending := page.pending + gap.blanks
      space := page.space - gap.blanks }.mark gap.joined

end Page

/-- How the gaps of a group are treated when the group takes `width` columns. -/
def Frame.inner (frame : Frame) (page : Page) (indent : Int) (consistent : Bool) (width : Nat) :
    Frame :=
  if page.space < width then { indent := frame.indent + indent, consistent }
  else { frame with broken := false }

mutual

/-- Writes a piece.  The words after it up to the next gap take `after`
columns. -/
def Piece.write (frame : Frame) (after : Nat) : Piece → Page → Page
  | .word text, page => page.word text
  | .gap gap, page => page.gap frame gap after
  | .group indent consistent pieces, page =>
    writeAll (frame.inner page indent consistent (widths pieces + after)) after pieces page
termination_by structural piece => piece

/-- Writes several pieces. -/
def writeAll (frame : Frame) (after : Nat) : List Piece → Page → Page
  | [], page => page
  | piece :: rest, page =>
    writeAll frame after rest (piece.write frame (reach after rest) page)
termination_by structural pieces => pieces

end

/-- The text of lines, each of which ends with a line feed. -/
def render (lines : List (List Piece)) : String :=
  (writeAll {} 0 (lines.flatMap fun line => line ++ [newline 0]) {}).text

/-! ## Common shapes -/

/-- The columns of one level of indentation. -/
def level : Int := 4

/-- The lines of a body, one under the other.  The last line feed takes back the
indentation. -/
def body : List (List Piece) → List Piece
  | [] => []
  | [line] => line ++ [newline (-level)]
  | line :: rest => line ++ newline 0 :: body rest

/-- A header with a body in braces. -/
def block (header : List Piece) (lines : List (List Piece)) : List Piece :=
  match lines with
  | [] => header ++ [.word "\x7b\x7d"]
  | lines =>
    [.group level true (header ++ .word "\x7b" :: newline 0 :: body lines), .word "\x7d"]

/-- Items between commas.  When they are broken over lines, a comma follows the
last one too. -/
def items : List (List Piece) → List Piece
  | [] => []
  | [item] => item ++ [.gap { atEnd := some ',', shift := -level }]
  | item :: rest => item ++ .word "," :: .gap { blanks := 1 } :: items rest

/-- Items in brackets, each on a line of its own when they do not fit. -/
def enclosed (opening closing : String) (list : List (List Piece)) : List Piece :=
  [.word opening, .group level true (.gap {} :: items list), .word closing]

/-- Items in brackets, of which there may be none.  Then there is no gap. -/
def bracketed (opening closing : String) (list : List (List Piece)) : List Piece :=
  if list.isEmpty then [.word opening, .word closing] else enclosed opening closing list

/-- Moves the line after the last piece, which is a gap. -/
def shiftLast (amount : Int) (pieces : List Piece) : List Piece :=
  match pieces.getLast? with
  | some (.gap gap) => pieces.dropLast ++ [.gap { gap with shift := gap.shift + amount }]
  | _ => pieces

/-- What stands in braces on lines of its own.  It ends in a gap, after which the
indentation is taken back. -/
def hanging (pieces : List Piece) : List Piece :=
  if pieces.isEmpty then [] else newline 0 :: shiftLast (-level) pieces

/-- What stands in braces on lines of its own, as a group. -/
def hangingGroup (pieces : List Piece) : List Piece :=
  if pieces.isEmpty then [] else [.group level true (hanging pieces)]

end ProtoSchema.Layout
