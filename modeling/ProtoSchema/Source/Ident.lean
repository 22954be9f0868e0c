import ProtoSchema.Text.Identifier

/-!
# Identifiers of source text

The rendered source is Rust.  A name in it is an identifier, which may be
written *raw*, with `r#` in front, so that a reserved word can be used.  Five
words may not be written raw.

`Ident.ofText?` reads the text of a name.  It refuses text that is no
identifier.  A reserved word that is not raw passes here, since it is the place
of a name that decides whether it may stand there.  Text that may stand anywhere
is *legal* (`Ident.isLegal`).  `Ident.read?` reads a name off the front of longer
text.
-/

namespace ProtoSchema

/-- A name in source text. -/
structure Ident where
  /-- Whether it is written raw. -/
  raw : Bool := false
  /-- The name. -/
  text : String
deriving DecidableEq, Repr, Inhabited

namespace Ident

/-- The words with a meaning of their own. -/
def reservedWords : List String :=
  ["as", "break", "const", "continue", "crate", "else", "enum", "extern", "false", "fn", "for",
    "if", "impl", "in", "let", "loop", "match", "mod", "move", "mut", "pub", "ref", "return",
    "self", "Self", "static", "struct", "super", "trait", "true", "type", "unsafe", "use", "where",
    "while", "async", "await", "dyn", "abstract", "become", "box", "do", "final", "macro",
    "override", "priv", "typeof", "unsized", "virtual", "yield", "try"]

/-- The reserved words that may not be written raw. -/
def neverRaw : List String := ["self", "Self", "super", "crate"]

/-- Whether a name may be written raw. -/
def mayBeRaw (text : String) : Bool := !neverRaw.contains text && text != "_"

/-- Reads a name, with or without `r#` in front. -/
def ofText? (text : String) : Option Ident :=
  match text.toList with
  | 'r' :: '#' :: rest =>
    let name := String.ofList rest
    if Identifier.isIdentifier rest && mayBeRaw name then some ⟨true, name⟩ else none
  | chars => if Identifier.isIdentifier chars then some ⟨false, text⟩ else none

/-- A name as it is written. -/
def spelling (ident : Ident) : String := if ident.raw then "r#" ++ ident.text else ident.text

/-- A name as a word of its own. -/
instance : Coe String Ident := ⟨fun text => { text }⟩

/-! ## Names in front of text -/

/-- The characters of the longest name in front of text, and what follows. -/
def readText? (text : List Char) : Option (String × List Char) :=
  let name := text.takeWhile Identifier.isContinue
  if Identifier.isIdentifier name then
    some (String.ofList name, text.dropWhile Identifier.isContinue)
  else none

/-- The name in front of text, which may be raw, and what follows. -/
def read? (text : List Char) : Option (Ident × List Char) :=
  match text with
  | 'r' :: '#' :: rest =>
    (readText? rest).bind fun (name, rest) =>
      if mayBeRaw name then some (⟨true, name⟩, rest) else none
  | text => (readText? text).map fun (name, rest) => (⟨false, name⟩, rest)

/-- Whether a name is no reserved word, or is raw. -/
def isFree (ident : Ident) : Bool :=
  ident.raw || (!reservedWords.contains ident.text && ident.text != "_")

/-- Whether text is a name that is raw or no reserved word. -/
def isLegal (text : String) : Bool := (ofText? text).any isFree

/-- The reserved words that may stand in a path without being raw. -/
def placeWords : List String := ["super", "self", "Self", "crate", "try"]

/-- Whether a name may stand in a path. -/
def mayStandInPath (ident : Ident) : Bool :=
  placeWords.contains ident.text || ident.isFree

end Ident

end ProtoSchema
