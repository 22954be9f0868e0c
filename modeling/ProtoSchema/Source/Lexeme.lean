import ProtoSchema.Source.Blanks
import ProtoSchema.Source.Literal
import ProtoSchema.Source.Quoted
import ProtoSchema.Source.Token

/-!
# Cutting text into tokens

`Token.ofText?` cuts text into tokens.  It first reads one lexeme after the
other, among which every bracket counts for itself, and then puts what stands
between two brackets into a group.  Text has no tokens when its brackets do not
match, or when something in it is no lexeme.

A comment that documents something stands for the attribute that does so.
-/

namespace ProtoSchema

/-- What is read at once: tokens that are no open group, or one bracket. -/
inductive Lexeme where
  | leaves (list : List Token)
  | opens (delimiter : Delimiter)
  | closes (delimiter : Delimiter)
deriving Repr, Inhabited

namespace Lexeme

/-! ## Comments that document -/

/-- Whether every carriage return stands before a line feed. -/
def hasWholeLines : List Char → Bool
  | '\r' :: '\n' :: rest => hasWholeLines rest
  | '\r' :: _ => false
  | _ :: rest => hasWholeLines rest
  | [] => true

/-- The attribute that a comment stands for.  It is about what is around the
comment, or else about what follows it. -/
def documentation (around : Bool) (comment : List Char) : List Token :=
  .mark '#' false :: (if around then [.mark '!' false] else []) ++
    [.group .bracket
      [.name "doc", .mark '=' false, .literal (Quoted.encode (String.ofList comment))]]

/-- Splits text at the end of its first line.  The carriage return before the
line feed belongs to neither part. -/
def splitLine : List Char → List Char × List Char
  | [] => ([], [])
  | '\n' :: rest => ([], '\n' :: rest)
  | '\r' :: '\n' :: rest => ([], '\n' :: rest)
  | c :: rest => (c :: (splitLine rest).1, (splitLine rest).2)

/-- The comment in front of text, and what follows it. -/
def readDocumentation? (text : List Char) : Option (List Token × List Char) :=
  let found :=
    match text with
    | '/' :: '/' :: kind :: rest => some (kind, splitLine rest)
    | '/' :: '*' :: kind :: rest =>
      (Blanks.afterBlock 0 (kind :: rest)).map fun (after : List Char) =>
        (kind, rest.take (rest.length - after.length - 2), after)
    | _ => none
  found.bind fun (kind, comment, rest) =>
    if hasWholeLines comment then some (documentation (kind == '!') comment, rest) else none

/-! ## Single tokens -/

/-- Whether a character is a mark. -/
def isMark (c : Char) : Bool := "~!@#$%^&*-=+|;:,<.>/?".toList.contains c

/-- Whether text starts a comment. -/
def startsComment : List Char → Bool
  | '/' :: '/' :: _ => true
  | '/' :: '*' :: _ => true
  | _ => false

/-- Whether a mark in front of text is joint. -/
def isJointBefore (text : List Char) : Bool :=
  !startsComment text && text.head?.any fun c => isMark c || c == '\''

/-- What a name may not start with, since only a literal does. -/
def literalStarts : List String :=
  ["r\"", "r#\"", "r##", "b\"", "b'", "br\"", "br#", "c\"", "cr\"", "cr#"]

/-- The name in front of text, and what follows it. -/
def readName? (text : List Char) : Option (Ident × List Char) :=
  if literalStarts.any fun start => start.toList.isPrefixOf text then none else Ident.read? text

/-- The lifetime in front of text, of which the quote is left out, and what
follows it.  A quote or a number sign may not follow. -/
def readLifetime? (text : List Char) : Option (Ident × List Char) :=
  (Ident.read? text).filter fun (ident, rest) =>
    rest.head? != some '\'' && (ident.raw || rest.head? != some '#')

/-- The token in front of text, which is no bracket, and what follows it. -/
def readToken? (text : List Char) : Option (Token × List Char) :=
  match Literal.after? text with
  | some rest =>
    some (.literal (String.ofList (text.take (text.length - rest.length))), rest)
  | none =>
    match text with
    | '\'' :: rest => (readLifetime? rest).map fun (ident, rest) => (.lifetime ident, rest)
    | c :: rest =>
      if isMark c && !startsComment text then some (.mark c (isJointBefore rest), rest)
      else (readName? text).map fun (ident, rest) => (.name ident, rest)
    | [] => none

/-! ## Texts -/

/-- The lexeme in front of text without blanks in front, and what follows it. -/
def read? (text : List Char) : Option (Lexeme × List Char) :=
  match readDocumentation? text with
  | some (list, rest) => some (.leaves list, rest)
  | none =>
    match text with
    | [] => none
    | c :: rest =>
      match Delimiter.ofOpening? c with
      | some delimiter => some (.opens delimiter, rest)
      | none =>
        match Delimiter.ofClosing? c with
        | some delimiter => some (.closes delimiter, rest)
        | none => (readToken? text).map fun (token, rest) => (.leaves [token], rest)

/-- The lexemes of text. -/
def all? (text : List Char) : Option (List Lexeme) :=
  match Blanks.skip text with
  | [] => some []
  | start =>
    match read? start with
    | none => none
    | some (lexeme, rest) =>
      if _h : rest.length < text.length then (all? rest).map (lexeme :: ·) else none
termination_by text.length

end Lexeme

/-! ## Groups -/

/-- Tokens that are still to be put into groups. -/
structure OpenGroup where
  /-- The brackets that are open. -/
  delimiter : Delimiter
  /-- The tokens in front of them, the last one first. -/
  before : List Token

/-- Puts what stands between brackets into groups.  The tokens of the innermost
open group come with the last one first. -/
def Lexeme.assemble? : List OpenGroup → List Token → List Lexeme → Option (List Token)
  | [], tokens, [] => some tokens.reverse
  | _ :: _, _, [] => none
  | stack, tokens, .leaves list :: rest => assemble? stack (list.reverse ++ tokens) rest
  | stack, tokens, .opens delimiter :: rest => assemble? (⟨delimiter, tokens⟩ :: stack) [] rest
  | [], _, .closes _ :: _ => none
  | group :: stack, tokens, .closes delimiter :: rest =>
    if group.delimiter == delimiter then
      assemble? stack (.group delimiter tokens.reverse :: group.before) rest
    else none

/-- The tokens of text. -/
def Token.ofText? (text : String) : Option (List Token) :=
  (Lexeme.all? text.toList).bind (Lexeme.assemble? [] [])

end ProtoSchema
