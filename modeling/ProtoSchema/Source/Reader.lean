import ProtoSchema.Source.Literal
import ProtoSchema.Source.Spelling
import ProtoSchema.Source.Token

/-!
# Readers of source text

A `Reader` takes what it reads off the front of tokens, and fails when the
tokens do not start like that.  It keeps the words that it passes, since on one
line source is written as it was read but for a few things.  What a reader
returns is what is needed beyond that, such as the pieces in lines.

Some source has no rules by which it is laid out in lines.  A reader that meets
such source notes that.
-/

namespace ProtoSchema

open Layout (Piece)

/-- Where a reader stands. -/
structure Cursor where
  /-- The tokens that are left. -/
  rest : List Token
  /-- The words that were passed. -/
  words : List String := []
  /-- Whether everything that was passed can be laid out in lines. -/
  hasLines : Bool := true

/-- Takes something off the front of tokens. -/
abbrev Reader (α : Type) := StateT Cursor Option α

/-! ## Looking ahead -/

/-- A question about the tokens that come next. -/
abbrev Ahead := List Token → Bool

namespace Ahead

/-- What follows the characters of an operator.  All but the last of them are
joint. -/
def afterChars? : List Char → List Token → Option (List Token)
  | [], tokens => some tokens
  | [c], .mark d _ :: rest => if c == d then some rest else none
  | c :: more, .mark d true :: rest => if c == d then afterChars? more rest else none
  | _, _ => none

/-- Whether an operator comes next. -/
def mark (text : String) : Ahead := fun tokens => (afterChars? text.toList tokens).isSome

/-- Whether a certain word comes next. -/
def word (text : String) : Ahead
  | .name ident :: _ => ident == { text }
  | _ => false

/-- Whether a name comes next that is no reserved word. -/
def name : Ahead
  | .name ident :: _ => ident.isFree
  | _ => false

/-- Whether a name or a reserved word comes next. -/
def anyName : Ahead
  | .name _ :: _ => true
  | _ => false

/-- Whether a lifetime comes next. -/
def lifetime : Ahead
  | .lifetime _ :: _ => true
  | _ => false

/-- Whether a number with a sign comes next. -/
def negative : Ahead
  | .mark '-' _ :: .literal text :: _ => text.toList.head?.any Char.isDigit
  | _ => false

/-- Whether a literal comes next. -/
def literal : Ahead := fun tokens =>
  match tokens with
  | .literal _ :: _ => true
  | tokens => word "true" tokens || word "false" tokens || negative tokens

/-- Whether text between quotes comes next. -/
def textLiteral : Ahead
  | .literal text :: _ => text.toList.head?.any fun c => c == '"' || c == 'r'
  | _ => false

/-- Whether a whole number comes next that may be an index. -/
def index : Ahead
  | .literal text :: _ => (Literal.index? text).isSome
  | _ => false

/-- Whether something in certain brackets comes next. -/
def group (delimiter : Delimiter) : Ahead
  | .group other _ :: _ => other == delimiter
  | _ => false

/-- Whether nothing comes next. -/
def nothing : Ahead := List.isEmpty

/-- A question about the tokens after the next `n` ones. -/
def after (n : Nat) (ahead : Ahead) : Ahead := fun tokens => ahead (tokens.drop n)

/-- Whether one of two things comes next. -/
def or (first second : Ahead) : Ahead := fun tokens => first tokens || second tokens

/-- Whether two things hold of what comes next. -/
def and (first second : Ahead) : Ahead := fun tokens => first tokens && second tokens

/-- Whether something else comes next. -/
def not (ahead : Ahead) : Ahead := fun tokens => !ahead tokens

/-- Whether one of several operators comes next. -/
def marks (texts : List String) : Ahead := fun tokens => texts.any fun text => mark text tokens

/-- Whether one of several words comes next. -/
def oneOfWords (texts : List String) : Ahead := fun tokens =>
  texts.any fun text => word text tokens

/-- What follows words that may be left out. -/
def skipWords (words : List String) (tokens : List Token) : List Token :=
  words.foldl (fun tokens text => if word text tokens then tokens.drop 1 else tokens) tokens

/-- Whether a colon comes next that is not one of two. -/
def colon : Ahead := and (mark ":") (not (mark "::"))

end Ahead

namespace Reader

/-- Whether something comes next. -/
def sees (ahead : Ahead) : Reader Bool := do return ahead (← get).rest

/-! ## Single tokens -/

/-- Notes a word. -/
def note (text : String) : Reader Unit :=
  modify fun cursor => { cursor with words := cursor.words ++ [text] }

/-- Notes several words. -/
def noteAll (words : List String) : Reader Unit :=
  modify fun cursor => { cursor with words := cursor.words ++ words }

/-- Notes that what is read cannot be laid out in lines. -/
def withoutLines : Reader Unit := modify fun cursor => { cursor with hasLines := false }

/-- Reads an operator. -/
def mark (text : String) : Reader Unit := fun cursor =>
  (Ahead.afterChars? text.toList cursor.rest).map fun rest =>
    ((), { cursor with rest, words := cursor.words ++ [text] })

/-- Reads a name or a reserved word. -/
def anyName : Reader Ident := fun cursor =>
  match cursor.rest with
  | .name ident :: rest =>
    some (ident, { cursor with rest, words := cursor.words ++ [ident.spelling] })
  | _ => none

/-- Reads a name that is no reserved word. -/
def name : Reader Ident := do
  let ident ← anyName
  guard ident.isFree
  return ident

/-- Reads a certain word. -/
def word (text : String) : Reader Unit := do
  let ident ← anyName
  guard (ident == { text })

/-- Reads a lifetime. -/
def lifetime : Reader String := fun cursor =>
  match cursor.rest with
  | .lifetime ident :: rest =>
    let text := Token.lifetimeText ident
    some (text, { cursor with rest, words := cursor.words ++ [text] })
  | _ => none

/-- Reads a token that is a literal. -/
def literalToken : Reader String := fun cursor =>
  match cursor.rest with
  | .literal text :: rest => some (text, { cursor with rest, words := cursor.words ++ [text] })
  | _ => none

/-- Reads a literal: a token that is one, a truth value, or a number with its
sign. -/
def literal : Reader String := do
  if ← sees (.oneOfWords ["true", "false"]) then return (← anyName).text
  if ← sees Ahead.negative then
    mark "-"
    return "-" ++ (← literalToken)
  literalToken

/-- Reads a whole number, which is written in decimal. -/
def index : Reader String := fun cursor =>
  match cursor.rest with
  | .literal text :: rest =>
    (Literal.index? text).map fun n =>
      (toString n, { cursor with rest, words := cursor.words ++ [toString n] })
  | _ => none

/-! ## Optional tokens -/

/-- Whether an operator comes next that is allowed there.  If so, it is read. -/
def takesMark (text : String) (allowed : Bool := true) : Reader Bool := do
  let isNext ← sees (.mark text)
  if allowed && isNext then
    mark text
    return true
  return false

/-- Whether a certain word comes next that is allowed there.  If so, it is read. -/
def takesWord (text : String) (allowed : Bool := true) : Reader Bool := do
  let isNext ← sees (.word text)
  if allowed && isNext then
    word text
    return true
  return false

/-- Reads a word that may be left out.  In lines a blank follows it. -/
def optionalWord (text : String) : Reader (List Piece) := do
  return if ← takesWord text then [.word (text ++ " ")] else []

/-! ## Groups -/

/-- Reads what is in brackets, and all of it. -/
def inside {α : Type} (delimiter : Delimiter) (reader : Reader α) : Reader α := fun cursor =>
  match cursor.rest with
  | .group other tokens :: rest =>
    if other == delimiter then
      (reader.run { rest := tokens, hasLines := cursor.hasLines }).bind fun (a, after) =>
        if after.rest.isEmpty then
          some (a, {
            rest
            words := cursor.words ++ [delimiter.enclose (Flat.spaced after.words)]
            hasLines := after.hasLines })
        else none
    else none
  | _ => none

/-- Reads a group of any tokens. -/
def anyGroup : Reader (Delimiter × List Token) := fun cursor =>
  match cursor.rest with
  | .group delimiter tokens :: rest =>
    some ((delimiter, tokens),
      { cursor with rest, words := cursor.words ++ [(Token.group delimiter tokens).text] })
  | _ => none

/-! ## Words -/

/-- Reads something and says which words it has.  They are not noted. -/
def captured {α : Type} (reader : Reader α) : Reader (α × List String) := fun cursor =>
  (reader.run { cursor with words := [] }).map fun (a, after) =>
    ((a, after.words), { after with words := cursor.words })

/-- Notes what was read since a place as it is.  It cannot be laid out in
lines. -/
def keepSince (start : Cursor) : Reader Unit :=
  modify fun cursor =>
    let taken := start.rest.take (start.rest.length - cursor.rest.length)
    { cursor with words := start.words ++ [Token.join taken], hasLines := false }

/-- Reads something that is kept as it is.  It cannot be laid out in lines. -/
def verbatim {α : Type} (reader : Reader α) : Reader α := do
  let start ← get
  let result ← reader
  keepSince start
  return result

/-- Reads something without noting its words. -/
def silently {α : Type} (reader : Reader α) : Reader α := Prod.fst <$> captured reader

/-- Reads something and its words.  They are not noted. -/
def spelled (reader : Reader (List Piece)) : Reader Spelling := do
  let (pieces, words) ← captured reader
  return { words, pieces }

/-! ## Repetition -/

/-- Runs a reader that may repeat itself once for every token. -/
def bounded {α : Type} (reader : Nat → Reader α) : Reader α := fun cursor =>
  reader (cursor.rest.length + 1) cursor

/-- Reads the same thing over and over until something comes next. -/
def repeatUpTo {α : Type} (stop : Ahead) (reader : Reader α) : Nat → Reader (List α)
  | 0 => failure
  | n + 1 => do
    if ← sees stop then return []
    let first ← reader
    return first :: (← repeatUpTo stop reader n)

/-- Reads the same thing over and over until something comes next. -/
def repeated {α : Type} (stop : Ahead) (reader : Reader α) : Reader (List α) :=
  bounded (repeatUpTo stop reader)

/-- Items with an operator after each but perhaps the last one. -/
structure Punctuated (α : Type) where
  /-- The items. -/
  items : List α
  /-- Whether the operator follows the last item. -/
  trailing : Bool := false

/-- Reads items with an operator between them until something comes next. -/
def punctuatedUpTo {α : Type} (operator : String) (stop : Ahead) (item : Reader α) :
    Nat → Reader (Punctuated α)
  | 0 => failure
  | n + 1 => do
    if ← sees stop then return { items := [] }
    let first ← item
    if ← sees stop then return { items := [first] }
    mark operator
    let rest ← punctuatedUpTo operator stop item n
    return { items := first :: rest.items, trailing := rest.items.isEmpty || rest.trailing }

/-- Reads items with commas between them until something comes next. -/
def separated {α : Type} (stop : Ahead) (item : Reader α) : Reader (Punctuated α) :=
  bounded (punctuatedUpTo "," stop item)

/-- Reads items with commas between them, up to the end. -/
def list {α : Type} (item : Reader α) : Reader (List α) :=
  Punctuated.items <$> separated Ahead.nothing item

end Reader

end ProtoSchema
