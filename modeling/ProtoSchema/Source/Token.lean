import ProtoSchema.Source.Ident

/-!
# Tokens

Source text is made of tokens: names, lifetimes, marks, literals, and groups of
further tokens in brackets.  A mark is a single character.  It is *joint* when
another mark follows it without a blank, so that several of them may be one
operator.

`Token.join` writes tokens on one line as they are.  A blank stands between two
tokens, but not after a joint mark.  Round and square brackets stand close to
what is inside of them, while braces keep a blank on either side.
-/

namespace ProtoSchema

/-- The brackets around a group. -/
inductive Delimiter where
  | parenthesis
  | bracket
  | brace
deriving DecidableEq, Repr, Inhabited

namespace Delimiter

/-- The opening bracket. -/
def opening : Delimiter → String
  | parenthesis => "("
  | bracket => "["
  | brace => "\x7b"

/-- The closing bracket. -/
def closing : Delimiter → String
  | parenthesis => ")"
  | bracket => "]"
  | brace => "\x7d"

/-- Text in brackets, on one line. -/
def enclose (delimiter : Delimiter) (text : String) : String :=
  match delimiter with
  | brace => if text.isEmpty then "\x7b \x7d" else "\x7b " ++ text ++ " \x7d"
  | delimiter => delimiter.opening ++ text ++ delimiter.closing

/-- The brackets that open with a character. -/
def ofOpening? : Char → Option Delimiter
  | '(' => some parenthesis
  | '[' => some bracket
  | '\x7b' => some brace
  | _ => none

/-- The brackets that close with a character. -/
def ofClosing? : Char → Option Delimiter
  | ')' => some parenthesis
  | ']' => some bracket
  | '\x7d' => some brace
  | _ => none

end Delimiter

/-- A piece of source text. -/
inductive Token where
  | name (ident : Ident)
  /-- A name with a single quote in front. -/
  | lifetime (ident : Ident)
  /-- A mark, and whether another one follows it at once. -/
  | mark (char : Char) (joint : Bool)
  /-- A number, a character or text, as it is written. -/
  | literal (text : String)
  | group (delimiter : Delimiter) (inside : List Token)
deriving Repr, Inhabited

namespace Token

/-- Whether the next token follows without a blank. -/
def isJoint : Token → Bool
  | mark _ joint => joint
  | _ => false

/-- A lifetime as it is written. -/
def lifetimeText (ident : Ident) : String := "'" ++ ident.spelling

mutual

/-- A token as it is written on one line. -/
def text : Token → String
  | name ident => ident.spelling
  | lifetime ident => lifetimeText ident
  | mark char _ => String.singleton char
  | literal text => text
  | group delimiter inside => delimiter.enclose (join inside)
termination_by structural token => token

/-- Tokens as they are written on one line. -/
def join : List Token → String
  | [] => ""
  | [last] => last.text
  | first :: rest => first.text ++ (if first.isJoint then "" else " ") ++ join rest
termination_by structural tokens => tokens

end

mutual

/-- How many tokens a token is made of. -/
def size : Token → Nat
  | group _ inside => 1 + sizes inside
  | _ => 1
termination_by structural token => token

/-- How many tokens there are, those in groups among them. -/
def sizes : List Token → Nat
  | [] => 0
  | first :: rest => first.size + sizes rest
termination_by structural tokens => tokens

end

end Token

end ProtoSchema
