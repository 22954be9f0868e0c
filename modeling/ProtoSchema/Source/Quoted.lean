import ProtoSchema.Text.Visible

/-!
# Quoted text

Text is quoted between two double quotes.  Inside, a backslash starts an escape.
A tab, a carriage return, a newline, a double quote and a backslash have escapes
of their own, and so has the character zero, which is written in another way
when an octal digit follows.  Any other character that does not show by itself
is written by its number.
-/

namespace ProtoSchema.Quoted

/-- A number in hexadecimal, in lower case. -/
def hexadecimal (n : Nat) : List Char := Nat.toDigits 16 n

/-- Whether a character is an octal digit. -/
def isOctal (c : Char) : Bool := '0' ≤ c && c ≤ '7'

/-- A character as it is written between quotes, before the character `next`. -/
def encodeChar (c : Char) (next : Option Char) : List Char :=
  if c = '\x00' then (if next.any isOctal then ['\\', 'x', '0', '0'] else ['\\', '0'])
  else if c = '\t' then ['\\', 't']
  else if c = '\r' then ['\\', 'r']
  else if c = '\n' then ['\\', 'n']
  else if c = '"' ∨ c = '\\' then ['\\', c]
  else if Visible.isVisible c then [c]
  else ['\\', 'u', '\x7b'] ++ hexadecimal c.toNat ++ ['\x7d']

/-- Text as it is written between quotes. -/
def encodeChars : List Char → List Char
  | [] => []
  | c :: rest => encodeChar c rest.head? ++ encodeChars rest

/-- Text in quotes. -/
def encode (text : String) : String :=
  String.ofList ('"' :: (encodeChars text.toList ++ ['"']))

end ProtoSchema.Quoted
