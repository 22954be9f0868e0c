import ProtoSchema.Number.Integer
import ProtoSchema.Number.Binary

/-!
# Decimal fractions

The text of a fraction is an optional sign, digits with at most one point among
them, and an optional exponent after `e` or `E`.  At least one digit must stand
before the exponent, and at least one in it.  The words `inf`, `infinity` and
`nan`, in any mix of letter cases, stand for the numbers they name.

The number that is read is the one of the format nearest to the exact value of
the text.  An exponent of any size is allowed.  `Binary.ofDecimal` answers
without raising ten to a large power where the value is far outside every
format: `decimalBound` is larger than any exponent that matters.
-/

namespace ProtoSchema

namespace Binary

variable {format : BinaryFormat}

/-- A power of ten beyond the reach of every format, in both directions. -/
def decimalBound : Int := 400

/-- The number nearest to `coefficient * 10 ^ exponent`, where `digits` is at
least the number of digits of the coefficient. -/
def ofDecimal (negative : Bool) (coefficient : Nat) (digits : Nat) (exponent : Int) :
    Binary format :=
  if coefficient = 0 then signed negative 0
  else if decimalBound + digits < exponent then infinity negative
  else if exponent + digits < -decimalBound then signed negative 0
  else if exponent < 0 then ofRatio negative coefficient (Nat.pow 10 exponent.natAbs)
  else ofRatio negative (coefficient * Nat.pow 10 exponent.natAbs) 1

/-- The exponent written after the digits: nothing, or `e` and a number. -/
def exponent? : List Char → Option Int
  | [] => some 0
  | 'e' :: rest | 'E' :: rest => Decimal.signed? rest
  | _ => none

/-- Digits with at most one point, and an exponent. -/
def ofDigits? (negative : Bool) (text : List Char) : Option (Binary format) :=
  let (whole, rest) := text.span Char.isDigit
  let (places, rest) :=
    match rest with
    | '.' :: rest => rest.span Char.isDigit
    | _ => ([], rest)
  let digits := whole ++ places
  if digits.isEmpty then none
  else
    (exponent? rest).map fun exponent =>
      ofDecimal negative (Decimal.value digits) digits.length (exponent - places.length)

/-- A fraction without its sign. -/
def ofUnsigned? (negative : Bool) (text : List Char) : Option (Binary format) :=
  match String.ofList (text.map Char.toLower) with
  | "inf" | "infinity" => some (infinity negative)
  | "nan" => some (nan negative)
  | _ => ofDigits? negative text

/-- Reads a fraction. -/
def ofText? (text : String) : Option (Binary format) :=
  match text.toList with
  | '-' :: rest => ofUnsigned? true rest
  | '+' :: rest => ofUnsigned? false rest
  | rest => ofUnsigned? false rest

end Binary

end ProtoSchema
