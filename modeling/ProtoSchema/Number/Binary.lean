/-!
# Binary floating point

A number in a binary format is a sign, an exponent and a significand, held in
a fixed number of bits.  Nothing is computed with such numbers here.  They are
stored, compared, and made from exact fractions.

`Binary.ofRatio` rounds a fraction of natural numbers to the nearest number of
a format, and a tie to the one with an even significand.  A fraction past the
largest number becomes infinity.  The work is done in exact arithmetic: the
fraction is scaled so that the significand of the result is its integer part.

Equality is that of the standard.  No number equals a NaN, and the two zeros
are equal.
-/

namespace ProtoSchema

/-- The widths of a binary format. -/
structure BinaryFormat where
  /-- Bits of the significand, the leading one included. -/
  significand : Nat
  /-- Bits of the exponent. -/
  exponent : Nat

namespace BinaryFormat

/-- The format of 32 bits. -/
def single : BinaryFormat := ⟨24, 8⟩

/-- The format of 64 bits. -/
def double : BinaryFormat := ⟨53, 11⟩

/-- The bits of a number: sign, exponent, and a significand whose leading one
is not written. -/
def width (format : BinaryFormat) : Nat := format.significand + format.exponent

/-- The exponent of the last bit of the smallest numbers. -/
def leastExponent (format : BinaryFormat) : Int :=
  3 - (Nat.pow 2 (format.exponent - 1) : Int) - format.significand

/-- Infinity as bits: all ones in the exponent. -/
def infinityBits (format : BinaryFormat) : Nat :=
  (Nat.pow 2 format.exponent - 1) * Nat.pow 2 (format.significand - 1)

end BinaryFormat

/-- A number in a binary format. -/
structure Binary (format : BinaryFormat) where
  /-- Its bits, the sign on top. -/
  bits : BitVec format.width
deriving DecidableEq, Repr

namespace Binary

variable {format : BinaryFormat}

instance : Inhabited (Binary format) := ⟨⟨0⟩⟩

/-- The bits below the sign. -/
def magnitude (x : Binary format) : Nat := x.bits.toNat % Nat.pow 2 (format.width - 1)

/-- Whether a number is no number. -/
def isNaN (x : Binary format) : Bool := format.infinityBits < x.magnitude

/-- Whether a number is one of the two zeros. -/
def isZero (x : Binary format) : Bool := x.magnitude = 0

/-- Equality of numbers: NaN differs from itself, and the zeros are equal. -/
def same (x y : Binary format) : Bool :=
  !x.isNaN && !y.isNaN && (x.bits == y.bits || (x.isZero && y.isZero))

/-- Sets the sign above a magnitude. -/
def signed (negative : Bool) (magnitude : Nat) : Binary format :=
  ⟨BitVec.ofNat _ (magnitude + if negative then Nat.pow 2 (format.width - 1) else 0)⟩

/-- Zero, without a sign. -/
def zero : Binary format := signed false 0

/-- Infinity. -/
def infinity (negative : Bool) : Binary format := signed negative format.infinityBits

/-- A NaN. -/
def nan (negative : Bool) : Binary format :=
  signed negative (format.infinityBits + Nat.pow 2 (format.significand - 2))

/-- A quotient rounded to the nearest integer, a tie to the even one. -/
def roundDiv (num den : Nat) : Nat :=
  let quotient := num / den
  let twice := 2 * (num % den)
  if twice < den then quotient
  else if den < twice then quotient + 1
  else quotient + quotient % 2

/-- The greatest `k` with `2 ^ k ≤ num / den`, for positive numbers. -/
def floorLog (num den : Nat) : Int :=
  let guess : Int := (Nat.log2 num : Int) - Nat.log2 den
  let reached :=
    if guess < 0 then den ≤ num * Nat.pow 2 guess.natAbs else den * Nat.pow 2 guess.natAbs ≤ num
  if reached then guess else guess - 1

/-- The number of a format that is nearest to `num / den`. -/
def ofRatio (negative : Bool) (num den : Nat) : Binary format :=
  if num = 0 then signed negative 0
  else
    let exponent : Int :=
      max (floorLog num den - (format.significand - 1 : Nat)) format.leastExponent
    let significand :=
      if exponent < 0 then roundDiv (num * Nat.pow 2 exponent.natAbs) den
      else roundDiv num (den * Nat.pow 2 exponent.natAbs)
    let magnitude :=
      (exponent - format.leastExponent).toNat * Nat.pow 2 (format.significand - 1) + significand
    if format.infinityBits ≤ magnitude then infinity negative else signed negative magnitude

end Binary

end ProtoSchema
