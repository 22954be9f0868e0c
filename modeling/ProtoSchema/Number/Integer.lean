/-!
# Decimal integers

The text of an integer is an optional sign and at least one of the ten ASCII
digits.  Nothing else is allowed: no blank, no mark between groups.  A plus
sign may always be written, a minus sign only where a negative number can be
meant.  A number outside the range that is asked for is refused.
-/

namespace ProtoSchema.Decimal

/-- The value of one digit. -/
def digitValue (c : Char) : Nat := c.toNat - '0'.toNat

/-- The value of a run of digits, read from the left. -/
def value (digits : List Char) : Nat :=
  digits.foldl (fun n c => 10 * n + digitValue c) 0

/-- The number that at least one digit and nothing else stands for. -/
def natural? (text : List Char) : Option Nat :=
  if text.isEmpty ∨ ¬ text.all Char.isDigit then none else some (value text)

/-- A number with an optional plus sign. -/
def unsigned? : List Char → Option Nat
  | '+' :: digits => natural? digits
  | digits => natural? digits

/-- A number with an optional sign. -/
def signed? : List Char → Option Int
  | '-' :: digits => (natural? digits).map fun n => -(n : Int)
  | '+' :: digits => (natural? digits).map Int.ofNat
  | digits => (natural? digits).map Int.ofNat

/-- A number with an optional plus sign that fits in `width` bits. -/
def unsignedOfWidth? (width : Nat) (text : String) : Option Nat :=
  (unsigned? text.toList).filter fun n => n < Nat.pow 2 width

/-- A number with an optional sign that fits in `width` bits, one of which is
the sign. -/
def signedOfWidth? (width : Nat) (text : String) : Option Int :=
  (signed? text.toList).filter fun n =>
    -(Nat.pow 2 (width - 1) : Int) ≤ n ∧ n < Nat.pow 2 (width - 1)

end ProtoSchema.Decimal
