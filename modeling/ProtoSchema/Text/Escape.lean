/-!
# Escaped bytes

A default for a field of bytes is written as text.  A backslash starts an
escape.  Up to three octal digits stand for one byte, and a number past 255
stands for the byte zero.  The letters `n`, `r` and `t` stand for a newline, a
carriage return and a tab.  Any other byte stands for itself, and so does a
backslash at the very end.

`encode` writes bytes so that only printable ASCII remains.
-/

namespace ProtoSchema.Escape

/-- The backslash. -/
def backslash : UInt8 := 92

/-- Whether a byte is an octal digit. -/
def isOctal (byte : UInt8) : Bool := 48 ≤ byte.toNat && byte.toNat ≤ 55

/-- The byte that octal digits stand for, zero when it is too large. -/
def octal (digits : List UInt8) : UInt8 :=
  let n := digits.foldl (fun n d => 8 * n + (d.toNat - 48)) 0
  if n < 256 then UInt8.ofNat n else 0

/-- The byte that a letter after a backslash stands for. -/
def escaped (letter : UInt8) : UInt8 :=
  match letter.toNat with
  | 110 => 10
  | 114 => 13
  | 116 => 9
  | _ => letter

/-- The bytes that escaped text stands for. -/
def decode : List UInt8 → List UInt8
  | [] => []
  | [byte] => [byte]
  | byte :: letter :: rest =>
    if byte ≠ backslash then byte :: decode (letter :: rest)
    else if isOctal letter then
      let digits := ((letter :: rest).take 3).takeWhile isOctal
      octal digits :: decode ((letter :: rest).drop digits.length)
    else escaped letter :: decode rest
termination_by text => text.length
decreasing_by
  · simp
  · rw [List.length_drop]; simp only [List.length_cons]; omega
  · simp only [List.length_cons]; omega

/-- A byte as three octal digits. -/
def octalDigits (byte : UInt8) : List UInt8 :=
  [UInt8.ofNat (48 + byte.toNat / 64), UInt8.ofNat (48 + byte.toNat / 8 % 8),
    UInt8.ofNat (48 + byte.toNat % 8)]

/-- One byte as text. -/
def encodeByte (byte : UInt8) : List UInt8 :=
  match byte.toNat with
  | 10 => [backslash, 110]
  | 13 => [backslash, 114]
  | 9 => [backslash, 116]
  | 34 | 39 | 92 => [backslash, byte]
  | n => if n < 32 ∨ 127 ≤ n then backslash :: octalDigits byte else [byte]

/-- Bytes as escaped text. -/
def encode (bytes : List UInt8) : List UInt8 := bytes.flatMap encodeByte

end ProtoSchema.Escape
