/-!
# Blanks

The Unicode standard lists the characters that are white space: six ASCII
controls and the space, two controls beyond ASCII, and the spaces of various
widths.  Between the words of source text two marks of direction count as blank
as well.
-/

namespace ProtoSchema.Blank

/-- Whether a character is white space. -/
def isBlank (c : Char) : Bool :=
  let n := c.toNat
  (9 ≤ n && n ≤ 13) || n == 0x20 || n == 0x85 || n == 0xa0 || n == 0x1680 ||
    (0x2000 ≤ n && n ≤ 0x200a) || n == 0x2028 || n == 0x2029 || n == 0x202f || n == 0x205f ||
    n == 0x3000

/-- Whether a character separates words of source text. -/
def isSeparator (c : Char) : Bool := isBlank c || c.toNat == 0x200e || c.toNat == 0x200f

/-- Whether text holds nothing but blanks. -/
def isBlankText (text : String) : Bool := text.toList.all isBlank

end ProtoSchema.Blank
