import ProtoSchema.Text.Identifier

/-!
# Literals

A literal is a character or text between quotes, or a number.  `Literal.after?`
says what follows the literal in front of text.  Text may be *raw*, so that it
ends only at a quote with as many number signs as there are in front of it.
Letters in front of a quote say that bytes are meant and not characters, or text
that ends in a zero.  A suffix may follow any literal.
-/

namespace ProtoSchema.Literal

/-! ## Escapes -/

/-- What a literal between quotes is made of. -/
inductive Matter where
  | characters
  | bytes
  /-- Characters, none of which is zero. -/
  | nonzero
deriving DecidableEq, Repr, Inhabited

/-- Whether a character is a hexadecimal digit. -/
def isHexadecimal (c : Char) : Bool :=
  c.isDigit || ('a' ≤ c && c ≤ 'f') || ('A' ≤ c && c ≤ 'F')

/-- The value of a hexadecimal digit. -/
def digitValue (c : Char) : Nat :=
  if c.isDigit then c.toNat - '0'.toNat else c.toLower.toNat - 'a'.toNat + 10

/-- The number that hexadecimal digits make.  Underscores between them mean
nothing. -/
def hexadecimalValue (digits : List Char) : Nat :=
  digits.foldl (fun n c => if c == '_' then n else n * 16 + digitValue c) 0

/-- Whether a character may stand between the braces of an escape. -/
def isPointPart (c : Char) : Bool := isHexadecimal c || c == '_'

/-- Whether what stands between the braces of an escape names a character. -/
def Matter.admitsPoint (matter : Matter) (parts : List Char) : Bool :=
  let count := (parts.filter isHexadecimal).length
  let n := hexadecimalValue parts
  matter != .bytes && parts.head? != some '_' && 0 < count && count ≤ 6 && n.isValidChar &&
    !(matter == .nonzero && n == 0)

/-- What follows the number of a character in braces, of which the opening one is
left out. -/
def afterPoint? (matter : Matter) (text : List Char) : Option (List Char) :=
  match text.dropWhile isPointPart with
  | '\x7d' :: rest => if matter.admitsPoint (text.takeWhile isPointPart) then some rest else none
  | _ => none

/-- What follows the number of a character is shorter than the number with it. -/
theorem length_afterPoint? {matter : Matter} {text rest : List Char}
    (h : afterPoint? matter text = some rest) : rest.length < text.length := by
  unfold afterPoint? at h
  split at h
  · rename_i heq
    have hle := (List.dropWhile_sublist isPointPart (l := text)).length_le
    simp only [Option.ite_none_right_eq_some, Option.some.injEq] at h
    obtain ⟨-, rfl⟩ := h
    rw [heq] at hle
    simp only [List.length_cons] at hle
    omega
  · simp at h

/-- Whether two digits may name a character or a byte. -/
def Matter.admitsDigits (matter : Matter) (a b : Char) : Bool :=
  isHexadecimal a && isHexadecimal b &&
    match matter with
    | .characters => a ≤ '7'
    | .bytes => true
    | .nonzero => !(a == '0' && b == '0')

/-- What follows an escape, of which the backslash is left out. -/
def afterEscape? (matter : Matter) : List Char → Option (List Char)
  | 'x' :: a :: b :: rest => if matter.admitsDigits a b then some rest else none
  | 'u' :: '\x7b' :: rest => afterPoint? matter rest
  | '0' :: rest => if matter == .nonzero then none else some rest
  | c :: rest => if ['n', 'r', 't', '\\', '\'', '"'].contains c then some rest else none
  | [] => none

/-- What follows an escape is shorter than the escape with it. -/
theorem length_afterEscape? {matter : Matter} {text rest : List Char}
    (h : afterEscape? matter text = some rest) : rest.length < text.length := by
  unfold afterEscape? at h
  split at h
  · simp only [Option.ite_none_right_eq_some, Option.some.injEq] at h
    obtain ⟨-, rfl⟩ := h
    simp only [List.length_cons]
    omega
  · have := length_afterPoint? h
    simp only [List.length_cons]
    omega
  · simp only [Option.ite_none_left_eq_some, Option.some.injEq] at h
    obtain ⟨-, rfl⟩ := h
    simp only [List.length_cons]
    omega
  · simp only [Option.ite_none_right_eq_some, Option.some.injEq] at h
    obtain ⟨-, rfl⟩ := h
    simp only [List.length_cons]
    omega
  · simp at h

/-! ## Between quotes -/

/-- Whether a character may stand between quotes as it is. -/
def Matter.mayHold (matter : Matter) (c : Char) : Bool :=
  match matter with
  | .characters => true
  | .bytes => c.toNat < 128
  | .nonzero => c != '\x00'

/-- Whether a character means nothing after a backslash at the end of a line. -/
def isMargin (c : Char) : Bool := c == ' ' || c == '\t' || c == '\n' || c == '\r'

/-- What follows the quote at the end of quoted text.  A carriage return stands
only before a line feed. -/
def afterQuoted? (matter : Matter) (text : List Char) : Option (List Char) :=
  match text with
  | '"' :: rest => some rest
  | '\r' :: '\n' :: rest => afterQuoted? matter rest
  | '\r' :: _ => none
  | '\\' :: '\n' :: rest => afterQuoted? matter (rest.dropWhile isMargin)
  | '\\' :: rest =>
    match _h : afterEscape? matter rest with
    | some rest => afterQuoted? matter rest
    | none => none
  | c :: rest => if matter.mayHold c then afterQuoted? matter rest else none
  | [] => none
termination_by text.length
decreasing_by
  · simp only [List.length_cons]
    omega
  · have := (List.dropWhile_sublist isMargin (l := rest)).length_le
    simp only [List.length_cons]
    omega
  · have := length_afterEscape? _h
    simp only [List.length_cons]
    omega
  · simp only [List.length_cons]
    omega

/-- What follows raw text, which ends at a quote with `marks` number signs. -/
def afterRaw? (matter : Matter) (marks : Nat) : List Char → Option (List Char)
  | '\r' :: '\n' :: rest => afterRaw? matter marks rest
  | '\r' :: _ => none
  | c :: rest =>
    if c == '"' && (List.replicate marks '#').isPrefixOf rest then some (rest.drop marks)
    else if matter.mayHold c then afterRaw? matter marks rest
    else none
  | [] => none

/-- What follows raw text, of which the letter in front is left out. -/
def afterMarks? (matter : Matter) (text : List Char) : Option (List Char) :=
  let marks := (text.takeWhile fun c => c == '#').length
  match text.drop marks with
  | '"' :: rest => if marks ≤ 255 then afterRaw? matter marks rest else none
  | _ => none

/-- What follows a single character and the quote after it. -/
def afterCharacter? (matter : Matter) : List Char → Option (List Char)
  | '\\' :: rest =>
    match afterEscape? matter rest with
    | some ('\'' :: rest) => some rest
    | _ => none
  | c :: '\'' :: rest => if matter.mayHold c then some rest else none
  | _ => none

/-! ## Numbers -/

/-- What follows the digits of a number with an exponent. -/
def afterExponent? (text : List Char) : Option (List Char) :=
  let isDigit (c : Char) : Bool := c.isDigit || c == '_'
  let blank (text : List Char) : List Char := text.dropWhile fun c => c == '_'
  if !text.head?.any Char.isDigit then none
  else
    match text.dropWhile isDigit with
    | e :: rest =>
      if e != 'e' && e != 'E' then none
      else
        let rest :=
          match blank rest with
          | '+' :: rest | '-' :: rest => blank rest
          | rest => rest
        if rest.head?.any Char.isDigit then some (rest.dropWhile isDigit) else none
    | [] => none

/-- What follows digits to a base, at least one of which there must be. -/
def afterDigits? (base : Nat) (text : List Char) : Option (List Char) :=
  let isDigit (c : Char) : Bool := c.isDigit || (base == 16 && isHexadecimal c)
  let digits := text.takeWhile fun c => isDigit c || c == '_'
  if digits.any isDigit && digits.all fun c => c == '_' || digitValue c < base then
    some (text.drop digits.length)
  else none

/-- What follows the digits of a whole number. -/
def afterInteger? : List Char → Option (List Char)
  | '0' :: 'x' :: rest => afterDigits? 16 rest
  | '0' :: 'o' :: rest => afterDigits? 8 rest
  | '0' :: 'b' :: rest => afterDigits? 2 rest
  | text => if text.head?.any Char.isDigit then afterDigits? 10 text else none

/-- The number that digits to a base make.  Underscores between them mean
nothing. -/
def numberValue (base : Nat) (digits : List Char) : Nat :=
  (digits.filter fun c => c != '_').foldl (fun n c => n * base + digitValue c) 0

/-- The number that a literal is, if it is a whole number without a suffix of at
most 32 bits. -/
def index? (literal : String) : Option Nat :=
  let (base, digits) : Nat × List Char :=
    match literal.toList with
    | '0' :: 'x' :: rest => (16, rest)
    | '0' :: 'o' :: rest => (8, rest)
    | '0' :: 'b' :: rest => (2, rest)
    | digits => (10, digits)
  let isNumber := literal.toList.head?.any Char.isDigit && afterDigits? base digits == some []
  if isNumber && numberValue base digits < UInt32.size then some (numberValue base digits) else none

/-- Whether a literal is a character, a byte, a whole number or a truth value. -/
def isSimple (literal : String) : Bool :=
  match literal.toList with
  | '\'' :: _ => true
  | 'b' :: '\'' :: _ => true
  | text =>
    literal == "true" || literal == "false" ||
      (text.head?.any Char.isDigit && (afterExponent? text).isNone)

/-! ## All literals -/

/-- What follows a suffix, if there is one. -/
def afterSuffix (text : List Char) : List Char :=
  if text.head?.any Identifier.isStart then text.dropWhile Identifier.isContinue else text

/-- What follows a number.  No further character of a name may touch it. -/
def afterNumber? (text : List Char) : Option (List Char) :=
  let rest := ((afterExponent? text).orElse fun _ => afterInteger? text).map afterSuffix
  rest.filter fun rest => !rest.head?.any Identifier.isContinue

/-- What follows a literal between quotes. -/
def afterQuotes? : List Char → Option (List Char)
  | '"' :: rest => afterQuoted? .characters rest
  | 'b' :: '"' :: rest => afterQuoted? .bytes rest
  | 'c' :: '"' :: rest => afterQuoted? .nonzero rest
  | '\'' :: rest => afterCharacter? .characters rest
  | 'b' :: '\'' :: rest => afterCharacter? .bytes rest
  | 'r' :: rest => afterMarks? .characters rest
  | 'b' :: 'r' :: rest => afterMarks? .bytes rest
  | 'c' :: 'r' :: rest => afterMarks? .nonzero rest
  | _ => none

/-- What follows the literal in front of text. -/
def after? (text : List Char) : Option (List Char) :=
  ((afterQuotes? text).map afterSuffix).orElse fun _ => afterNumber? text

end ProtoSchema.Literal
