import Mathlib.Data.List.Basic
import ProtoSchema.Proofs.Wire.Records
import ProtoSchema.Text.Escape

/-!
# Escaping undone

What is written for one byte has one of three forms: the byte itself, a
backslash and a letter, or a backslash and exactly three octal digits
(`Written`).  Each form is read off the front of whatever follows, because the
reader never takes a fourth digit (`Written.decode_append`).  So bytes are read
back from their escaped text (`decode_encode`), and since that text is printable
ASCII, also from the text made of its characters (`toList_toUTF8_text`).
-/

namespace ProtoSchema.Escape

/-! ## What is written for one byte -/

/-- The bytes that may be written for `byte`. -/
inductive Written (byte : UInt8) : List UInt8 → Prop
  | plain : byte ≠ backslash → Written byte [byte]
  | letter {letter : UInt8} :
      isOctal letter = false → escaped letter = byte → Written byte [backslash, letter]
  | digits {a b c : UInt8} :
      isOctal a = true → isOctal b = true → isOctal c = true → octal [a, b, c] = byte →
      Written byte [backslash, a, b, c]

/-- What is written for a byte is read as that byte, and what follows is left
alone. -/
theorem Written.decode_append {byte : UInt8} {text : List UInt8} (h : Written byte text)
    (rest : List UInt8) : decode (text ++ rest) = byte :: decode rest := by
  cases h with
  | plain hbyte =>
    cases rest with
    | nil => simp [decode]
    | cons letter rest => simp [decode, hbyte]
  | letter hletter hescaped => simp [decode, hletter, hescaped]
  | digits ha hb hc hoctal => simp [decode, List.takeWhile, ha, hb, hc, hoctal]

/-! ## Octal digits -/

theorem toNat_octalDigit {n : Nat} (h : n < 8) : (UInt8.ofNat (48 + n)).toNat = 48 + n :=
  UInt8.toNat_ofNat_of_lt' (by simp only [UInt8.size]; omega)

theorem isOctal_octalDigit {n : Nat} (h : n < 8) : isOctal (UInt8.ofNat (48 + n)) = true := by
  simp only [isOctal, toNat_octalDigit h, Bool.and_eq_true, decide_eq_true_eq]
  omega

theorem octal_octalDigits (byte : UInt8) : octal (octalDigits byte) = byte := by
  have hbyte : byte.toNat < 256 := byte.toNat_lt
  have hvalue : 8 * (8 * (byte.toNat / 64) + byte.toNat / 8 % 8) + byte.toNat % 8 = byte.toNat := by
    omega
  have hhigh := toNat_octalDigit (show byte.toNat / 64 < 8 by omega)
  have hmiddle := toNat_octalDigit (show byte.toNat / 8 % 8 < 8 by omega)
  have hlow := toNat_octalDigit (show byte.toNat % 8 < 8 by omega)
  simp only [octal, octalDigits, List.foldl_cons, List.foldl_nil, hhigh, hmiddle, hlow,
    Nat.add_sub_cancel_left, Nat.mul_zero, Nat.zero_add, hvalue, if_pos hbyte, UInt8.ofNat_toNat]

/-! ## Every byte -/

theorem written_octalDigits (byte : UInt8) : Written byte (backslash :: octalDigits byte) := by
  have hbyte : byte.toNat < 256 := byte.toNat_lt
  exact .digits (isOctal_octalDigit (by omega)) (isOctal_octalDigit (by omega))
    (isOctal_octalDigit (by omega)) (octal_octalDigits byte)

theorem written_encodeByte (byte : UInt8) : Written byte (encodeByte byte) := by
  have hself {n : Nat} (h : byte.toNat = n) : UInt8.ofNat n = byte := by
    rw [← h, UInt8.ofNat_toNat]
  unfold encodeByte
  split
  case h_1 h => exact .letter rfl (hself h)
  case h_2 h => exact .letter rfl (hself h)
  case h_3 h => exact .letter rfl (hself h)
  case h_4 h =>
    cases hself h
    exact .letter rfl rfl
  case h_5 h =>
    cases hself h
    exact .letter rfl rfl
  case h_6 h =>
    cases hself h
    exact .letter rfl rfl
  case h_7 _ _ _ _ _ hslash =>
    have hplain : byte ≠ backslash := by
      rintro rfl
      exact hslash rfl
    split
    · exact written_octalDigits byte
    · exact .plain hplain

/-- **Bytes are read back from what is written for them.** -/
theorem decode_encode (bytes : List UInt8) : decode (encode bytes) = bytes := by
  induction bytes with
  | nil => simp [encode, decode]
  | cons byte bytes ih =>
    have hcons : encode (byte :: bytes) = encodeByte byte ++ encode bytes := by simp [encode]
    rw [hcons, (written_encodeByte byte).decode_append, ih]

/-! ## Escaped bytes as text -/

/-- Letters of ASCII as text. -/
def asciiText (letters : List UInt8) : String :=
  String.ofList (letters.map fun letter => Char.ofNat letter.toNat)

/-- Bytes as escaped text. -/
def text (bytes : List UInt8) : String := asciiText (encode bytes)

/-- Only printable ASCII is written. -/
theorem isPrintable_of_mem_encode {bytes : List UInt8} {letter : UInt8}
    (h : letter ∈ encode bytes) : 32 ≤ letter.toNat ∧ letter.toNat < 127 := by
  obtain ⟨byte, -, hletter⟩ := List.mem_flatMap.mp h
  have hbyte : byte.toNat < 256 := byte.toNat_lt
  unfold encodeByte at hletter
  split at hletter
  case h_7 =>
    split at hletter
    case isTrue =>
      have hhigh := toNat_octalDigit (show byte.toNat / 64 < 8 by omega)
      have hmiddle := toNat_octalDigit (show byte.toNat / 8 % 8 < 8 by omega)
      have hlow := toNat_octalDigit (show byte.toNat % 8 < 8 by omega)
      simp only [octalDigits, List.mem_cons, List.not_mem_nil, or_false] at hletter
      rcases hletter with rfl | rfl | rfl | rfl
      · decide
      · omega
      · omega
      · omega
    case isFalse hplain =>
      rw [List.mem_singleton.mp hletter]
      omega
  all_goals
    simp only [List.mem_cons, List.not_mem_nil, or_false] at hletter
    rcases hletter with rfl | rfl
    · decide
    · first | decide | omega

/-- The bytes of a letter of ASCII are that letter. -/
theorem utf8EncodeChar_ofNat {letter : UInt8} (h : letter.toNat < 128) :
    String.utf8EncodeChar (Char.ofNat letter.toNat) = [letter] := by
  have hvalue : (Char.ofNat letter.toNat).val.toNat = letter.toNat := by
    have hvalid : letter.toNat.isValidChar := .inl (by omega)
    rw [Char.ofNat, dif_pos hvalid]
    rfl
  have hsize : (Char.ofNat letter.toNat).utf8Size = 1 := by
    have hle : (Char.ofNat letter.toNat).val ≤ 0x7f :=
      UInt32.le_iff_toNat_le.mpr (by simp [hvalue]; omega)
    exact if_pos hle
  have hletter : (Char.ofNat letter.toNat).val.toUInt8 = letter := by
    rw [← UInt8.toNat_inj, UInt32.toNat_toUInt8, hvalue]
    omega
  rw [String.utf8EncodeChar_eq_singleton hsize, hletter]

/-- The bytes of text made of letters of ASCII are those letters. -/
theorem toList_toUTF8_asciiText {letters : List UInt8}
    (h : ∀ letter ∈ letters, letter.toNat < 128) :
    (asciiText letters).toUTF8.toList = letters := by
  have hletters : (letters.map fun letter => Char.ofNat letter.toNat).flatMap
      String.utf8EncodeChar = letters := by
    induction letters with
    | nil => rfl
    | cons letter letters ih =>
      rw [List.map_cons, List.flatMap_cons, utf8EncodeChar_ofNat (h letter (by simp)),
        ih fun other hother => h other (by simp [hother]), List.singleton_append]
  rw [String.toUTF8_eq_toByteArray, ByteArray.toList, toList_loop, asciiText,
    String.toByteArray_ofList, List.utf8Encode, hletters, List.data_toByteArray]
  rfl

theorem toList_toUTF8_text (bytes : List UInt8) : (text bytes).toUTF8.toList = encode bytes :=
  toList_toUTF8_asciiText fun letter hletter => by
    have := (isPrintable_of_mem_encode hletter).2
    omega

-- A digit that follows an octal escape is not part of it.
example : text [0, 49, 10, 92] = "\\0001\\n\\\\" := rfl

end ProtoSchema.Escape
