import Mathlib.Algebra.Ring.Int.Defs
import Mathlib.Data.Option.Basic
import ProtoSchema.Number.Integer

/-!
# Reading an integer back

The value of a run of digits is built up from the left, as the library's own
reading of digits is, so the digits of a number are read back as that number
(`natural?_toDigits`).  No digit is a sign.  The text of a number that is not
negative is therefore read as its digits by both readers, and the text of a
negative one by the reader that knows the minus sign alone
(`signed?_toString`, `unsigned?_toString`).
-/

namespace ProtoSchema.Decimal

/-! ## Digits -/

theorem value_eq_ofDigitChars (digits : List Char) :
    value digits = Nat.ofDigitChars 10 digits 0 := rfl

theorem natural?_toDigits (n : Nat) : natural? (Nat.toDigits 10 n) = some n := by
  have hempty : (Nat.toDigits 10 n).isEmpty = false :=
    List.isEmpty_eq_false_iff.mpr Nat.toDigits_ne_nil
  have hall : (Nat.toDigits 10 n).all Char.isDigit = true :=
    List.all_eq_true.mpr fun c hc => Nat.isDigit_of_mem_toDigits (by omega) (by omega) hc
  simp [natural?, hempty, hall, value_eq_ofDigitChars, Nat.ofDigitChars_ten_toDigits]

/-- The first character of the digits of a number is a digit. -/
theorem exists_toDigits_eq_cons (n : Nat) :
    ∃ first rest, Nat.toDigits 10 n = first :: rest ∧ first.isDigit = true := by
  cases hdigits : Nat.toDigits 10 n with
  | nil => exact absurd hdigits Nat.toDigits_ne_nil
  | cons first rest =>
    have hfirst : first ∈ Nat.toDigits 10 n := by simp [hdigits]
    exact ⟨first, rest, rfl, Nat.isDigit_of_mem_toDigits (by omega) (by omega) hfirst⟩

/-! ## Signs -/

theorem unsigned?_toDigits (n : Nat) : unsigned? (Nat.toDigits 10 n) = some n := by
  obtain ⟨first, rest, hdigits, hfirst⟩ := exists_toDigits_eq_cons n
  have hplus : first ≠ '+' := by
    rintro rfl
    cases hfirst
  have hread := natural?_toDigits n
  rw [hdigits] at hread ⊢
  simpa [unsigned?, hplus] using hread

theorem signed?_toDigits (n : Nat) : signed? (Nat.toDigits 10 n) = some (n : Int) := by
  obtain ⟨first, rest, hdigits, hfirst⟩ := exists_toDigits_eq_cons n
  have hplus : first ≠ '+' := by
    rintro rfl
    cases hfirst
  have hminus : first ≠ '-' := by
    rintro rfl
    cases hfirst
  have hread := natural?_toDigits n
  rw [hdigits] at hread ⊢
  simp [signed?, hplus, hminus, hread]

/-- The text of a number is its digits, with a minus sign in front when it is
negative. -/
theorem toList_toString (n : Int) :
    (toString n).toList =
      if n < 0 then '-' :: Nat.toDigits 10 n.natAbs else Nat.toDigits 10 n.natAbs := by
  rw [Int.toString_eq_repr, Int.repr_eq_if]
  by_cases hn : n < 0
  · have habs : (-n).toNat = n.natAbs := by omega
    have hneg : ¬ 0 ≤ n := by omega
    simp [hn, hneg, habs, String.toList_append, Nat.toList_repr]
  · have habs : n.toNat = n.natAbs := by omega
    have hpos : 0 ≤ n := by omega
    simp [hn, hpos, habs, Nat.toList_repr]

/-- The text of a number is read as that number. -/
theorem signed?_toString (n : Int) : signed? (toString n).toList = some n := by
  rw [toList_toString]
  by_cases hn : n < 0
  · have habs : -(n.natAbs : Int) = n := by omega
    rw [if_pos hn, signed?, natural?_toDigits]
    exact congrArg some habs
  · have habs : (n.natAbs : Int) = n := by omega
    rw [if_neg hn, signed?_toDigits, habs]

/-- Where no minus sign may be written, the text of a number is read when the
number is not negative. -/
theorem unsigned?_toString (n : Int) :
    unsigned? (toString n).toList = if 0 ≤ n then some n.toNat else none := by
  rw [toList_toString]
  by_cases hn : n < 0
  · have hminus : natural? ('-' :: Nat.toDigits 10 n.natAbs) = none := by simp [natural?]
    rw [if_pos hn, if_neg (by omega)]
    exact hminus
  · have habs : n.natAbs = n.toNat := by omega
    rw [if_neg hn, if_pos (by omega), unsigned?_toDigits, habs]

/-! ## Widths -/

/-- A signed number of some width is read when it is in the range of that
width. -/
theorem signedOfWidth?_toString (width : Nat) (n : Int) :
    signedOfWidth? width (toString n) =
      if -(2 : Int) ^ (width - 1) ≤ n ∧ n < 2 ^ (width - 1) then some n else none := by
  rw [signedOfWidth?, signed?_toString]
  simp [Option.filter]

/-- An unsigned number of some width is read when it is in the range of that
width. -/
theorem unsignedOfWidth?_toString (width : Nat) (n : Int) :
    unsignedOfWidth? width (toString n) =
      if 0 ≤ n ∧ n < 2 ^ width then some n.toNat else none := by
  have htwo : ((2 ^ width : Nat) : Int) = 2 ^ width := by simp
  rw [unsignedOfWidth?, unsigned?_toString]
  by_cases hn : 0 ≤ n
  · have hfits : n.toNat < 2 ^ width ↔ n < 2 ^ width := by omega
    simp [hn, Option.filter, hfits]
  · simp [hn]

end ProtoSchema.Decimal
