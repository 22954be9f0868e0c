import ProtoSchema.Proofs.Number.Integer
import ProtoSchema.Proofs.Text.Escape
import ProtoSchema.Table.Scalar

/-!
# Defaults read back

A schema compiler records a default as text.  It writes an integer in decimal,
a truth value as a word, text as it is, and bytes escaped.  Each of these is
read back.  An integer type reads exactly the numbers in its range: the limits
are those of its width, and they differ between the types that have a sign and
those that have none (`Scalar.ReadsBetween`).

The only step that depends on the type is which atom holds the number, so each
of the four representations of integers is treated once, whatever the scalar
types are that share it.
-/

namespace ProtoSchema

/-- The number that an atom of an integer type holds. -/
def Atom.integer? : Atom → Option Int
  | .int32 n => some n.toInt
  | .int64 n => some n.toInt
  | .uint32 n => some n.toNat
  | .uint64 n => some n.toNat
  | _ => none

namespace Scalar

variable {scalar : Scalar}

/-- Of the decimal texts of numbers, a scalar reads those of the numbers from
`low` up to but not including `high`, each as the atom of its own that holds the
number. -/
def ReadsBetween (scalar : Scalar) (low high : Int) : Prop :=
  ∀ n : Int,
    if low ≤ n ∧ n < high then
      ∃ atom, scalar.readDefault? (toString n) = some atom ∧ scalar.accepts atom = true ∧
        atom.integer? = some n
    else scalar.readDefault? (toString n) = none

/-- A scalar that puts each number of a range into an atom of its own reads
these numbers. -/
theorem ReadsBetween.intro {low high : Int} (atomOf : Int → Atom)
    (hread : ∀ n : Int, scalar.readDefault? (toString n) =
      if low ≤ n ∧ n < high then some (atomOf n) else none)
    (hatom : ∀ n, low ≤ n → n < high →
      scalar.accepts (atomOf n) = true ∧ (atomOf n).integer? = some n) :
    scalar.ReadsBetween low high := by
  intro n
  by_cases hn : low ≤ n ∧ n < high
  · rw [if_pos hn]
    exact ⟨atomOf n, by rw [hread, if_pos hn], hatom n hn.1 hn.2⟩
  · rw [if_neg hn, hread, if_neg hn]

/-! ## The four representations of integers -/

theorem readsBetween_int32 (h : scalar.representation = .int32) :
    scalar.ReadsBetween (-2 ^ 31) (2 ^ 31) := by
  refine .intro (fun n => .int32 (Int32.ofInt n)) ?_ ?_
  · intro n
    simp only [readDefault?, h, Decimal.signedOfWidth?_toString]
    split <;> rfl
  · intro n hlow hhigh
    exact ⟨by simp [accepts, h, Atom.representation],
      congrArg some (Int32.toInt_ofInt_of_le hlow hhigh)⟩

theorem readsBetween_int64 (h : scalar.representation = .int64) :
    scalar.ReadsBetween (-2 ^ 63) (2 ^ 63) := by
  refine .intro (fun n => .int64 (Int64.ofInt n)) ?_ ?_
  · intro n
    simp only [readDefault?, h, Decimal.signedOfWidth?_toString]
    split <;> rfl
  · intro n hlow hhigh
    exact ⟨by simp [accepts, h, Atom.representation],
      congrArg some (Int64.toInt_ofInt_of_le hlow hhigh)⟩

theorem readsBetween_uint32 (h : scalar.representation = .uint32) :
    scalar.ReadsBetween 0 (2 ^ 32) := by
  refine .intro (fun n => .uint32 (UInt32.ofNat n.toNat)) ?_ ?_
  · intro n
    simp only [readDefault?, h, Decimal.unsignedOfWidth?_toString]
    split <;> rfl
  · intro n hlow hhigh
    have hsize : n.toNat < UInt32.size := by simp only [UInt32.size]; omega
    have hvalue : (UInt32.ofNat n.toNat).toNat = n.toNat := UInt32.toNat_ofNat_of_lt' hsize
    exact ⟨by simp [accepts, h, Atom.representation], congrArg some (by omega)⟩

theorem readsBetween_uint64 (h : scalar.representation = .uint64) :
    scalar.ReadsBetween 0 (2 ^ 64) := by
  refine .intro (fun n => .uint64 (UInt64.ofNat n.toNat)) ?_ ?_
  · intro n
    simp only [readDefault?, h, Decimal.unsignedOfWidth?_toString]
    split <;> rfl
  · intro n hlow hhigh
    have hsize : n.toNat < UInt64.size := by simp only [UInt64.size]; omega
    have hvalue : (UInt64.ofNat n.toNat).toNat = n.toNat := UInt64.toNat_ofNat_of_lt' hsize
    exact ⟨by simp [accepts, h, Atom.representation], congrArg some (by omega)⟩

/-! ## Every type -/

/-- **Defaults are read back.**  An integer type reads the numbers of its range
and no others, and truth values, text and bytes are read back without
exception. -/
theorem readDefault?_written :
    (int32.ReadsBetween (-2 ^ 31) (2 ^ 31) ∧ sint32.ReadsBetween (-2 ^ 31) (2 ^ 31) ∧
      sfixed32.ReadsBetween (-2 ^ 31) (2 ^ 31)) ∧
    (int64.ReadsBetween (-2 ^ 63) (2 ^ 63) ∧ sint64.ReadsBetween (-2 ^ 63) (2 ^ 63) ∧
      sfixed64.ReadsBetween (-2 ^ 63) (2 ^ 63)) ∧
    (uint32.ReadsBetween 0 (2 ^ 32) ∧ fixed32.ReadsBetween 0 (2 ^ 32)) ∧
    (uint64.ReadsBetween 0 (2 ^ 64) ∧ fixed64.ReadsBetween 0 (2 ^ 64)) ∧
    (bool.readDefault? "true" = some (.bool true) ∧
      bool.readDefault? "false" = some (.bool false)) ∧
    (∀ text, string.readDefault? text = some (.text text)) ∧
    (∀ data, bytes.readDefault? (Escape.text data) = some (.bytes data)) := by
  refine ⟨⟨?_, ?_, ?_⟩, ⟨?_, ?_, ?_⟩, ⟨?_, ?_⟩, ⟨?_, ?_⟩, ⟨rfl, rfl⟩, fun text => rfl, ?_⟩
  case refine_1 | refine_2 | refine_3 => exact readsBetween_int32 rfl
  case refine_4 | refine_5 | refine_6 => exact readsBetween_int64 rfl
  case refine_7 | refine_8 => exact readsBetween_uint32 rfl
  case refine_9 | refine_10 => exact readsBetween_uint64 rfl
  case refine_11 =>
    intro data
    have hdecode : Escape.decode (Escape.text data).toUTF8.toList = data := by
      rw [Escape.toList_toUTF8_text, Escape.decode_encode]
    exact congrArg (fun data => some (Atom.bytes data)) hdecode

end Scalar

end ProtoSchema
