import Mathlib.Data.List.Forall2
import ProtoSchema.Table.Basic

/-!
# When tables are the same

The tables of messages are compared with their declared defaults as numbers.  So two
tables are the same when they are equal up to the signs of zeros, and no default is a NaN
(`MessageTable.same_iff`).  A table with such a default is not even the same as itself.
-/

namespace ProtoSchema

/-! ## Numbers -/

namespace Binary

variable {format : BinaryFormat}

/-- A number, with the sign of a zero left out. -/
def plain (x : Binary format) : Binary format := if x.isZero then zero else x

theorem isZero_zero : (zero : Binary format).isZero = true := by
  simp [isZero, magnitude, zero, signed]

theorem isNaN_of_isZero {x : Binary format} (h : x.isZero = true) : x.isNaN = false := by
  rw [isZero, decide_eq_true_eq] at h
  rw [isNaN, h]
  simp

/-- A number that is equal to another up to the sign of a zero is zero as well, or the same
number. -/
theorem plain_eq_plain_iff {x y : Binary format} :
    x.plain = y.plain ↔ x = y ∨ (x.isZero = true ∧ y.isZero = true) := by
  unfold plain
  by_cases hx : x.isZero = true
  · by_cases hy : y.isZero = true
    · simp [hx, hy]
    · rw [if_pos hx, if_neg hy]
      constructor
      · rintro rfl
        exact absurd isZero_zero hy
      · rintro (rfl | ⟨-, h⟩)
        · exact absurd hx hy
        · exact absurd h hy
  · by_cases hy : y.isZero = true
    · rw [if_neg hx, if_pos hy]
      constructor
      · rintro rfl
        exact absurd isZero_zero hx
      · rintro (rfl | ⟨h, -⟩)
        · exact absurd hy hx
        · exact absurd h hx
    · rw [if_neg hx, if_neg hy]
      exact (or_iff_left fun h => hx h.1).symm

/-- Numbers are the same when they are equal up to the sign of a zero and no NaN. -/
theorem same_iff {x y : Binary format} :
    x.same y = true ↔ x.isNaN = false ∧ x.plain = y.plain := by
  rw [plain_eq_plain_iff, same]
  simp only [Bool.and_eq_true, Bool.not_eq_true', Bool.or_eq_true, beq_iff_eq]
  constructor
  · rintro ⟨⟨hx, -⟩, hbits | hzero⟩
    · exact ⟨hx, Or.inl (congrArg Binary.mk hbits)⟩
    · exact ⟨hx, Or.inr hzero⟩
  · rintro ⟨hx, rfl | hzero⟩
    · exact ⟨⟨hx, hx⟩, Or.inl rfl⟩
    · exact ⟨⟨hx, isNaN_of_isZero hzero.2⟩, Or.inr hzero⟩

end Binary

namespace Atom

/-- An atom, with the sign of a zero left out. -/
def plain : Atom → Atom
  | float x => float x.plain
  | double x => double x.plain
  | atom => atom

/-- Whether an atom is a NaN. -/
def isNaN : Atom → Bool
  | float x => x.isNaN
  | double x => x.isNaN
  | _ => false

theorem same_iff {a b : Atom} : a.same b = true ↔ a.isNaN = false ∧ a.plain = b.plain := by
  cases a <;> cases b <;> simp [same, plain, isNaN, Binary.same_iff]

end Atom

/-! ## Tables -/

namespace FieldTable

/-- A field, with the sign of a zero default left out. -/
def plain (field : FieldTable) : FieldTable :=
  { field with default := field.default.map Atom.plain }

/-- Whether the declared default of a field is a NaN. -/
def hasNaN (field : FieldTable) : Bool := field.default.any Atom.isNaN

theorem same_iff {a b : FieldTable} :
    a.same b = true ↔ a.hasNaN = false ∧ a.plain = b.plain := by
  obtain ⟨_, _, _, _, default, _, _⟩ := a
  obtain ⟨_, _, _, _, default', _, _⟩ := b
  cases default with
  | none => cases default' <;> simp [same, hasNaN, plain]
  | some x =>
    cases default' with
    | none => simp [same, hasNaN, plain]
    | some y => simp [same, hasNaN, plain, Atom.same_iff, and_assoc, and_left_comm, and_comm]

end FieldTable

namespace MessageTable

/-- The table of a message, with the signs of zero defaults left out. -/
def plain (table : MessageTable) : MessageTable :=
  { table with fields := table.fields.map FieldTable.plain }

/-- Whether a declared default of a message is a NaN. -/
def hasNaN (table : MessageTable) : Bool := table.fields.any FieldTable.hasNaN

theorem forall₂_same_iff (fields fields' : List FieldTable) :
    List.Forall₂ (fun x y : FieldTable => x.same y = true) fields fields' ↔
      fields.any FieldTable.hasNaN = false ∧
        fields.map FieldTable.plain = fields'.map FieldTable.plain := by
  simp only [FieldTable.same_iff, ← Bool.not_eq_true]
  rw [List.forall₂_and_left, ← List.forall₂_eq_eq_eq, List.forall₂_map_left_iff,
    List.forall₂_map_right_iff, List.any_eq_true, not_exists]
  exact and_congr_left' (forall_congr' fun field => not_and.symm)

/-- Tables are the same when they are equal up to the signs of zeros and have no NaN. -/
theorem same_iff {a b : MessageTable} :
    a.same b = true ↔ a.hasNaN = false ∧ a.plain = b.plain := by
  have hfields := forall₂_same_iff a.fields b.fields
  rw [List.forall₂_iff_zip] at hfields
  rw [same, Bool.and_eq_true, Bool.and_eq_true, beq_iff_eq, beq_iff_eq, List.all_eq_true,
    Prod.forall, and_assoc]
  refine (and_congr_right' hfields).trans ?_
  rw [and_left_comm, hasNaN]
  refine and_congr_right fun _ => ?_
  obtain ⟨_, _, _, _, fields, _, _⟩ := a
  obtain ⟨_, _, _, _, fields', _, _⟩ := b
  simp [plain, and_assoc, and_left_comm, and_comm]

end MessageTable

end ProtoSchema
