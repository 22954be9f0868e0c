import Mathlib.Data.List.Forall2
import ProtoSchema.Proofs.Wire.Grammar
import ProtoSchema.Proofs.Wire.Streaming

/-!
# Sequences of records

Bytes that are read to the end are the spellings of some records, one after the other
(`exists_spelled_of_readRecords`), and each record does its part in turn
(`readRecords_of_spelled`).

When such bytes are cut off, the cut is between two records or inside one.  Inside a
record the reader runs out of bytes, and this is the only fault it can have
(`readRecords_of_cut`).

A change to the message that no field notices may be made before reading or after it
(`readRecords_map`).
-/

namespace ProtoSchema

variable {α : Type} {fields : Nat → Option (FieldReader α)}

theorem WireRecord.Spelled.ne_nil {record : WireRecord} {bytes : List UInt8}
    (h : record.Spelled bytes) : bytes ≠ [] := by
  obtain ⟨key, payload, rfl, hkey, -⟩ := h
  have hpos := hkey.spells.length_pos
  intro hnil
  rw [List.append_eq_nil_iff] at hnil
  rw [hnil.1] at hpos
  cases hpos

/-- A record does its part, and the loop goes on with what was read then. -/
theorem readRecords_of_spelled {record : WireRecord} {bytes : List UInt8}
    (h : record.Spelled bytes) (acc : α) (rest : List UInt8) :
    readRecords fields acc (bytes ++ rest) =
      record.store fields acc >>= fun acc => readRecords fields acc rest := by
  have hread := readRecord_of_spelled h fields acc rest
  cases hstore : record.store fields acc with
  | error e =>
    rw [hstore] at hread
    exact readRecords_of_error (by simp [h.ne_nil]) hread
  | ok acc' =>
    rw [hstore] at hread
    exact readRecords_of_readRecord hread

/-- Reading a record alone is what the record does. -/
theorem readRecords_eq_store {record : WireRecord} {bytes : List UInt8}
    (h : record.Spelled bytes) (acc : α) :
    readRecords fields acc bytes = record.store fields acc := by
  have hread : readRecords fields acc (bytes ++ []) = _ := readRecords_of_spelled h acc []
  simp only [List.append_nil, readRecords_nil] at hread
  rw [hread]
  cases record.store fields acc <;> rfl

/-- Bytes that are read to the end are spelled records, one after the other. -/
theorem exists_spelled_of_readRecords {acc acc' : α} {bytes : List UInt8}
    (h : readRecords fields acc bytes = .ok acc') :
    ∃ records parts, List.Forall₂ WireRecord.Spelled records parts ∧ parts.flatten = bytes := by
  fun_induction readRecords fields acc bytes with
  | case1 acc bytes hempty => exact ⟨[], [], .nil, (List.isEmpty_iff.mp hempty).symm⟩
  | case2 acc bytes hempty e hfirst => cases h
  | case3 acc bytes hempty acc₁ rest hfirst ih =>
    obtain ⟨records, parts, hall, rfl⟩ := ih h
    obtain ⟨record, taken, rfl, hspelled, -⟩ := exists_spelled_of_readRecord hfirst
    exact ⟨record :: records, taken :: parts, .cons hspelled hall, rfl⟩

/-- Records that are cut off inside one of them end too early. -/
theorem readRecords_of_cut {records : List WireRecord} {parts : List (List UInt8)}
    (hall : List.Forall₂ WireRecord.Spelled records parts) {acc acc' : α}
    (h : readRecords fields acc parts.flatten = .ok acc') {cut : List UInt8}
    (hcut : cut <+: parts.flatten) (hinside : ∀ k, cut ≠ (parts.take k).flatten) :
    readRecords fields acc cut = .error .unexpectedEnd := by
  induction hall generalizing acc cut with
  | nil => exact absurd (List.prefix_nil.mp hcut) (hinside 0)
  | @cons record part records parts hspelled _ ih =>
    rw [List.flatten_cons] at h hcut
    have hstored : readRecords fields acc (part ++ parts.flatten) = _ :=
      readRecords_of_spelled hspelled acc parts.flatten
    cases hstore : record.store fields acc with
    | error e =>
      rw [hstored, hstore] at h
      cases h
    | ok acc₁ =>
      by_cases hshort : cut.length < part.length
      · -- The cut is inside the first record.
        obtain ⟨more, hmore⟩ := hcut
        refine readRecords_of_error (hinside 0) ?_
        have hread := readRecord_of_spelled hspelled fields acc parts.flatten
        rw [hstore, ← hmore] at hread
        refine (readRecord_isStreaming fields acc).unexpectedEnd_of_append hread ?_
        have hlen := congrArg List.length hmore
        rw [List.length_append, List.length_append] at hlen
        omega
      · obtain ⟨later, rfl⟩ := List.prefix_of_prefix_length_le (List.prefix_append part _) hcut
          (by omega)
        rw [hstored, hstore] at h
        rw [readRecords_of_spelled hspelled, hstore]
        refine ih h ((List.prefix_append_right_inj part).mp hcut) fun k hk => hinside (k + 1) ?_
        rw [hk]
        rfl

/-! ## Changes that no field notices -/

/-- Whether a change to the message may be made before the field is stored or after it. -/
def FieldReader.Commutes (field : FieldReader α) (f : α → α) : Prop :=
  ∀ acc payload, field.store (f acc) payload = (field.store acc payload).map f

theorem FieldReader.Commutes.readPayload {field : FieldReader α} {f : α → α}
    (h : field.Commutes f) (acc : α) (bytes : List UInt8) :
    field.readPayload (f acc) bytes =
      (field.readPayload acc bytes).map fun (acc, rest) => (f acc, rest) := by
  cases field with
  | number store =>
    unfold FieldReader.readPayload
    cases Varint.read bytes with
    | error e => rfl
    | ok found =>
      have hstore : store (f acc) found.1 = f (store acc found.1) :=
        Except.ok.inj (h acc (.varint found.1))
      exact congrArg (fun acc => Except.ok (acc, found.2)) hstore
  | bytes store =>
    unfold FieldReader.readPayload
    cases readChunk bytes with
    | error e => rfl
    | ok found =>
      have hstore : store (f acc) found.1 = (store acc found.1).map f := h acc (.chunk found.1)
      simp only [hstore]
      cases store acc found.1 <;> rfl

theorem readRecord_map {f : α → α} (hfields : ∀ n field, fields n = some field → field.Commutes f)
    (acc : α) (bytes : List UInt8) :
    readRecord fields (f acc) bytes =
      (readRecord fields acc bytes).map fun (acc, rest) => (f acc, rest) := by
  unfold readRecord
  cases Key.read bytes with
  | error e => rfl
  | ok found =>
    obtain ⟨key, rest⟩ := found
    simp only
    cases hfield : fields key.number with
    | none => cases skipPayload key.wireType rest <;> rfl
    | some field =>
      simp only
      split
      · exact (hfields _ field hfield).readPayload acc rest
      · rfl

/-- What no field notices is not noticed by reading. -/
theorem readRecords_map {f : α → α}
    (hfields : ∀ n field, fields n = some field → field.Commutes f) (acc : α)
    (bytes : List UInt8) :
    readRecords fields (f acc) bytes = (readRecords fields acc bytes).map f := by
  fun_induction readRecords fields acc bytes with
  | case1 acc bytes hempty =>
    rw [List.isEmpty_iff.mp hempty, readRecords_nil]
    rfl
  | case2 acc bytes hempty e hfirst =>
    rw [List.isEmpty_iff] at hempty
    refine readRecords_of_error hempty ?_
    rw [readRecord_map hfields, hfirst]
    rfl
  | case3 acc bytes hempty acc' rest hfirst ih =>
    have hmap : readRecord fields (f acc) bytes = .ok (f acc', rest) := by
      rw [readRecord_map hfields, hfirst]
      rfl
    rw [readRecords_of_readRecord hmap, ih]

/-- Bytes after others do as they do alone, when they do not notice what was read before. -/
theorem readRecords_append_map {f : α → α}
    (hfields : ∀ n field, fields n = some field → field.Commutes f) {acc : α} {bytes : List UInt8}
    (h : readRecords fields acc bytes = .ok (f acc)) (more : List UInt8) :
    readRecords fields acc (bytes ++ more) = (readRecords fields acc more).map f := by
  rw [readRecords_append_of_ok h, readRecords_map hfields]

end ProtoSchema
