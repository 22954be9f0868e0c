import ProtoSchema.Proofs.Wire.Sequences

/-!
# The order of records

A field of a message is read from its own payload and put into the message read so far.
`FieldReader.Puts` keeps the two apart: whether a payload is accepted, and which value it
stands for, does not depend on the message.  Two fields that put their values in different
places may therefore change places, as long as both are accepted
(`FieldReader.Puts.independent`).  If one is refused, it matters which comes first.

A table has independent fields when this holds of any two of them.  Records of two fields
may then change places in the middle of other bytes (`readRecords_swap`), and a record of a
field that is not known may be left out (`readRecords_skip`).
-/

namespace ProtoSchema

variable {α β γ : Type}

/-! ## Independent fields -/

/-- How a field that accepts a payload puts the value that it stands for into the message
read so far. -/
inductive FieldReader.Puts : {β : Type} → FieldReader α → (α → β → α) → Prop
  | number (put : α → Nat → α) : Puts (.number put) put
  | parsed {β : Type} (parse : List UInt8 → Except DecodeError β) (put : α → β → α) :
    Puts (.bytes fun acc chunk => (parse chunk).map (put acc)) put

namespace FieldReader

/-- What a field does with a payload, whatever was read so far. -/
theorem Puts.store_eq {field : FieldReader α} {put : α → β → α} (h : field.Puts put)
    (payload : Payload) :
    (∃ value, ∀ acc, field.store acc payload = .ok (put acc value)) ∨
      ∃ e, ∀ acc, field.store acc payload = .error e := by
  cases h with
  | number put =>
    cases payload with
    | varint n => exact .inl ⟨n, fun _ => rfl⟩
    | fixed64 _ | chunk _ | fixed32 _ => exact .inr ⟨_, fun _ => rfl⟩
  | parsed parse put =>
    cases payload with
    | chunk chunk =>
      cases hparse : parse chunk with
      | ok value => exact .inl ⟨value, fun acc => congrArg (Except.map (put acc)) hparse⟩
      | error e => exact .inr ⟨e, fun acc => congrArg (Except.map (put acc)) hparse⟩
    | varint _ | fixed64 _ | fixed32 _ => exact .inr ⟨_, fun _ => rfl⟩

/-- Whether payloads that two fields accept may be stored in either order. -/
def Independent (first second : FieldReader α) : Prop :=
  ∀ acc p q, (∃ blank a, first.store blank p = .ok a) → (∃ blank b, second.store blank q = .ok b) →
    (first.store acc p >>= fun acc => second.store acc q) =
      second.store acc q >>= fun acc => first.store acc p

theorem Puts.independent {first second : FieldReader α} {put : α → β → α} {put' : α → γ → α}
    (hfirst : first.Puts put) (hsecond : second.Puts put')
    (hcomm : ∀ acc x y, put' (put acc x) y = put (put' acc y) x) : first.Independent second := by
  rintro acc p q ⟨blank, a, ha⟩ ⟨blank', b, hb⟩
  obtain ⟨x, hx⟩ | ⟨e, he⟩ := hfirst.store_eq p
  · obtain ⟨y, hy⟩ | ⟨e, he⟩ := hsecond.store_eq q
    · rw [hx, hy]
      show second.store (put acc x) q = first.store (put' acc y) p
      rw [hx, hy, hcomm]
    · rw [he] at hb
      cases hb
  · rw [he] at ha
    cases ha

/-- A change to the message that leaves the place of a field alone, or makes room for what
is put there, is not noticed by the field. -/
theorem Puts.commutes {field : FieldReader α} {put : α → β → α} (h : field.Puts put) {f : α → α}
    (hput : ∀ acc value, put (f acc) value = f (put acc value)) : field.Commutes f := by
  intro acc payload
  rcases h.store_eq payload with ⟨value, hvalue⟩ | ⟨e, he⟩
  · rw [hvalue, hvalue, hput]
    rfl
  · rw [he, he]
    rfl

end FieldReader

/-- Whether any two fields of a table are independent. -/
def HasIndependentFields (fields : Nat → Option (FieldReader α)) : Prop :=
  ∀ m n first second, fields m = some first → fields n = some second → m ≠ n →
    first.Independent second

/-! ## Records -/

section Records

variable {fields : Nat → Option (FieldReader α)}

/-- A record of a field that is not known changes nothing. -/
theorem WireRecord.store_of_unknown {record : WireRecord}
    (h : fields (record.number % UInt32.size) = none) (acc : α) :
    record.store fields acc = .ok acc := by
  rw [WireRecord.store, h]

theorem WireRecord.store_comm (hfields : HasIndependentFields fields) {first second : WireRecord}
    (hne : first.number % UInt32.size ≠ second.number % UInt32.size) {blank a b : α}
    (hfirst : first.store fields blank = .ok a) (hsecond : second.store fields blank = .ok b)
    (acc : α) :
    (first.store fields acc >>= fun acc => second.store fields acc) =
      second.store fields acc >>= fun acc => first.store fields acc := by
  -- A record of an unknown field stores nothing, so only two known fields can disagree.
  cases hf : fields (first.number % UInt32.size) with
  | none =>
    simp only [WireRecord.store_of_unknown hf]
    exact (bind_pure (second.store fields acc)).symm
  | some field =>
    cases hs : fields (second.number % UInt32.size) with
    | none =>
      simp only [WireRecord.store_of_unknown hs]
      exact bind_pure (first.store fields acc)
    | some field' =>
      simp only [WireRecord.store, hf, hs] at hfirst hsecond ⊢
      exact hfields _ _ field field' hf hs hne acc _ _ ⟨blank, a, hfirst⟩ ⟨blank, b, hsecond⟩

/-! ## Bytes -/

/-- A record of a field that is not known may be left out. -/
theorem readRecords_skip {record : WireRecord} {u : List UInt8} (hu : record.Spelled u)
    (hunknown : fields (record.number % UInt32.size) = none) {acc acc' : α} {a : List UInt8}
    (ha : readRecords fields acc a = .ok acc') (b : List UInt8) :
    readRecords fields acc (a ++ u ++ b) = readRecords fields acc (a ++ b) := by
  rw [List.append_assoc, readRecords_append_of_ok ha, readRecords_append_of_ok ha,
    readRecords_of_spelled hu, WireRecord.store_of_unknown hunknown]
  rfl

/-- Records of two fields that are accepted alone may change places. -/
theorem readRecords_swap (hfields : HasIndependentFields fields) {first second : WireRecord}
    {r s : List UInt8} (hr : first.Spelled r) (hs : second.Spelled s)
    (hne : first.number % UInt32.size ≠ second.number % UInt32.size) {blank x y : α}
    (hx : readRecords fields blank r = .ok x) (hy : readRecords fields blank s = .ok y)
    {acc acc' : α} {a : List UInt8} (ha : readRecords fields acc a = .ok acc') (b : List UInt8) :
    readRecords fields acc (a ++ r ++ s ++ b) = readRecords fields acc (a ++ s ++ r ++ b) := by
  rw [readRecords_eq_store hr] at hx
  rw [readRecords_eq_store hs] at hy
  have hcomm := WireRecord.store_comm hfields hne hx hy acc'
  simp only [List.append_assoc, readRecords_append_of_ok ha, readRecords_of_spelled hr,
    readRecords_of_spelled hs]
  rw [← bind_assoc, hcomm, bind_assoc]

end Records

end ProtoSchema
