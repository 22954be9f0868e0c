import ProtoSchema.Proofs.Value.Oneofs

/-!
# What a write leaves alone

A value is stored under the number of its field, and a field is found by its name.  In a
type whose fields have different numbers a write to one field therefore leaves what is
stored for another one as it is.  Only the members of one oneof make room for each other
(`MessageTable.NumbersFieldsOnce.keepsFieldsApart`).

When two fields share a number they share what is stored.
-/

namespace ProtoSchema

/-- Whether every write to a field of a message of some type leaves the other fields
alone, except for those in one oneof with it. -/
structure MessageTable.KeepsFieldsApart (type : MessageTable) : Prop where
  /-- A call on a field. -/
  after : ∀ message : Message, message.type = type → message.IsOrdered → ∀ call : Call,
    ∀ other ∈ type.fields, other.name ≠ call.field →
      (∀ field, type.field? call.field = some field → ¬ field.SharesOneof other) →
        (message.after call).stored? other.number = message.stored? other.number
  /-- A value that is put in the place of another one. -/
  replace : ∀ message changed : Message, message.type = type →
    ∀ (field : String) (value : Value), message.replace field value = .ok (some changed) →
      ∀ other ∈ type.fields, other.name ≠ field →
        changed.stored? other.number = message.stored? other.number

namespace Message

variable {message changed : Message}

/-- A call leaves alone what it is not about. -/
theorem Does.stored?_of_ne {call : Call} (h : message.Does call changed)
    (hordered : message.IsOrdered) (hnumbers : message.type.NumbersFieldsOnce)
    {other : FieldTable} (hother : other ∈ message.type.fields) (hname : other.name ≠ call.field)
    (hshares : ∀ field, message.type.field? call.field = some field →
      ¬ field.SharesOneof other) :
    changed.stored? other.number = message.stored? other.number := by
  have hnumber : ∀ table, message.type.field? call.field = some table →
      other.number ≠ table.number := by
    intro table htable heq
    obtain ⟨hmem, hfound⟩ := MessageTable.mem_of_field? htable
    rw [hnumbers.eq hother hmem heq] at hname
    exact hname hfound
  induction h with
  | @set field value table htable hfits =>
    have hne : other ≠ table := fun heq => hnumber table htable (by rw [heq])
    rw [hordered.stored?_assign hnumbers (MessageTable.mem_of_field? htable).1 hother, if_neg hne,
      if_neg (hshares table htable)]
  | push htable _ _ => rw [stored?_store, if_neg (hnumber _ htable)]
  | setEnumByName _ _ _ _ ih => exact ih hname hshares hnumber
  | clear htable => rw [hordered.stored?_drop, if_neg (hnumber _ htable)]

end Message

/-- When numbers tell fields apart, so do writes. -/
theorem MessageTable.NumbersFieldsOnce.keepsFieldsApart {type : MessageTable}
    (h : type.NumbersFieldsOnce) : type.KeepsFieldsApart where
  after := by
    rintro message rfl hordered call other hother hname hshares
    rcases message.does_or_eq call with hdoes | hsame
    · exact hdoes.stored?_of_ne hordered h hother hname hshares
    · rw [hsame]
  replace := by
    rintro message changed rfl field value hreplace other hother hname
    obtain ⟨table, htable, hstored⟩ := map_eq_ok.mp hreplace
    obtain ⟨_, -, rfl⟩ := Option.map_eq_some_iff.mp hstored
    obtain ⟨hmem, hfound⟩ := mem_of_field? (Message.fieldTable_eq_ok.mp htable)
    have hnumber : other.number ≠ table.number := by
      intro heq
      rw [h.eq hother hmem heq] at hname
      exact hname hfound
    rw [Message.stored?_store, if_neg hnumber]

end ProtoSchema
