import ProtoSchema.Catalog.Load
import ProtoSchema.Proofs.Table.Fields
import ProtoSchema.Proofs.Value.Calls

/-!
# Members of oneofs

Setting a member of a oneof unsets the others.  In a type whose fields have
different numbers it unsets all of them and nothing else
(`Message.IsOrdered.stored?_assign`).  Appending an item to a member that is
repeated unsets nothing.  So of the members that hold a single value at most one is
set, and this is what calls keep (`Message.KeepsOneofs.does`).

Members may be repeated: nothing that is checked when a set is loaded rules it out.
-/

namespace ProtoSchema

/-- Whether two fields are members of one oneof. -/
def FieldTable.SharesOneof (a b : FieldTable) : Prop := a.oneof.isSome = true ∧ a.oneof = b.oneof

namespace FieldTable.SharesOneof

variable {a b c : FieldTable}

instance (a b : FieldTable) : Decidable (a.SharesOneof b) :=
  inferInstanceAs (Decidable (a.oneof.isSome = true ∧ a.oneof = b.oneof))

theorem symm (h : a.SharesOneof b) : b.SharesOneof a := ⟨h.2 ▸ h.1, h.2.symm⟩

theorem trans (hab : a.SharesOneof b) (hbc : b.SharesOneof c) : a.SharesOneof c :=
  ⟨hab.1, hab.2.trans hbc.2⟩

end FieldTable.SharesOneof

namespace Message

variable {message : Message}

/-- The numbers of the other members of the oneof of a field. -/
theorem mem_siblings {field : FieldTable} {number : Nat} :
    number ∈ message.siblings field ↔ ∃ other ∈ message.type.fields,
      field.SharesOneof other ∧ other.number ≠ field.number ∧ other.number = number := by
  unfold siblings FieldTable.SharesOneof
  cases field.oneof with
  | none =>
    refine iff_of_false List.not_mem_nil ?_
    rintro ⟨other, -, ⟨hsome, -⟩, -⟩
    cases hsome
  | some oneof =>
    simp only [List.mem_map, List.mem_filter, Bool.and_eq_true, beq_iff_eq, bne_iff_ne, and_assoc,
      Option.isSome_some, true_and]
    exact exists_congr fun other => and_congr_right fun _ => and_congr_left fun _ => eq_comm

/-- What is stored after a field is assigned: the new value, nothing for the other
members of its oneof, and what was stored before for any other field. -/
theorem IsOrdered.stored?_assign (h : message.IsOrdered)
    (hnumbers : message.type.NumbersFieldsOnce) {table field : FieldTable}
    (htable : table ∈ message.type.fields) (hfield : field ∈ message.type.fields) (value : Value) :
    (message.assign table value).stored? field.number =
      if field = table then some value
      else if table.SharesOneof field then none
      else message.stored? field.number := by
  rw [Message.assign, stored?_store, h.stored?_foldl_drop]
  by_cases hsame : field = table
  · rw [if_pos hsame, if_pos (congrArg FieldTable.number hsame)]
  · have hnumber : field.number ≠ table.number := fun heq => hsame (hnumbers.eq hfield htable heq)
    rw [if_neg hsame, if_neg hnumber]
    by_cases hshares : table.SharesOneof field
    · rw [if_pos hshares, if_pos (mem_siblings.mpr ⟨field, hfield, hshares, hnumber, rfl⟩)]
    · rw [if_neg hshares, if_neg]
      intro hmem
      obtain ⟨other, hother, hotherShares, -, heq⟩ := mem_siblings.mp hmem
      rw [hnumbers.eq hother hfield heq] at hotherShares
      exact hshares hotherShares

/-- Whether of the members of each oneof that hold a single value at most one is
set. -/
def KeepsOneofs (message : Message) : Prop :=
  ∀ a ∈ message.type.fields, ∀ b ∈ message.type.fields, a.SharesOneof b →
    a.isRepeated = false → b.isRepeated = false →
    (message.stored? a.number).isSome = true → (message.stored? b.number).isSome = true → a = b

theorem keepsOneofs_empty (type : MessageTable) : (empty type).KeepsOneofs := by
  intro a _ b _ _ _ _ hstored
  cases hstored

namespace KeepsOneofs

/-- Unsetting fields, and setting repeated ones, keeps at most one member set. -/
theorem of_stored (h : message.KeepsOneofs) {changed : Message}
    (htype : changed.type = message.type)
    (hstored : ∀ field ∈ message.type.fields, field.isRepeated = false →
      (changed.stored? field.number).isSome = true →
        (message.stored? field.number).isSome = true) : changed.KeepsOneofs := by
  intro a ha b hb hshares hsingleA hsingleB hsetA hsetB
  rw [htype] at ha hb
  exact h a ha b hb hshares hsingleA hsingleB (hstored a ha hsingleA hsetA)
    (hstored b hb hsingleB hsetB)

/-- Assigning a field leaves no other member of its oneof set. -/
theorem assign (h : message.KeepsOneofs) (hordered : message.IsOrdered)
    (hnumbers : message.type.NumbersFieldsOnce) {table : FieldTable}
    (htable : table ∈ message.type.fields) (value : Value) :
    (message.assign table value).KeepsOneofs := by
  intro a ha b hb hshares hsingleA hsingleB hsetA hsetB
  rw [type_assign] at ha hb
  rw [hordered.stored?_assign hnumbers htable ha] at hsetA
  rw [hordered.stored?_assign hnumbers htable hb] at hsetB
  have hother : ∀ field, table.SharesOneof field → field ≠ table →
      (if field = table then some value
        else if table.SharesOneof field then none
        else message.stored? field.number).isSome ≠ true := by
    intro field hfieldShares hne
    rw [if_neg hne, if_pos hfieldShares]
    exact Bool.false_ne_true
  by_cases hA : table.SharesOneof a
  · have hsameA : a = table := by
      by_contra hne
      exact hother a hA hne hsetA
    have hsameB : b = table := by
      by_contra hne
      exact hother b (hA.trans hshares) hne hsetB
    rw [hsameA, hsameB]
  · have hB : ¬ table.SharesOneof b := fun hB => hA (hB.trans hshares.symm)
    have hneA : a ≠ table := by
      rintro rfl
      exact hA ⟨hshares.1, rfl⟩
    have hneB : b ≠ table := by
      rintro rfl
      exact hB ⟨hshares.symm.1, rfl⟩
    rw [if_neg hneA, if_neg hA] at hsetA
    rw [if_neg hneB, if_neg hB] at hsetB
    exact h a ha b hb hshares hsingleA hsingleB hsetA hsetB

theorem does {changed : Message} {call : Call} (h : message.KeepsOneofs)
    (hordered : message.IsOrdered) (hnumbers : message.type.NumbersFieldsOnce)
    (hdoes : message.Does call changed) : changed.KeepsOneofs := by
  induction hdoes with
  | set htable _ => exact h.assign hordered hnumbers (MessageTable.mem_of_field? htable).1 _
  | @push field value table htable hrepeated haccepts =>
    refine h.of_stored rfl fun other hother hsingle hset => ?_
    have hnumber : other.number ≠ table.number := by
      intro heq
      rw [hnumbers.eq hother (MessageTable.mem_of_field? htable).1 heq, hrepeated] at hsingle
      cases hsingle
    rwa [stored?_store, if_neg hnumber] at hset
  | setEnumByName _ _ _ _ ih => exact ih
  | clear _ =>
    refine h.of_stored rfl fun other hother hsingle hset => ?_
    rw [hordered.stored?_drop] at hset
    split at hset
    · cases hset
    · exact hset

/-- Calls keep at most one member set. -/
theorem run (h : message.KeepsOneofs) (hordered : message.IsOrdered)
    (hnumbers : message.type.NumbersFieldsOnce) (calls : List Call) :
    (message.run calls).KeepsOneofs := by
  have hboth : (message.run calls).IsOrdered ∧ (message.run calls).KeepsOneofs := by
    refine run_induction (P := fun current => current.IsOrdered ∧ current.KeepsOneofs) calls
      ⟨hordered, h⟩ fun current changed call _ htype hcurrent hdoes => ?_
    refine ⟨hdoes.isOrdered hcurrent.1, hcurrent.2.does hcurrent.1 ?_ hdoes⟩
    rw [htype]
    exact hnumbers
  exact hboth.2

end KeepsOneofs

end Message

/-! ## Messages of loaded types -/

namespace Catalog

/-- A new message is empty. -/
theorem newMessage_eq_ok {catalog : Catalog} {name : String} {message : Message}
    (h : catalog.newMessage name = .ok message) : ∃ type, message = .empty type := by
  unfold newMessage at h
  split at h
  · cases h
    exact ⟨_, rfl⟩
  · cases h

/-- What is computed about the new messages after a load. -/
theorem exists_newMessage {catalog : Catalog} {set : FileSet} (name : String)
    (check : Message → Bool)
    (h : (catalog.load set).toOption.any (fun loaded =>
      (loaded.catalog.newMessage name).toOption.any check) = true) :
    ∃ loaded message, catalog.load set = .ok loaded ∧
      loaded.catalog.newMessage name = .ok message ∧ check message = true := by
  cases hload : catalog.load set with
  | error failure =>
    rw [hload] at h
    cases h
  | ok loaded =>
    rw [hload] at h
    cases hnew : loaded.catalog.newMessage name with
    | error failure =>
      simp only [Except.toOption, Option.any_some, hnew] at h
      cases h
    | ok message =>
      simp only [Except.toOption, Option.any_some, hnew] at h
      exact ⟨loaded, message, rfl, hnew, h⟩

/-- In a message of a loaded type, of the members of a oneof that hold a single value
at most one is set. -/
theorem keepsOneofs_run {catalog : Catalog} {name : String} {message : Message}
    (hnew : catalog.newMessage name = .ok message) (hnumbers : message.type.NumbersFieldsOnce)
    (calls : List Call) : (message.run calls).KeepsOneofs := by
  obtain ⟨type, rfl⟩ := newMessage_eq_ok hnew
  exact (Message.keepsOneofs_empty type).run (.empty type) hnumbers calls

/-- A member that is set takes the place of another one, and a repeated one stays. -/
theorem keepsOneofs_run_members :
    let set : FileSet := ⟨[
      { name := some "m.proto"
        messages := [
          { name := some "M"
            fields := [
              { name := some "a", number := some 1, label := some 1, type := some 9
                oneofIndex := some 0 },
              { name := some "b", number := some 2, label := some 1, type := some 9
                oneofIndex := some 0 },
              { name := some "c", number := some 3, label := some 3, type := some 9
                oneofIndex := some 0 }]
            oneofs := [{ name := some "o" }] }] }]⟩
    let calls : List Call := [.set "a" (.atom (.text "x")), .set "b" (.atom (.text "y")),
      .push "c" (.atom (.text "z"))]
    ∃ loaded message, ({} : Catalog).load set = .ok loaded ∧
      loaded.catalog.newMessage "M" = .ok message ∧
      (message.run calls).fields.map (fun entry => entry.1.name) = ["b", "c"] ∧
      (message.run calls).KeepsOneofs := by
  intro set calls
  obtain ⟨loaded, message, hload, hnew, hcheck⟩ := exists_newMessage "M"
    (fun message => decide (message.type.NumbersFieldsOnce ∧
      (message.run calls).fields.map (fun entry => entry.1.name) = ["b", "c"]))
    (by decide +kernel : (({} : Catalog).load set).toOption.any _ = true)
  obtain ⟨hnumbers, hset⟩ := of_decide_eq_true hcheck
  exact ⟨loaded, message, hload, hnew, hset, keepsOneofs_run hnew hnumbers calls⟩

/-- An item that is appended to a repeated member leaves another member set. -/
theorem exists_stored_members :
    let set : FileSet := ⟨[
      { name := some "m.proto"
        messages := [
          { name := some "M"
            fields := [
              { name := some "a", number := some 1, label := some 1, type := some 9
                oneofIndex := some 0 },
              { name := some "b", number := some 2, label := some 3, type := some 9
                oneofIndex := some 0 }]
            oneofs := [{ name := some "o" }] }] }]⟩
    let calls : List Call := [.set "a" (.atom (.text "x")), .push "b" (.atom (.text "y"))]
    ∃ loaded message, ({} : Catalog).load set = .ok loaded ∧
      loaded.catalog.newMessage "M" = .ok message ∧ message.type.NumbersFieldsOnce ∧
      ∃ a ∈ message.type.fields, ∃ b ∈ message.type.fields,
        a.SharesOneof b ∧ a.number ≠ b.number ∧
        ((message.run calls).stored? a.number).isSome = true ∧
        ((message.run calls).stored? b.number).isSome = true := by
  intro set calls
  obtain ⟨loaded, message, hload, hnew, hcheck⟩ := exists_newMessage "M"
    (fun message => decide (message.type.NumbersFieldsOnce ∧
      ∃ a ∈ message.type.fields, ∃ b ∈ message.type.fields,
        a.SharesOneof b ∧ a.number ≠ b.number ∧
        ((message.run calls).stored? a.number).isSome = true ∧
        ((message.run calls).stored? b.number).isSome = true))
    (by decide +kernel : (({} : Catalog).load set).toOption.any _ = true)
  exact ⟨loaded, message, hload, hnew, of_decide_eq_true hcheck⟩

end Catalog

end ProtoSchema
