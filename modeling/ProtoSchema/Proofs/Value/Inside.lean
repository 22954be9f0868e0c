import ProtoSchema.Proofs.Value.Calls
import ProtoSchema.Value.Place

/-!
# Messages inside messages

A message is somewhere in a value when the value is the message, or holds it in an
item of a list or in a field, at any depth (`Value.Holds`, `Message.Holds`).  What
holds everywhere in a message holds of the message and everywhere in the values
that it stores (`Message.everywhere_iff`).

A call can be made on a message inside another one (`PlacedCall`).  The message at
a place is somewhere in the message that the place is in
(`Message.holds_of_viewAt`).
-/

namespace ProtoSchema

mutual

/-- A message that is somewhere in a value. -/
inductive Value.Holds : Value → Message → Prop where
  | message {message inner : Message} :
    Message.Holds message inner → Value.Holds (.message message) inner
  | item {items : List Value} {item : Value} {inner : Message} :
    item ∈ items → Value.Holds item inner → Value.Holds (.list items) inner

/-- A message that is another or is somewhere inside it. -/
inductive Message.Holds : Message → Message → Prop where
  | self (message : Message) : Message.Holds message message
  | entry {message inner : Message} {entry : Nat × Value} :
    entry ∈ message.entries → Value.Holds entry.2 inner → Message.Holds message inner

end

/-- Whether something holds of every message in a value. -/
def Value.Everywhere (P : Message → Prop) (value : Value) : Prop :=
  ∀ inner, value.Holds inner → P inner

/-- Whether something holds of a message and of every message inside it. -/
def Message.Everywhere (P : Message → Prop) (message : Message) : Prop :=
  ∀ inner, message.Holds inner → P inner

section

variable {P : Message → Prop}

theorem Value.everywhere_atom (atom : Atom) : (Value.atom atom).Everywhere P := by
  intro inner h
  cases h

theorem Value.everywhere_message {message : Message} :
    (Value.message message).Everywhere P ↔ message.Everywhere P := by
  constructor
  · intro h inner hinner
    exact h inner (.message hinner)
  · intro h inner hinner
    cases hinner with
    | message hinner => exact h inner hinner

theorem Value.everywhere_list {items : List Value} :
    (Value.list items).Everywhere P ↔ ∀ item ∈ items, item.Everywhere P := by
  constructor
  · intro h item hitem inner hinner
    exact h inner (.item hitem hinner)
  · intro h inner hinner
    cases hinner with
    | item hitem hinner => exact h _ hitem inner hinner

theorem Message.everywhere_iff {message : Message} :
    message.Everywhere P ↔ P message ∧ ∀ entry ∈ message.entries, entry.2.Everywhere P := by
  constructor
  · intro h
    exact ⟨h message (.self message), fun entry hentry inner hinner =>
      h inner (.entry hentry hinner)⟩
  · rintro ⟨hself, hentries⟩ inner hinner
    cases hinner with
    | self => exact hself
    | entry hentry hinner => exact hentries _ hentry inner hinner

theorem Value.Everywhere.asEnumItem {value : Value} (h : value.Everywhere P) :
    value.asEnumItem.Everywhere P := by
  unfold Value.asEnumItem
  split
  · exact Value.everywhere_atom _
  · exact h

/-- A value as a field takes it holds the same messages. -/
theorem Value.Everywhere.coerce {value : Value} (h : value.Everywhere P) (content : Content) :
    (content.coerce value).Everywhere P := by
  unfold Content.coerce
  split
  · rw [Value.everywhere_list] at h ⊢
    intro item hitem
    obtain ⟨original, horiginal, rfl⟩ := List.mem_map.mp hitem
    exact (h original horiginal).asEnumItem
  · exact h.asEnumItem
  · exact h

/-! ## What is stored -/

namespace Message

variable {message : Message}

theorem Everywhere.self (h : message.Everywhere P) : P message := (everywhere_iff.mp h).1

theorem Everywhere.stored? (h : message.Everywhere P) {number : Nat} {value : Value}
    (hvalue : message.stored? number = some value) : value.Everywhere P :=
  (everywhere_iff.mp h).2 _ (Ascending.mem_of_find?_eq_some hvalue)

theorem Everywhere.itemsAt (h : message.Everywhere P) (number : Nat) :
    ∀ item ∈ message.itemsAt number, item.Everywhere P := by
  unfold Message.itemsAt
  split
  · next items hstored => exact Value.everywhere_list.mp (h.stored? hstored)
  · intro item hitem
    cases hitem

/-- Storing a value adds what is in it. -/
theorem Everywhere.store (h : message.Everywhere P) {number : Nat} {value : Value}
    (hvalue : value.Everywhere P) (hself : P (message.store number value)) :
    (message.store number value).Everywhere P := by
  refine everywhere_iff.mpr ⟨hself, fun entry hentry => ?_⟩
  rcases mem_entries_store hentry with rfl | hentry
  · exact hvalue
  · exact (everywhere_iff.mp h).2 entry hentry

end Message

/-! ## Calls -/

/-- Whether something holds of every message that is passed to a call. -/
def Call.Everywhere (P : Message → Prop) : Call → Prop
  | .set _ value => value.Everywhere P
  | .push _ value => value.Everywhere P
  | .setEnumByName _ _ => True
  | .clear _ => True

theorem Call.Everywhere.imp {Q : Message → Prop} {call : Call} (h : call.Everywhere P)
    (hPQ : ∀ inner, P inner → Q inner) : call.Everywhere Q := by
  cases call with
  | set field value => exact fun inner hinner => hPQ inner (h inner hinner)
  | push field value => exact fun inner hinner => hPQ inner (h inner hinner)
  | setEnumByName field valueName => trivial
  | clear field => trivial

/-- A call that does something puts nothing into a message but what is passed to
it. -/
theorem Message.Does.everywhere {message changed : Message} {call : Call}
    (h : message.Does call changed) (hmessage : message.Everywhere P) (hcall : call.Everywhere P)
    (hself : P changed) : changed.Everywhere P := by
  induction h with
  | set _ _ =>
    refine everywhere_iff.mpr ⟨hself, fun entry hentry => ?_⟩
    rcases mem_entries_assign hentry with rfl | hentry
    · exact hcall.coerce _
    · exact (everywhere_iff.mp hmessage).2 entry hentry
  | push _ _ _ =>
    refine hmessage.store (Value.everywhere_list.mpr fun item hitem => ?_) hself
    rcases List.mem_append.mp hitem with hitem | hitem
    · exact hmessage.itemsAt _ item hitem
    · rw [List.mem_singleton.mp hitem]
      exact hcall.coerce _
  | setEnumByName _ _ _ _ ih => exact ih (Value.everywhere_atom _) hself
  | clear _ =>
    refine everywhere_iff.mpr ⟨hself, fun entry hentry => ?_⟩
    exact (everywhere_iff.mp hmessage).2 entry ((entries_drop_sublist _).mem hentry)

end

/-! ## Places -/

/-- What editing the message at the end of a path does to a value. -/
inductive Value.EditsAt {β : Type} (edit : Message → β × Message) :
    List Step → Value → β → Value → Prop where
  | here (message : Message) :
    EditsAt edit [] (.message message) (edit message).1 (.message (edit message).2)
  | field {name : String} {path : List Step} {message : Message} {table : FieldTable}
      {value changed : Value} {answer : β} :
    message.type.field? name = some table →
    message.stored? table.number = some value →
    EditsAt edit path value answer changed →
    EditsAt edit (.field name :: path) (.message message) answer
      (.message (message.store table.number changed))
  | item {index : Nat} {path : List Step} {items : List Value} {item changed : Value}
      {answer : β} :
    items[index]? = some item →
    EditsAt edit path item answer changed →
    EditsAt edit (.item index :: path) (.list items) answer (.list (items.set index changed))

section

variable {β : Type} {edit : Message → β × Message}

theorem Value.editsAt_of_editAt {path : List Step} {value changed : Value} {answer : β}
    (h : Value.editAt edit path value = .ok (answer, changed)) :
    EditsAt edit path value answer changed := by
  induction path generalizing value changed with
  | nil =>
    cases value with
    | message message =>
      cases h
      exact .here message
    | atom value => cases h
    | list items => cases h
  | cons step path ih =>
    cases step with
    | field name =>
      cases value with
      | message message =>
        rw [Value.editAt] at h
        split at h
        · cases h
        · next table htable =>
          split at h
          · cases h
          · next stored hstored =>
            obtain ⟨⟨answer, inner⟩, hinner, heq⟩ := map_eq_ok.mp h
            cases heq
            exact .field (Message.fieldTable_eq_ok.mp htable) hstored (ih hinner)
      | atom value => cases h
      | list items => cases h
    | item index =>
      cases value with
      | list items =>
        rw [Value.editAt] at h
        split at h
        · cases h
        · next item hitem =>
          obtain ⟨⟨answer, inner⟩, hinner, heq⟩ := map_eq_ok.mp h
          cases heq
          exact .item hitem (ih hinner)
      | atom value => cases h
      | message message => cases h

theorem Message.editsAt_of_editAt {message changed : Message} {path : List Step} {answer : β}
    (h : message.editAt path edit = .ok (answer, changed)) :
    Value.EditsAt edit path (.message message) answer (.message changed) := by
  unfold editAt at h
  split at h
  · next hvalue =>
    cases h
    exact Value.editsAt_of_editAt hvalue
  · cases h
  · cases h

end

/-- What is seen at the end of a path is in the value. -/
theorem Value.EditsAt.holds {path : List Step} {value changed : Value} {found : Message}
    (h : EditsAt (fun inner => (inner, inner)) path value found changed) : value.Holds found := by
  induction h with
  | here message => exact .message (.self message)
  | field _ hstored _ ih =>
    exact .message (.entry (Ascending.mem_of_find?_eq_some hstored) ih)
  | item hitem _ ih => exact .item (List.mem_of_getElem? hitem) ih

/-- The message at a place is somewhere in the message that the place is in. -/
theorem Message.holds_of_viewAt {message found : Message} {path : List Step}
    (h : message.viewAt path (fun inner => inner) = .ok found) : message.Holds found := by
  obtain ⟨⟨answer, changed⟩, hedit, rfl⟩ := map_eq_ok.mp h
  cases (editsAt_of_editAt hedit).holds with
  | message hholds => exact hholds

/-! ## Calls on messages inside -/

/-- A call on the message at a place. -/
structure PlacedCall where
  /-- The place. -/
  place : List Step
  /-- The call. -/
  call : Call

namespace Message

/-- The message after a call on a message inside it.  When there is none at the
place nothing is changed. -/
def afterAt (message : Message) (placed : PlacedCall) : Message :=
  match message.editAt placed.place fun inner => ((), inner.after placed.call) with
  | .ok (_, changed) => changed
  | .error _ => message

/-- The message after several calls on messages inside it. -/
def runAt (message : Message) (calls : List PlacedCall) : Message := calls.foldl afterAt message

/-- A call on a message inside another edits it, or changes nothing. -/
theorem editsAt_or_eq (message : Message) (placed : PlacedCall) :
    Value.EditsAt (fun inner => ((), inner.after placed.call)) placed.place (.message message) ()
        (.message (message.afterAt placed)) ∨
      message.afterAt placed = message := by
  unfold afterAt
  split
  · next hedit => exact Or.inl (editsAt_of_editAt hedit)
  · exact Or.inr rfl

end Message

end ProtoSchema
