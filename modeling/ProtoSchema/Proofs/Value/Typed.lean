import ProtoSchema.Proofs.Table.Fields
import ProtoSchema.Proofs.Value.Inside

/-!
# Typed messages

A message is well typed when every value it stores belongs to a field of its type
and fits this field (`Message.IsTyped`).  In types whose fields have different
numbers, calls keep messages well typed, and a call on a message somewhere inside
keeps every message well typed (`Message.everywhere_isSound_afterAt`).  So no run of
calls leads to a message that is not well typed (`Message.isTyped_runAt`).

Appending an item to a repeated field puts a list in the place of a value that is
none.  In a well typed message there is no such value.
-/

namespace ProtoSchema

namespace Message

/-- Whether every stored value belongs to a field and fits it. -/
def IsTyped (message : Message) : Prop :=
  ∀ entry ∈ message.entries, ∃ field ∈ message.type.fields,
    field.number = entry.1 ∧ field.fits entry.2 = true

/-- Whether an item that is appended to a field would replace a value that is no
list. -/
def PushReplaces (message : Message) (field : String) : Prop :=
  ∃ table value, message.type.field? field = some table ∧ table.isRepeated = true ∧
    message.stored? table.number = some value ∧ ∀ items, value ≠ .list items

/-- A well typed message of a type whose fields have different numbers. -/
structure IsSound (message : Message) : Prop where
  numbers : message.type.NumbersFieldsOnce
  typed : message.IsTyped

theorem isSound_empty {type : MessageTable} (h : type.NumbersFieldsOnce) : (empty type).IsSound :=
  ⟨h, fun _ hentry => nomatch hentry⟩

namespace IsSound

variable {message : Message}

/-- A stored value fits the field that it is read for. -/
theorem fits_of_stored (h : message.IsSound) {field : FieldTable}
    (hfield : field ∈ message.type.fields) {value : Value}
    (hvalue : message.stored? field.number = some value) : field.fits value = true := by
  obtain ⟨owner, howner, hnumber, hfits⟩ := h.typed _ (Ascending.mem_of_find?_eq_some hvalue)
  rwa [h.numbers.eq howner hfield hnumber] at hfits

theorem accepts_of_mem_itemsAt (h : message.IsSound) {field : FieldTable}
    (hfield : field ∈ message.type.fields) (hrepeated : field.isRepeated = true) :
    ∀ item ∈ message.itemsAt field.number, field.content.accepts item = true := by
  unfold itemsAt
  split
  · next items hstored =>
    obtain ⟨found, heq, haccepts⟩ :=
      (FieldTable.fits_of_isRepeated hrepeated).mp (h.fits_of_stored hfield hstored)
    cases heq
    exact haccepts
  · intro item hitem
    cases hitem

theorem not_pushReplaces (h : message.IsSound) (field : String) : ¬ message.PushReplaces field := by
  rintro ⟨table, value, htable, hrepeated, hstored, hlist⟩
  obtain ⟨items, rfl, -⟩ := (FieldTable.fits_of_isRepeated hrepeated).mp
    (h.fits_of_stored (MessageTable.mem_of_field? htable).1 hstored)
  exact hlist items rfl

/-! ## Calls -/

/-- A message stays well typed when what it stores is an old value, or one that fits
its field. -/
theorem of_entries (h : message.IsSound) {changed : Message} (htype : changed.type = message.type)
    {field : FieldTable} (hfield : field ∈ message.type.fields) {value : Value}
    (hfits : field.fits value = true)
    (hentries : ∀ entry ∈ changed.entries,
      entry = (field.number, value) ∨ entry ∈ message.entries) :
    changed.IsSound := by
  refine ⟨by rw [htype]; exact h.numbers, fun entry hentry => ?_⟩
  rw [htype]
  rcases hentries entry hentry with rfl | hold
  · exact ⟨field, hfield, rfl, hfits⟩
  · exact h.typed entry hold

theorem store (h : message.IsSound) {field : FieldTable} (hfield : field ∈ message.type.fields)
    {value : Value} (hfits : field.fits value = true) :
    (message.store field.number value).IsSound :=
  h.of_entries rfl hfield hfits fun _ hentry => mem_entries_store hentry

theorem assign (h : message.IsSound) {field : FieldTable} (hfield : field ∈ message.type.fields)
    {value : Value} (hfits : field.fits value = true) : (message.assign field value).IsSound :=
  h.of_entries (message.type_assign field value) hfield hfits fun _ hentry =>
    mem_entries_assign hentry

theorem drop (h : message.IsSound) (number : Nat) : (message.drop number).IsSound :=
  ⟨h.numbers, fun entry hentry => h.typed entry ((entries_drop_sublist number).mem hentry)⟩

theorem does {changed : Message} {call : Call} (h : message.IsSound)
    (hdoes : message.Does call changed) : changed.IsSound := by
  induction hdoes with
  | set htable hfits => exact h.assign (MessageTable.mem_of_field? htable).1 hfits
  | push htable hrepeated haccepts =>
    have hfield := (MessageTable.mem_of_field? htable).1
    refine h.store hfield
      ((FieldTable.fits_of_isRepeated hrepeated).mpr ⟨_, rfl, fun item hitem => ?_⟩)
    rcases List.mem_append.mp hitem with hitem | hitem
    · exact h.accepts_of_mem_itemsAt hfield hrepeated item hitem
    · rw [List.mem_singleton.mp hitem]
      exact haccepts
  | setEnumByName _ _ _ _ ih => exact ih
  | clear _ => exact h.drop _

theorem run (h : message.IsSound) (calls : List Call) : (message.run calls).IsSound :=
  run_induction calls h fun _ _ _ _ _ hcurrent hdoes => hcurrent.does hdoes

end IsSound

/-- A call keeps every message well typed when those passed to it are. -/
theorem everywhere_isSound_after {message : Message} {call : Call}
    (h : message.Everywhere IsSound) (hcall : call.Everywhere IsSound) :
    (message.after call).Everywhere IsSound := by
  rcases message.does_or_eq call with hdoes | hsame
  · exact hdoes.everywhere h hcall (h.self.does hdoes)
  · rw [hsame]
    exact h

end Message

/-! ## Calls on messages inside -/

/-- Whether a value fits wherever another one does, alone and in a list. -/
structure Value.FitsLike (changed value : Value) : Prop where
  accepts : ∀ content : Content, content.accepts value = true → content.accepts changed = true
  fits : ∀ field : FieldTable, field.fits value = true → field.fits changed = true

/-- A message fits by its type. -/
theorem Content.accepts_message {message changed : Message} (h : changed.type = message.type)
    (content : Content) :
    content.accepts (.message changed) = content.accepts (.message message) := by
  cases content with
  | scalar kind => rfl
  | message name =>
    show (changed.type.fullName == name) = (message.type.fullName == name)
    rw [h]
  | enum table => rfl

theorem Content.accepts_list (content : Content) (items : List Value) :
    content.accepts (.list items) = false := by
  cases content with
  | scalar kind => rfl
  | message name => rfl
  | enum table => rfl

namespace Value.FitsLike

theorem message {message changed : Message} (h : changed.type = message.type) :
    FitsLike (.message changed) (.message message) := by
  constructor
  · intro content haccepts
    rw [content.accepts_message h, haccepts]
  · intro field hfits
    cases hrepeated : field.isRepeated with
    | true =>
      obtain ⟨items, heq, -⟩ := (FieldTable.fits_of_isRepeated hrepeated).mp hfits
      cases heq
    | false =>
      rw [FieldTable.fits_of_not_isRepeated hrepeated] at hfits ⊢
      rw [field.content.accepts_message h, hfits]

/-- A list fits by its items. -/
theorem list {items : List Value} {index : Nat} {item changed : Value}
    (hitem : items[index]? = some item) (h : changed.FitsLike item) :
    FitsLike (.list (items.set index changed)) (.list items) := by
  constructor
  · intro content haccepts
    rw [content.accepts_list] at haccepts
    cases haccepts
  · intro field hfits
    cases hrepeated : field.isRepeated with
    | true =>
      obtain ⟨found, heq, haccepts⟩ := (FieldTable.fits_of_isRepeated hrepeated).mp hfits
      cases heq
      refine (FieldTable.fits_of_isRepeated hrepeated).mpr ⟨_, rfl, fun other hother => ?_⟩
      rcases List.mem_or_eq_of_mem_set hother with hother | rfl
      · exact haccepts other hother
      · exact h.accepts _ (haccepts item (List.mem_of_getElem? hitem))
    | false =>
      rw [FieldTable.fits_of_not_isRepeated hrepeated, field.content.accepts_list] at hfits
      cases hfits

end Value.FitsLike

/-- What keeps the message at the end of a path well typed, with all messages inside
it, keeps the whole value so. -/
theorem Value.EditsAt.isSound {β : Type} {edit : Message → β × Message}
    (hedit : ∀ inner, inner.Everywhere Message.IsSound →
      (edit inner).2.Everywhere Message.IsSound ∧ (edit inner).2.type = inner.type)
    {path : List Step} {value changed : Value} {answer : β}
    (h : EditsAt edit path value answer changed) (hvalue : value.Everywhere Message.IsSound) :
    changed.Everywhere Message.IsSound ∧ changed.FitsLike value := by
  induction h with
  | here message =>
    obtain ⟨hsound, htype⟩ := hedit message (everywhere_message.mp hvalue)
    exact ⟨everywhere_message.mpr hsound, .message htype⟩
  | field htable hstored _ ih =>
    have hmessage := everywhere_message.mp hvalue
    obtain ⟨hsound, hfits⟩ := ih (hmessage.stored? hstored)
    have hfield := (MessageTable.mem_of_field? htable).1
    have hself := hmessage.self.store hfield
      (hfits.fits _ (hmessage.self.fits_of_stored hfield hstored))
    exact ⟨everywhere_message.mpr (hmessage.store hsound hself), .message rfl⟩
  | item hitem _ ih =>
    have hitems := everywhere_list.mp hvalue
    obtain ⟨hsound, hfits⟩ := ih (hitems _ (List.mem_of_getElem? hitem))
    refine ⟨everywhere_list.mpr fun other hother => ?_, .list hitem hfits⟩
    rcases List.mem_or_eq_of_mem_set hother with hother | rfl
    · exact hitems other hother
    · exact hsound

namespace Message

/-- A call on a message somewhere inside another keeps every message well typed. -/
theorem everywhere_isSound_afterAt {message : Message} {placed : PlacedCall}
    (h : message.Everywhere IsSound) (hcall : placed.call.Everywhere IsSound) :
    (message.afterAt placed).Everywhere IsSound := by
  rcases message.editsAt_or_eq placed with hedits | hsame
  · exact Value.everywhere_message.mp (hedits.isSound
      (fun inner hinner => ⟨everywhere_isSound_after hinner hcall, inner.type_after placed.call⟩)
      (Value.everywhere_message.mpr h)).1
  · rw [hsame]
    exact h

theorem everywhere_isSound_runAt {message : Message} {calls : List PlacedCall}
    (h : message.Everywhere IsSound) (hcalls : ∀ placed ∈ calls, placed.call.Everywhere IsSound) :
    (message.runAt calls).Everywhere IsSound := by
  induction calls generalizing message with
  | nil => exact h
  | cons placed calls ih =>
    exact ih (everywhere_isSound_afterAt h (hcalls placed (.head _)))
      fun other hother => hcalls other (.tail _ hother)

/-- After any calls, on a message and on the messages inside it, every message is
well typed, and no item that is appended replaces a value. -/
theorem isTyped_runAt {type : MessageTable} (htype : type.NumbersFieldsOnce)
    {calls : List PlacedCall}
    (hcalls : ∀ placed ∈ calls, placed.call.Everywhere fun inner =>
      inner.type.NumbersFieldsOnce ∧ inner.IsTyped) :
    ((empty type).runAt calls).Everywhere fun inner =>
      inner.IsTyped ∧ ∀ field, ¬ inner.PushReplaces field := by
  have hempty : (empty type).Everywhere IsSound :=
    everywhere_iff.mpr ⟨isSound_empty htype, fun _ hentry => nomatch hentry⟩
  have hpassed : ∀ placed ∈ calls, placed.call.Everywhere IsSound := by
    intro placed hplaced
    refine (hcalls placed hplaced).imp fun inner hinner => ?_
    exact ⟨hinner.1, hinner.2⟩
  intro inner hinner
  have hsound := everywhere_isSound_runAt hempty hpassed inner hinner
  exact ⟨hsound.typed, hsound.not_pushReplaces⟩

/-- A message that is appended to a list and changed there. -/
theorem isTyped_runAt_nested :
    let type : MessageTable :=
      { fullName := "tree.Node", name := "Node", package := "tree", file := "tree.proto"
        fields := [
          { name := "label", number := 1, content := .scalar .string, presence := .implicit
            default := none, oneof := none, jsonName := none },
          { name := "children", number := 2, content := .message "tree.Node"
            presence := .repeated, default := none, oneof := none, jsonName := none },
          { name := "colors", number := 3
            content := .enum ⟨"tree.Color", "Color", "tree", "tree.proto", [⟨"RED", 1⟩]⟩
            presence := .repeated, default := none, oneof := none, jsonName := none }]
        oneofs := [], isMapEntry := false }
    let calls : List PlacedCall := [
      ⟨[], .push "children" (.message (empty type))⟩,
      ⟨[.field "children", .item 0], .set "colors" (.list [.atom (.int32 1)])⟩,
      ⟨[.field "children", .item 0], .setEnumByName "label" "RED"⟩,
      ⟨[.field "children", .item 0], .push "colors" (.atom (.enum 2))⟩]
    (((empty type).runAt calls).viewAt [.field "children", .item 0] fun inner =>
        inner.fields.map fun (field, value) => (field.name, field.fits value)).toOption =
        some [("colors", true)] ∧
      ((empty type).runAt calls).Everywhere fun inner =>
        inner.IsTyped ∧ ∀ field, ¬ inner.PushReplaces field := by
  intro type calls
  refine ⟨by decide +kernel, ?_⟩
  have htype : type.NumbersFieldsOnce := by decide +kernel
  have hchild : (Value.message (empty type)).Everywhere fun inner =>
      inner.type.NumbersFieldsOnce ∧ inner.IsTyped :=
    Value.everywhere_message.mpr
      (everywhere_iff.mpr ⟨⟨htype, (isSound_empty htype).typed⟩, fun _ hentry => nomatch hentry⟩)
  have hcolors : (Value.list [.atom (.int32 1)]).Everywhere fun inner =>
      inner.type.NumbersFieldsOnce ∧ inner.IsTyped := by
    refine Value.everywhere_list.mpr fun item hitem => ?_
    rw [List.mem_singleton.mp hitem]
    exact Value.everywhere_atom _
  refine isTyped_runAt htype fun placed hplaced => ?_
  simp only [calls, List.mem_cons, List.not_mem_nil, or_false] at hplaced
  rcases hplaced with rfl | rfl | rfl | rfl
  · exact hchild
  · exact hcolors
  · trivial
  · exact Value.everywhere_atom _

end Message

end ProtoSchema
