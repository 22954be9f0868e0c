import ProtoSchema.Descriptor.Basic

/-!
# Messages inside messages

A message holds messages, which hold further ones.  What holds of a message as
soon as it holds of the messages inside it holds of all messages
(`MessageDescriptor.nesting`).

`preorder` lists a message and everything inside it.  A file has these messages
at any depth (`FileDescriptor.allMessages`), the enums beside and inside them, and
the names that their fields refer to.
-/

namespace ProtoSchema

namespace MessageDescriptor

/-- Induction on how messages are nested. -/
@[elab_as_elim]
theorem nesting {P : MessageDescriptor → Prop}
    (step : ∀ message, (∀ inner ∈ message.nested, P inner) → P message)
    (message : MessageDescriptor) : P message :=
  step message fun inner _ => nesting step inner
termination_by message
decreasing_by
  cases message
  rename_i hmem
  have := List.sizeOf_lt_of_mem hmem
  simp only [mk.sizeOf_spec]
  simp only at this
  omega

theorem preorderList_eq_flatMap (messages : List MessageDescriptor) :
    preorderList messages = messages.flatMap preorder := by
  induction messages with
  | nil => rfl
  | cons message messages ih => rw [preorderList, ih, List.flatMap_cons]

theorem preorder_eq (message : MessageDescriptor) :
    message.preorder = message :: message.nested.flatMap preorder := by
  cases message
  rw [preorder, preorderList_eq_flatMap]

theorem mem_preorder_self (message : MessageDescriptor) : message ∈ message.preorder := by
  rw [preorder_eq]
  exact .head _

theorem mem_preorder_of_nested {message inner found : MessageDescriptor}
    (hinner : inner ∈ message.nested) (h : found ∈ inner.preorder) :
    found ∈ message.preorder := by
  rw [preorder_eq]
  exact .tail _ (List.mem_flatMap.mpr ⟨inner, hinner, h⟩)

/-- What is inside a message that is at some depth is at some depth. -/
theorem mem_preorder_trans {message middle found : MessageDescriptor}
    (hmiddle : middle ∈ message.preorder) (h : found ∈ middle.preorder) :
    found ∈ message.preorder := by
  induction message using nesting with
  | step message ih =>
    rw [preorder_eq] at hmiddle
    rcases List.mem_cons.mp hmiddle with rfl | hmiddle
    · exact h
    · obtain ⟨inner, hinner, hmiddle⟩ := List.mem_flatMap.mp hmiddle
      exact mem_preorder_of_nested hinner (ih inner hinner hmiddle)

/-- Work on messages side by side that passes over map entries is the work on each
of the others. -/
theorem eq_flatMap_of_entriesLeftOut {α : Type} {one : MessageDescriptor → List α}
    {all : List MessageDescriptor → List α} (hnil : all [] = [])
    (hcons : ∀ message rest,
      all (message :: rest) = (if message.isMapEntry then [] else one message) ++ all rest)
    (messages : List MessageDescriptor) :
    all messages = (messages.filter fun message => !message.isMapEntry).flatMap one := by
  induction messages with
  | nil => exact hnil
  | cons message messages ih =>
    rw [hcons, ih]
    by_cases hentry : message.isMapEntry = true
    · rw [if_pos hentry, List.filter_cons_of_neg (by rw [hentry]; exact Bool.false_ne_true),
        List.nil_append]
    · rw [if_neg hentry, List.filter_cons_of_pos (by simpa using hentry), List.flatMap_cons]

end MessageDescriptor

/-- The messages of a file at any depth. -/
def FileDescriptor.allMessages (file : FileDescriptor) : List MessageDescriptor :=
  MessageDescriptor.preorderList file.messages

/-- The enums of a file at any depth. -/
def FileDescriptor.allEnums (file : FileDescriptor) : List EnumDescriptor :=
  file.enums ++ file.allMessages.flatMap MessageDescriptor.enums

/-- The names that the fields of a file refer to. -/
def FileDescriptor.typeNames (file : FileDescriptor) : List String :=
  file.allMessages.flatMap fun message => message.fields.filterMap FieldDescriptor.typeName

theorem FileDescriptor.mem_allMessages {file : FileDescriptor} {found : MessageDescriptor} :
    found ∈ file.allMessages ↔ ∃ message ∈ file.messages, found ∈ message.preorder := by
  rw [allMessages, MessageDescriptor.preorderList_eq_flatMap, List.mem_flatMap]

theorem FileDescriptor.mem_allMessages_of_nested {file : FileDescriptor}
    {message inner : MessageDescriptor} (hmessage : message ∈ file.allMessages)
    (hinner : inner ∈ message.nested) : inner ∈ file.allMessages := by
  obtain ⟨outermost, houtermost, hmessage⟩ := mem_allMessages.mp hmessage
  exact mem_allMessages.mpr ⟨outermost, houtermost, MessageDescriptor.mem_preorder_trans hmessage
    (MessageDescriptor.mem_preorder_of_nested hinner inner.mem_preorder_self)⟩

theorem FileDescriptor.mem_typeNames {file : FileDescriptor} {message : MessageDescriptor}
    {field : FieldDescriptor} {name : String} (hmessage : message ∈ file.allMessages)
    (hfield : field ∈ message.fields) (hname : field.typeName = some name) :
    name ∈ file.typeNames :=
  List.mem_flatMap.mpr ⟨message, hmessage, List.mem_filterMap.mpr ⟨field, hfield, hname⟩⟩

end ProtoSchema
