import ProtoSchema.Proofs.Source.Records
import ProtoSchema.Proofs.Source.Targets
import ProtoSchema.Proofs.Table.Congruence

/-!
# Names that have records

A map entry has no record, so a way to one would lead nowhere.  In sets that come
from a compiler only the map field that an entry was made for refers to it
(`FileSet.KeepsEntries`), and in rendered source a map stands in place of this
reference.  No other name that is rendered is that of a map entry
(`FileSet.KeepsEntries.not_mem_entryNames`).

When the tables of a file were built these names are those of messages
(`FileDescriptor.kind?_of_refers`).
-/

namespace ProtoSchema

open Checked

/-! ## References -/

/-- Where the name of a message that is rendered for another message comes from. -/
inductive NamedMessage.Refers (user : NamedMessage) (target : String) : Prop where
  /-- A field that belongs to no oneof and is not rendered as a map. -/
  | field {field : FieldDescriptor} :
    field ∈ user.message.fields →
    field.realOneof = none →
    user.message.mapEntry? (FullName.asOuter user.name) field = none →
    field.target? = some target →
    Refers user target
  /-- A member of a oneof. -/
  | member {field : FieldDescriptor} {position : Nat} :
    field ∈ user.message.fields →
    field.realOneof = some position →
    field.target? = some target →
    Refers user target
  /-- A field of a map entry that is rendered as a map. -/
  | entry {entry : MessageDescriptor} {field : FieldDescriptor} {ownName : String} :
    entry ∈ user.message.nested →
    entry.isMapEntry = true →
    entry.name = some ownName →
    field ∈ entry.fields →
    field.target? = some target →
    Refers user target

/-- A field of a message or of a group refers to it by name. -/
theorem FieldDescriptor.typeName_of_target? {field : FieldDescriptor} {target : String}
    (h : field.target? = some target) : field.typeName = some target := by
  unfold target? at h
  split at h
  · exact h
  · exact h
  · cases h

namespace MessageDescriptor

/-- A map entry that a field refers to is inside the message and has the name. -/
theorem mapEntry?_eq_some {inner : String} {message entry : MessageDescriptor}
    {field : FieldDescriptor} (h : message.mapEntry? inner field = some entry) :
    entry ∈ message.nested ∧ entry.isMapEntry = true ∧ ∃ ownName, entry.name = some ownName := by
  obtain ⟨target, -, h⟩ := Option.bind_eq_some_iff.mp h
  have hentry := List.find?_some h
  rw [Bool.and_eq_true, beq_iff_eq, Option.map_eq_some_iff] at hentry
  obtain ⟨hentry, ownName, hname, -⟩ := hentry
  exact ⟨List.mem_reverse.mp (List.mem_of_find?_eq_some h), hentry, ownName, hname⟩

/-- A field that refers to a map entry inside its message finds one. -/
theorem mapEntry?_ne_none {inner target ownName : String} {message entry : MessageDescriptor}
    {field : FieldDescriptor} (hfield : field.typeName = some target)
    (hmem : entry ∈ message.nested) (hentry : entry.isMapEntry = true)
    (hname : entry.name = some ownName) (htarget : target = FullName.inside inner ownName) :
    message.mapEntry? inner field ≠ none := by
  intro hnone
  unfold mapEntry? at hnone
  rw [hfield, Option.bind_some, List.find?_eq_none] at hnone
  refine hnone entry (List.mem_reverse.mpr hmem) ?_
  rw [hentry, hname, htarget, Bool.true_and, beq_iff_eq, Option.map_some]

theorem exists_field_of_mem_mapTargets {entry : MessageDescriptor} {target : String}
    (h : target ∈ entry.mapTargets) :
    ∃ field ∈ entry.fields, field.target? = some target := by
  have hnumbered : ∀ number, target ∈ ((entry.fieldNumbered? number).bind
      FieldDescriptor.target?).toList → ∃ field ∈ entry.fields, field.target? = some target := by
    intro number hmem
    obtain ⟨field, hfield, htarget⟩ := Option.bind_eq_some_iff.mp (Option.mem_toList.mp hmem)
    exact ⟨field, List.mem_of_find?_eq_some hfield, htarget⟩
  rcases List.mem_append.mp h with h | h
  · exact hnumbered 1 h
  · exact hnumbered 2 h

theorem refers_of_mem_recordTargets {fullName target : String} {message : MessageDescriptor}
    (h : target ∈ message.recordTargets fullName) :
    NamedMessage.Refers ⟨fullName, message⟩ target := by
  obtain ⟨field, hfield, h⟩ := List.mem_flatMap.mp h
  obtain ⟨hfield, honeof⟩ := List.mem_filter.mp hfield
  unfold fieldTargets at h
  cases hentry : message.mapEntry? (FullName.asOuter fullName) field with
  | none =>
    rw [hentry] at h
    exact .field hfield (Option.isNone_iff_eq_none.mp honeof) hentry (Option.mem_toList.mp h)
  | some entry =>
    rw [hentry] at h
    obtain ⟨hmem, hisEntry, ownName, hname⟩ := mapEntry?_eq_some hentry
    obtain ⟨inner, hinner, htarget⟩ := exists_field_of_mem_mapTargets h
    exact .entry hmem hisEntry hname hinner htarget

theorem refers_of_mem_memberTargets {fullName target : String} {message : MessageDescriptor}
    {position : Nat} (h : target ∈ message.memberTargets position) :
    NamedMessage.Refers ⟨fullName, message⟩ target := by
  obtain ⟨field, hfield, h⟩ := List.mem_flatMap.mp h
  obtain ⟨hfield, honeof⟩ := List.mem_filter.mp hfield
  exact .member hfield (eq_of_beq honeof) (Option.mem_toList.mp h)

/-- A name that is rendered for a message comes from the message or from one inside
it. -/
theorem exists_refers_of_mem_targets {outer target : String} {message : MessageDescriptor}
    (h : target ∈ message.targets outer) :
    ∃ user ∈ message.named outer, user.Refers target := by
  induction message using nesting generalizing outer with
  | step message ih =>
    cases hname : message.name with
    | none =>
      cases message
      cases hname
      cases h
    | some ownName =>
      rw [targets_eq hname] at h
      rw [named_of_name_eq_some hname]
      rcases List.mem_append.mp h with h | h
      · refine ⟨_, .head _, ?_⟩
        rcases List.mem_append.mp h with h | h
        · exact refers_of_mem_recordTargets h
        · obtain ⟨position, -, h⟩ := List.mem_flatMap.mp h
          exact refers_of_mem_memberTargets h
      · obtain ⟨inner, hinner, h⟩ := List.mem_flatMap.mp h
        have hinner := List.mem_of_mem_filter hinner
        obtain ⟨user, huser, hrefers⟩ := ih inner hinner h
        exact ⟨user, .tail _ (List.mem_flatMap.mpr ⟨inner, hinner, huser⟩), hrefers⟩

end MessageDescriptor

theorem FileDescriptor.exists_refers_of_mem_targets {file : FileDescriptor} {target : String}
    (h : target ∈ file.targets) : ∃ user ∈ file.named, user.Refers target := by
  obtain ⟨message, hmessage, h⟩ := List.mem_flatMap.mp h
  obtain ⟨user, huser, hrefers⟩ := message.exists_refers_of_mem_targets h
  exact ⟨user, List.mem_flatMap.mpr ⟨message, hmessage, huser⟩, hrefers⟩

/-! ## Map entries -/

namespace FileSet

/-- Whether map entries are used as a compiler uses them. -/
structure KeepsEntries (set : FileSet) : Prop where
  /-- There are no messages inside. -/
  flat : ∀ owner ∈ set.named, ∀ entry ∈ owner.message.nested,
    entry.isMapEntry = true → entry.nested = []
  /-- Only fields of the message around an entry refer to it, and they belong to no
  oneof. -/
  own : ∀ owner ∈ set.named, ∀ target ∈ owner.entryNames, ∀ user ∈ set.named,
    ∀ field ∈ user.message.fields, field.target? = some target →
      user.name = owner.name ∧ field.realOneof = none

/-- No name that is rendered is that of a map entry. -/
theorem KeepsEntries.not_mem_entryNames {set : FileSet} (h : set.KeepsEntries)
    (honce : set.DeclaresOnce) {file : FileDescriptor} (hfile : file ∈ set.files)
    {user owner : NamedMessage} (huser : user ∈ file.named) (howner : owner ∈ set.named)
    {target : String} (hrefers : user.Refers target) : target ∉ owner.entryNames := by
  intro hmem
  have huserSet : user ∈ set.named := mem_named.mpr ⟨file, hfile, huser⟩
  obtain ⟨entry, hentry, hisEntry, ownName, hname, htarget⟩ := NamedMessage.mem_entryNames.mp hmem
  cases hrefers with
  | field hfield honeof hnone hfieldTarget =>
    obtain ⟨hsame, -⟩ := h.own owner howner target hmem user huserSet _ hfield hfieldTarget
    rw [← honce.message_eq huserSet howner hsame] at hentry
    rw [← hsame] at htarget
    exact MessageDescriptor.mapEntry?_ne_none (FieldDescriptor.typeName_of_target? hfieldTarget)
      hentry hisEntry hname htarget hnone
  | member hfield honeof hfieldTarget =>
    obtain ⟨-, hnone⟩ := h.own owner howner target hmem user huserSet _ hfield hfieldTarget
    rw [honeof] at hnone
    cases hnone
  | @entry inner field innerName hinner hisInner hinnerName hfield hfieldTarget =>
    -- The message that refers to the entry is an entry itself, and is the owner.
    have hinnerSet : ⟨FullName.inside (FullName.asOuter user.name) innerName, inner⟩ ∈
        set.named := by
      obtain ⟨message, hmessage, huser⟩ := List.mem_flatMap.mp huser
      exact mem_named.mpr ⟨file, hfile, List.mem_flatMap.mpr ⟨message, hmessage,
        MessageDescriptor.mem_named_of_nested huser hinner hinnerName⟩⟩
    obtain ⟨hsame, -⟩ := h.own owner howner target hmem _ hinnerSet field hfield hfieldTarget
    rw [← honce.message_eq hinnerSet howner hsame, h.flat user huserSet inner hinner hisInner]
      at hentry
    cases hentry

end FileSet

/-! ## Messages -/

/-- A field whose content was found refers to a message. -/
theorem FieldDescriptor.Holds.kind?_of_target? {scope : Scope} {field : FieldDescriptor}
    {content : Content} (h : field.Holds scope content) {target : String}
    (htarget : field.target? = some target) : scope.kind? target = some .message := by
  cases h with
  | scalar htype hscalar =>
    rw [target?_of_scalar htype hscalar] at htarget
    cases htarget
  | enum htype =>
    rw [target?_of_enum htype] at htarget
    cases htarget
  | message htype hmessage hname hkind =>
    rw [target?_of_message htype hmessage, hname] at htarget
    cases htarget
    exact hkind

/-- What a field of a file refers to is a message. -/
theorem FileDescriptor.kind?_of_target? {scope : Scope} {file : FileDescriptor}
    {tables : FileTable} (h : file.tables scope = .ok tables) {message : MessageDescriptor}
    (hmessage : message ∈ file.allMessages) {field : FieldDescriptor}
    (hfield : field ∈ message.fields) {target : String} (htarget : field.target? = some target) :
    scope.kind? target = some .message := by
  obtain ⟨table, htable⟩ := exists_hasTable_of_tables h hmessage hfield
  exact (FieldDescriptor.holds_of_content htable.content).kind?_of_target? htarget

/-- The names that are rendered for a file are those of messages. -/
theorem FileDescriptor.kind?_of_refers {scope : Scope} {file : FileDescriptor} {tables : FileTable}
    (h : file.tables scope = .ok tables) {user : NamedMessage} (huser : user ∈ file.named)
    {target : String} (hrefers : user.Refers target) : scope.kind? target = some .message := by
  have hmessage := file.mem_allMessages_of_mem_named huser
  cases hrefers with
  | field hfield _ _ htarget => exact kind?_of_target? h hmessage hfield htarget
  | member hfield _ htarget => exact kind?_of_target? h hmessage hfield htarget
  | entry hentry _ _ hfield htarget =>
    exact kind?_of_target? h (mem_allMessages_of_nested hmessage hentry) hfield htarget

end ProtoSchema
