import ProtoSchema.Proofs.Descriptor.Outline

/-!
# Descriptors weigh no more than their bytes

Every record pays for what it adds to a descriptor.  Its head is a byte at least, and so is
a number, or the count in front of a chunk.  A text weighs two more than its bytes, and so
does a message inside, by what is known of shorter bytes.  What a field adds is told by
`DescriptorKind.Slot`, in which there is one case for each sort of field.

So a descriptor weighs at most as much as its bytes are long
(`DescriptorKind.weight_le_of_decode`).  Fields that are given again only lose weight, and
records that are stepped over add none.

Decoding is done in *tasks*, which are bytes and the kind of descriptor that they are read
for.  A task goes on behind each record that is read, and it calls another one for the bytes
of a message inside.  Either way at least two bytes fewer are left (`DecodeTask.Next.length`).
-/

namespace ProtoSchema

open Outline (ofScalar ofTexts ofMessages)

theorem utf8ByteSize_of_readText {chunk : List UInt8} {text : String}
    (h : readText chunk = .ok text) : text.utf8ByteSize = chunk.length := by
  unfold readText at h
  split at h
  · next found hfound =>
    cases h
    unfold String.fromUTF8? at hfound
    split at hfound
    · cases hfound
      rfl
    · cases hfound
  · cases h

namespace DescriptorKind

/-! ## What fields add -/

/-- What a known field of a descriptor holds, and that it adds no more than that. -/
inductive Slot (kind : DescriptorKind) : FieldReader kind.Value → Prop where
  | int32 {store : kind.Value → Int32 → kind.Value}
    (adds : ∀ d value, kind.weight (store d value) ≤ kind.weight d + 2) :
    Slot kind (.int32 store)
  | bool {store : kind.Value → Bool → kind.Value}
    (adds : ∀ d value, kind.weight (store d value) ≤ kind.weight d + 2) :
    Slot kind (.bool store)
  | text {store : kind.Value → String → kind.Value}
    (adds : ∀ d (text : String),
      kind.weight (store d text) ≤ kind.weight d + (2 + text.utf8ByteSize)) :
    Slot kind (.text store)
  | message (inner : DescriptorKind) {store : kind.Value → inner.Value → kind.Value}
    (adds : ∀ d value, kind.weight (store d value) ≤ kind.weight d + (2 + inner.weight value)) :
    Slot kind (.message inner.decode store)

theorem slot_of_readers {kind : DescriptorKind} {n : Nat} {field : FieldReader kind.Value}
    (h : kind.readers n = some field) : Slot kind field := by
  cases kind with
  | set =>
    simp only [readers, FileSet.readers] at h
    split at h <;> cases h
    exact .message .file fun (d : FileSet) (file : FileDescriptor) => by simp
  | file =>
    simp only [readers, FileDescriptor.readers] at h
    split at h <;> cases h
    · exact .text fun (d : FileDescriptor) name => by simp; omega
    · exact .text fun (d : FileDescriptor) package => by simp; omega
    · exact .text fun (d : FileDescriptor) name => by simp; omega
    · exact .message .message fun (d : FileDescriptor) (m : MessageDescriptor) => by simp; omega
    · exact .message .enum fun (d : FileDescriptor) (e : EnumDescriptor) => by simp; omega
    · exact .text fun (d : FileDescriptor) dialect => by simp; omega
  | message =>
    simp only [readers, MessageDescriptor.readersWith] at h
    split at h <;> cases h
    · exact .text fun (d : MessageDescriptor) name => by simp; omega
    · exact .message .field fun (d : MessageDescriptor) (f : FieldDescriptor) => by simp; omega
    · exact .message .message fun (d m : MessageDescriptor) => by simp; omega
    · exact .message .enum fun (d : MessageDescriptor) (e : EnumDescriptor) => by simp; omega
    · exact .message .options fun (d : MessageDescriptor) (options : MessageOptions) => by
        simp
        omega
    · exact .message .oneof fun (d : MessageDescriptor) (o : OneofDescriptor) => by simp; omega
  | field =>
    simp only [readers, FieldDescriptor.readers] at h
    split at h <;> cases h
    · exact .text fun (d : FieldDescriptor) name => by simp; omega
    · exact .int32 fun (d : FieldDescriptor) number => by simp; omega
    · exact .int32 fun (d : FieldDescriptor) label => by simp; omega
    · exact .int32 fun (d : FieldDescriptor) type => by simp; omega
    · exact .text fun (d : FieldDescriptor) typeName => by simp; omega
    · exact .text fun (d : FieldDescriptor) defaultText => by simp; omega
    · exact .int32 fun (d : FieldDescriptor) oneofIndex => by simp; omega
    · exact .text fun (d : FieldDescriptor) jsonName => by simp; omega
    · exact .bool fun (d : FieldDescriptor) proto3Optional => by simp; omega
  | enum =>
    simp only [readers, EnumDescriptor.readers] at h
    split at h <;> cases h
    · exact .text fun (d : EnumDescriptor) name => by simp; omega
    · exact .message .enumValue fun (d : EnumDescriptor) (v : EnumValueDescriptor) => by
        simp
        omega
  | enumValue =>
    simp only [readers, EnumValueDescriptor.readers] at h
    split at h <;> cases h
    · exact .text fun (d : EnumValueDescriptor) name => by simp; omega
    · exact .int32 fun (d : EnumValueDescriptor) number => by simp
  | oneof =>
    simp only [readers, OneofDescriptor.readers] at h
    split at h <;> cases h
    exact .text fun (d : OneofDescriptor) name => by simp
  | options =>
    simp only [readers, MessageOptions.readers] at h
    split at h <;> cases h
    exact .bool fun (d : MessageOptions) mapEntry => by simp

/-! ## Records pay for what they add -/

section Records

variable {kind : DescriptorKind} {d d' : kind.Value}

/-- Whether messages that have fewer bytes than these weigh no more than theirs. -/
def BoundedBelow (bytes : List UInt8) : Prop :=
  ∀ (inner : DescriptorKind) (chunk : List UInt8) (value : inner.Value),
    chunk.length < bytes.length → inner.decode chunk = .ok value →
      inner.weight value ≤ chunk.length

theorem BoundedBelow.mono {bytes fewer : List UInt8} (h : BoundedBelow bytes)
    (hlen : fewer.length ≤ bytes.length) : BoundedBelow fewer :=
  fun inner chunk value hchunk => h inner chunk value (Nat.lt_of_lt_of_le hchunk hlen)

/-- The payload of a field pays for all that the field adds but one. -/
theorem Slot.weight_store {field : FieldReader kind.Value} (hslot : Slot kind field)
    {payload : Payload} {bytes : List UInt8} (hspelled : payload.Spelled bytes)
    (hinner : BoundedBelow bytes) (h : field.store d payload = .ok d') :
    kind.weight d' ≤ kind.weight d + bytes.length + 1 := by
  cases hslot with
  | int32 adds | bool adds =>
    cases hspelled with
    | varint hn =>
      cases h
      have hpos := hn.spells.length_pos
      exact Nat.le_trans (adds d _) (by omega)
    | fixed64 | chunk | fixed32 => cases h
  | text adds =>
    cases hspelled with
    | @chunk count chunk hcount hlen =>
      obtain ⟨text, htext, rfl⟩ := map_eq_ok.mp h
      have hsize := utf8ByteSize_of_readText htext
      have hpos := hcount.spells.length_pos
      have hadds := adds d text
      rw [List.length_append]
      omega
    | varint | fixed64 | fixed32 => cases h
  | message inner adds =>
    cases hspelled with
    | @chunk count chunk hcount hlen =>
      obtain ⟨value, hvalue, rfl⟩ := map_eq_ok.mp h
      have hpos := hcount.spells.length_pos
      have hweight := hinner inner chunk value (by rw [List.length_append]; omega) hvalue
      have hadds := adds d value
      rw [List.length_append]
      omega
    | varint | fixed64 | fixed32 => cases h

/-- A record adds no more than it has bytes. -/
theorem weight_recordStore {record : WireRecord} {bytes : List UInt8}
    (hspelled : record.Spelled bytes) (hinner : BoundedBelow bytes)
    (h : record.store kind.readers d = .ok d') :
    kind.weight d' ≤ kind.weight d + bytes.length := by
  obtain ⟨key, payload, rfl, hkey, hpayload⟩ := hspelled
  have hpos := hkey.spells.length_pos
  cases hfield : kind.readers (record.number % UInt32.size) with
  | none =>
    rw [WireRecord.store_of_unknown hfield] at h
    cases h
    exact Nat.le_add_right ..
  | some field =>
    rw [WireRecord.store, hfield] at h
    have hstore := (slot_of_readers hfield).weight_store hpayload
      (hinner.mono (by rw [List.length_append]; omega)) h
    rw [List.length_append]
    omega

/-- Records that are read one after the other add no more than they have bytes. -/
theorem weight_readRecords {bytes : List UInt8} (hinner : BoundedBelow bytes)
    (h : readRecords kind.readers d bytes = .ok d') :
    kind.weight d' ≤ kind.weight d + bytes.length := by
  fun_induction readRecords kind.readers d bytes with
  | case1 d bytes hempty =>
    cases h
    exact Nat.le_add_right ..
  | case2 d bytes hempty e hfirst => cases h
  | case3 d bytes hempty between rest hfirst ih =>
    obtain ⟨record, taken, rfl, hspelled, hstore⟩ := exists_spelled_of_readRecord hfirst
    have hrecord := weight_recordStore hspelled (hinner.mono (by rw [List.length_append]; omega))
      hstore
    have hrest := ih (hinner.mono (by rw [List.length_append]; omega)) h
    rw [List.length_append]
    omega

end Records

/-- A descriptor weighs no more than its bytes.  Those of a message inside are fewer than
those of the record that it is in, so this may be used for it. -/
theorem weight_le_of_decode (kind : DescriptorKind) {bytes : List UInt8} {d : kind.Value}
    (h : kind.decode bytes = .ok d) : kind.weight d ≤ bytes.length := by
  have hinner : BoundedBelow bytes := fun inner chunk value _ hvalue =>
    weight_le_of_decode inner hvalue
  rw [decode_eq] at h
  have hweight := weight_readRecords hinner h
  rwa [weight_blank, Nat.zero_add] at hweight
termination_by bytes.length

end DescriptorKind

/-! ## Tasks -/

theorem Payload.Spelled.length_pos {payload : Payload} {bytes : List UInt8}
    (h : payload.Spelled bytes) : 0 < bytes.length := by
  cases h with
  | varint hn => exact hn.spells.length_pos
  | fixed64 hlen | fixed32 hlen => omega
  | chunk hcount =>
    have hpos := hcount.spells.length_pos
    rw [List.length_append]
    omega

/-- A record takes two bytes at least. -/
theorem WireRecord.Spelled.two_le_length {record : WireRecord} {bytes : List UInt8}
    (h : record.Spelled bytes) : 2 ≤ bytes.length := by
  obtain ⟨key, payload, rfl, hkey, hpayload⟩ := h
  have hhead := hkey.spells.length_pos
  have hpos := hpayload.length_pos
  rw [List.length_append]
  omega

/-- Bytes that are left to be read, and the kind of descriptor that they are read for. -/
structure DecodeTask where
  /-- The kind of descriptor. -/
  kind : DescriptorKind
  /-- The bytes that are left. -/
  bytes : List UInt8

namespace DecodeTask

/-- What is worked on after a task: the bytes behind its first record, or those of a message
inside this record. -/
inductive Next : DecodeTask → DecodeTask → Prop where
  | loop {kind : DescriptorKind} {d d' : kind.Value} {bytes rest : List UInt8} :
    readRecord kind.readers d bytes = .ok (d', rest) → Next ⟨kind, bytes⟩ ⟨kind, rest⟩
  | call {kind inner : DescriptorKind} {store : kind.Value → inner.Value → kind.Value}
      {key : Key} {bytes tail chunk rest : List UInt8} :
    Key.read bytes = .ok (key, tail) →
    kind.readers key.number = some (.message inner.decode store) →
    key.wireType = .chunk →
    readChunk tail = .ok (chunk, rest) →
    Next ⟨kind, bytes⟩ ⟨inner, chunk⟩

theorem Next.length {task next : DecodeTask} (h : Next task next) :
    next.bytes.length + 2 ≤ task.bytes.length := by
  cases h with
  | @loop kind d d' bytes rest hread =>
    obtain ⟨record, taken, rfl, hspelled, -⟩ := exists_spelled_of_readRecord hread
    have htwo := hspelled.two_le_length
    show rest.length + 2 ≤ (taken ++ rest).length
    rw [List.length_append]
    omega
  | @call kind inner store key bytes tail chunk rest hkey hfield hwire hchunk =>
    have htail := length_readKey hkey
    have hlen := length_readChunk hchunk
    show chunk.length + 2 ≤ bytes.length
    omega

/-- Tasks of which each comes after the one before it are at most half as many as the bytes
of the first. -/
theorem two_mul_length_le {task : DecodeTask} {tasks : List DecodeTask}
    (h : (task :: tasks).IsChain Next) : 2 * tasks.length ≤ task.bytes.length := by
  induction tasks generalizing task with
  | nil => simp
  | cons next tasks ih =>
    obtain ⟨hnext, hrest⟩ := List.isChain_cons_cons.mp h
    have hlen := hnext.length
    have htasks := ih hrest
    simp
    omega

end DecodeTask

/-! ## Sets -/

/-- **Decoding never amplifies.**  A set that is decoded weighs no more than its bytes are
long, so at most half as many parts are in it, and it is at most half as deep.  Each task
that a decoder comes to has fewer bytes than the one before it, and there are at most half
as many in a row as bytes at the start. -/
theorem FileSet.decode_never_amplifies (bytes : List UInt8) :
    (∀ set, FileSet.decode bytes = .ok set →
      Outline.weightOf set.parts ≤ bytes.length ∧
      2 * Outline.countOf set.parts ≤ bytes.length ∧
      2 * Outline.depthOf set.parts ≤ bytes.length) ∧
    (∀ task next : DecodeTask, task.Next next → next.bytes.length < task.bytes.length) ∧
    ∀ tasks, (⟨.set, bytes⟩ :: tasks).IsChain DecodeTask.Next →
      2 * tasks.length ≤ bytes.length := by
  refine ⟨fun set h => ?_, fun task next h => ?_, fun tasks => DecodeTask.two_mul_length_le⟩
  · have hweight : Outline.weightOf set.parts ≤ bytes.length :=
      DescriptorKind.weight_le_of_decode .set h
    obtain ⟨hcount, hdepth⟩ := Outline.two_mul_le_weightOf set.parts
    exact ⟨hweight, Nat.le_trans hcount hweight, Nat.le_trans hdepth hweight⟩
  · have hlen := h.length
    omega

/-- A file that is named twice.  The first name is lost, and the decoder comes to the bytes
of the file, to those of its second name and to the end. -/
theorem FileSet.decode_never_amplifies_name_lost :
    let first : List UInt8 := [0x0a, 0x01, 0x61]
    let second : List UInt8 := [0x0a, 0x01, 0x62]
    let bytes : List UInt8 := [0x0a, 0x06] ++ (first ++ second)
    let set : FileSet := ⟨[{ name := some "b" }]⟩
    let tasks : List DecodeTask := [⟨.file, first ++ second⟩, ⟨.file, second⟩, ⟨.file, []⟩]
    FileSet.decode bytes = .ok set ∧
    Outline.weightOf set.parts = 5 ∧ Outline.weightOf set.parts ≤ bytes.length ∧
    (⟨.set, bytes⟩ :: tasks).IsChain DecodeTask.Next ∧ 2 * tasks.length ≤ bytes.length ∧
    (first ++ second).length < bytes.length := by
  intro first second bytes set tasks
  have hname : ∀ {c : UInt8}, WireRecord.Spelled ⟨1, .chunk [c]⟩ [0x0a, 0x01, c] :=
    WireRecord.spelled_chunk rfl (by decide) rfl (by decide)
  have hfile : WireRecord.Spelled ⟨1, .chunk (first ++ second)⟩ bytes :=
    WireRecord.spelled_chunk rfl (by decide) rfl (by decide)
  have hread : FileDescriptor.decode (first ++ second) = .ok { name := some "b" } := by
    rw [FileDescriptor.decode, readRecords_of_spelled hname]
    exact (readRecords_eq_store hname _).trans rfl
  have hdecode : FileSet.decode bytes = .ok set := by
    rw [FileSet.decode, readRecords_eq_store hfile]
    exact congrArg (Except.map _) hread
  have hcall : DecodeTask.Next ⟨.set, bytes⟩ ⟨.file, first ++ second⟩ :=
    @DecodeTask.Next.call .set .file _ ⟨1, .chunk⟩ bytes _ _ [] rfl rfl rfl rfl
  have hfirst : DecodeTask.Next ⟨.file, first ++ second⟩ ⟨.file, second⟩ :=
    @DecodeTask.Next.loop .file ({} : FileDescriptor) ({ name := some "a" } : FileDescriptor) _ _
      ((readRecord_of_spelled hname _ _ _).trans rfl)
  have hsecond : DecodeTask.Next ⟨.file, second⟩ ⟨.file, []⟩ :=
    @DecodeTask.Next.loop .file ({} : FileDescriptor) ({ name := some "b" } : FileDescriptor) _ _
      ((readRecord_of_spelled hname _ _ []).trans rfl)
  have hchain : (⟨.set, bytes⟩ :: tasks).IsChain DecodeTask.Next := by
    simp [tasks, hcall, hfirst, hsecond]
  obtain ⟨hweight, hnext, hrow⟩ := FileSet.decode_never_amplifies bytes
  exact ⟨hdecode, rfl, (hweight set hdecode).1, hchain, hrow tasks hchain, hnext _ _ hcall⟩

end ProtoSchema
