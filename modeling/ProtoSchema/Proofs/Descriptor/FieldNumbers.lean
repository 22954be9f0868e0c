import ProtoSchema.Proofs.Collection.Checked
import ProtoSchema.Proofs.Descriptor.RecordOrder

/-!
# Numbers of fields

The head of a record is a number of 64 bits.  Three of them are the wire type, and the rest
is the number of a field.  Of this, 32 bits are kept (`Key.Reads.of_isVarint`), so a number
that needs more is taken for another one.  Nothing refuses it.

What is known of a descriptor lies in parts, one for each number of a field
(`DescriptorKind.part`).  A record changes no part but the one with the number that was
kept (`DescriptorKind.part_of_store`), and so bytes leave the part of a number alone when
no record in them has it (`DescriptorKind.part_of_lacks`).  Up to 32 bits, this is the
number that was written.  Beyond them, records whose numbers agree in the bits that are
kept stand for each other everywhere (`DescriptorKind.decode_numbers`).
-/

namespace ProtoSchema

open Varint (IsVarint)

/-! ## Heads of records -/

/-- What is read off bytes in front of which the number `k` stands for the head of a
record. -/
inductive Key.Reads (k : Nat) (bytes rest : List UInt8) : Prop where
  /-- There is no such wire type. -/
  | refused (code : WireType.ofCode? (k % 8) = none)
      (read : Key.read bytes = .error (.invalidWireType (k % 8)))
  /-- The wire type and the lowest 32 bits of the number of the field. -/
  | taken (key : Key) (read : Key.read bytes = .ok (key, rest))
      (code : key.wireType.code = k % 8) (number : key.number = k / 8 % UInt32.size)

theorem Key.Reads.of_isVarint {bytes : List UInt8} {k : Nat} (h : IsVarint bytes k)
    (rest : List UInt8) : Key.Reads k (bytes ++ rest) rest := by
  cases hcode : WireType.ofCode? (k % 8) with
  | none =>
    refine .refused hcode ?_
    unfold Key.read
    rw [Varint.read_of_isVarint h]
    simp only [hcode]
  | some wireType =>
    refine .taken ⟨k / 8 % UInt32.size, wireType⟩ ?_ (WireType.code_of_ofCode? hcode) rfl
    unfold Key.read
    rw [Varint.read_of_isVarint h]
    simp only [hcode]

/-- Nothing is lost of a number that has 32 bits. -/
theorem Key.Reads.kept_iff {k : Nat} {bytes rest : List UInt8} (h : Key.Reads k bytes rest)
    {key : Key} (hkey : Key.read bytes = .ok (key, rest)) :
    key.number = k / 8 ↔ k < 8 * UInt32.size := by
  cases h with
  | refused code read =>
    rw [read] at hkey
    cases hkey
  | taken key' read code number =>
    rw [read] at hkey
    cases hkey
    rw [number, Nat.mod_eq_iff_lt (by decide), Nat.div_lt_iff_lt_mul (by decide), Nat.mul_comm]

/-! ## Parts of descriptors -/

/-- What is known of a field of a descriptor. -/
inductive FieldPart where
  /-- The field is not known. -/
  | unknown
  | text (value : Option String)
  | int32 (value : Option Int32)
  | bool (value : Option Bool)
  | options (value : Option MessageOptions)
  | texts (values : List String)
  | files (values : List FileDescriptor)
  | messages (values : List MessageDescriptor)
  | fields (values : List FieldDescriptor)
  | enums (values : List EnumDescriptor)
  | enumValues (values : List EnumValueDescriptor)
  | oneofs (values : List OneofDescriptor)

/-- The part of a set with a number. -/
def FileSet.part (set : FileSet) : Nat → FieldPart
  | 1 => .files set.files
  | _ => .unknown

theorem FileSet.eq_of_part_eq {a b : FileSet} (h : ∀ n, a.part n = b.part n) : a = b := by
  cases a
  cases b
  exact congrArg FileSet.mk (FieldPart.files.inj (h 1))

/-- The part of a file with a number. -/
def FileDescriptor.part (file : FileDescriptor) : Nat → FieldPart
  | 1 => .text file.name
  | 2 => .text file.package
  | 3 => .texts file.dependencies
  | 4 => .messages file.messages
  | 5 => .enums file.enums
  | 12 => .text file.dialect
  | _ => .unknown

theorem FileDescriptor.eq_of_part_eq {a b : FileDescriptor}
    (h : ∀ n, a.part n = b.part n) : a = b := by
  cases a
  cases b
  rw [FileDescriptor.mk.injEq]
  exact ⟨FieldPart.text.inj (h 1), FieldPart.text.inj (h 2), FieldPart.texts.inj (h 3),
    FieldPart.messages.inj (h 4), FieldPart.enums.inj (h 5), FieldPart.text.inj (h 12)⟩

/-- The part of a message with a number. -/
def MessageDescriptor.part (message : MessageDescriptor) : Nat → FieldPart
  | 1 => .text message.name
  | 2 => .fields message.fields
  | 3 => .messages message.nested
  | 4 => .enums message.enums
  | 7 => .options message.options
  | 8 => .oneofs message.oneofs
  | _ => .unknown

theorem MessageDescriptor.eq_of_part_eq {a b : MessageDescriptor}
    (h : ∀ n, a.part n = b.part n) : a = b := by
  cases a
  cases b
  rw [MessageDescriptor.mk.injEq]
  exact ⟨FieldPart.text.inj (h 1), FieldPart.fields.inj (h 2), FieldPart.messages.inj (h 3),
    FieldPart.enums.inj (h 4), FieldPart.options.inj (h 7), FieldPart.oneofs.inj (h 8)⟩

/-- The part of a field with a number. -/
def FieldDescriptor.part (field : FieldDescriptor) : Nat → FieldPart
  | 1 => .text field.name
  | 3 => .int32 field.number
  | 4 => .int32 field.label
  | 5 => .int32 field.type
  | 6 => .text field.typeName
  | 7 => .text field.defaultText
  | 9 => .int32 field.oneofIndex
  | 10 => .text field.jsonName
  | 17 => .bool field.proto3Optional
  | _ => .unknown

theorem FieldDescriptor.eq_of_part_eq {a b : FieldDescriptor}
    (h : ∀ n, a.part n = b.part n) : a = b := by
  cases a
  cases b
  rw [FieldDescriptor.mk.injEq]
  exact ⟨FieldPart.text.inj (h 1), FieldPart.int32.inj (h 3), FieldPart.int32.inj (h 4),
    FieldPart.int32.inj (h 5), FieldPart.text.inj (h 6), FieldPart.text.inj (h 7),
    FieldPart.int32.inj (h 9), FieldPart.text.inj (h 10), FieldPart.bool.inj (h 17)⟩

/-- The part of an enum with a number. -/
def EnumDescriptor.part (enum : EnumDescriptor) : Nat → FieldPart
  | 1 => .text enum.name
  | 2 => .enumValues enum.values
  | _ => .unknown

theorem EnumDescriptor.eq_of_part_eq {a b : EnumDescriptor}
    (h : ∀ n, a.part n = b.part n) : a = b := by
  cases a
  cases b
  rw [EnumDescriptor.mk.injEq]
  exact ⟨FieldPart.text.inj (h 1), FieldPart.enumValues.inj (h 2)⟩

/-- The part of a value of an enum with a number. -/
def EnumValueDescriptor.part (value : EnumValueDescriptor) : Nat → FieldPart
  | 1 => .text value.name
  | 2 => .int32 value.number
  | _ => .unknown

theorem EnumValueDescriptor.eq_of_part_eq {a b : EnumValueDescriptor}
    (h : ∀ n, a.part n = b.part n) : a = b := by
  cases a
  cases b
  rw [EnumValueDescriptor.mk.injEq]
  exact ⟨FieldPart.text.inj (h 1), FieldPart.int32.inj (h 2)⟩

/-- The part of a oneof with a number. -/
def OneofDescriptor.part (oneof : OneofDescriptor) : Nat → FieldPart
  | 1 => .text oneof.name
  | _ => .unknown

theorem OneofDescriptor.eq_of_part_eq {a b : OneofDescriptor}
    (h : ∀ n, a.part n = b.part n) : a = b := by
  cases a
  cases b
  exact congrArg OneofDescriptor.mk (FieldPart.text.inj (h 1))

/-- The part of options with a number. -/
def MessageOptions.part (options : MessageOptions) : Nat → FieldPart
  | 7 => .bool options.mapEntry
  | _ => .unknown

theorem MessageOptions.eq_of_part_eq {a b : MessageOptions}
    (h : ∀ n, a.part n = b.part n) : a = b := by
  cases a
  cases b
  exact congrArg MessageOptions.mk (FieldPart.bool.inj (h 7))

/-- What a field that puts its value into one place leaves alone. -/
theorem FieldReader.Puts.eq_of_store {α β γ : Type} {field : FieldReader α} {put : α → β → α}
    (h : field.Puts put) (view : α → γ) (hview : ∀ acc value, view (put acc value) = view acc)
    {acc acc' : α} {payload : Payload} (hstore : field.store acc payload = .ok acc') :
    view acc' = view acc := by
  rcases h.store_eq payload with ⟨value, hvalue⟩ | ⟨e, he⟩
  · rw [hvalue] at hstore
    cases hstore
    exact hview acc value
  · rw [he] at hstore
    cases hstore

/-- Whether bytes are records none of which is taken for the field with a number. -/
def Lacks (n : Nat) (bytes : List UInt8) : Prop :=
  ∃ records parts, List.Forall₂ WireRecord.Spelled records parts ∧ parts.flatten = bytes ∧
    ∀ record ∈ records, record.number % UInt32.size ≠ n

theorem Lacks.of_spelled {record : WireRecord} {bytes : List UInt8} (h : record.Spelled bytes)
    {n : Nat} (hne : record.number % UInt32.size ≠ n) : Lacks n bytes := by
  refine ⟨[record], [bytes], .cons h .nil, List.append_nil bytes, fun other hother => ?_⟩
  rwa [List.mem_singleton.mp hother]

namespace DescriptorKind

/-- The part of a descriptor with a number. -/
def part : (kind : DescriptorKind) → kind.Value → Nat → FieldPart
  | set => FileSet.part
  | file => FileDescriptor.part
  | message => MessageDescriptor.part
  | field => FieldDescriptor.part
  | enum => EnumDescriptor.part
  | enumValue => EnumValueDescriptor.part
  | oneof => OneofDescriptor.part
  | options => MessageOptions.part

variable {kind : DescriptorKind}

/-- A descriptor is made up of its parts. -/
theorem eq_of_part_eq {d d' : kind.Value} (h : ∀ n, kind.part d n = kind.part d' n) : d = d' := by
  cases kind with
  | set => exact FileSet.eq_of_part_eq h
  | file => exact FileDescriptor.eq_of_part_eq h
  | message => exact MessageDescriptor.eq_of_part_eq h
  | field => exact FieldDescriptor.eq_of_part_eq h
  | enum => exact EnumDescriptor.eq_of_part_eq h
  | enumValue => exact EnumValueDescriptor.eq_of_part_eq h
  | oneof => exact OneofDescriptor.eq_of_part_eq h
  | options => exact MessageOptions.eq_of_part_eq h

/-- A known field puts its value into its own part. -/
theorem part_of_field_store {m n : Nat} {field : FieldReader kind.Value}
    (hfield : kind.readers m = some field) (hne : m ≠ n) {d d' : kind.Value} {payload : Payload}
    (h : field.store d payload = .ok d') : kind.part d' n = kind.part d n := by
  cases kind
  all_goals
    simp only [readers, FileSet.readers, FileDescriptor.readers, MessageDescriptor.readersWith,
      FieldDescriptor.readers, EnumDescriptor.readers, EnumValueDescriptor.readers,
      OneofDescriptor.readers, MessageOptions.readers] at hfield
    split at hfield <;> cases hfield
  -- One goal is left for each known field of each kind, and the part is that of another field.
  all_goals
    refine FieldReader.Puts.eq_of_store (by constructor) (fun d => part _ d n) ?_ h
    intro acc value
    simp only [part, FileSet.part, FileDescriptor.part, MessageDescriptor.part,
      FieldDescriptor.part, EnumDescriptor.part, EnumValueDescriptor.part, OneofDescriptor.part,
      MessageOptions.part]
    split <;> first | rfl | exact absurd rfl hne

/-- A record changes at most the part with the number that is kept of its own. -/
theorem part_of_store {record : WireRecord} {d d' : kind.Value}
    (h : record.store kind.readers d = .ok d') {n : Nat} (hne : record.number % UInt32.size ≠ n) :
    kind.part d' n = kind.part d n := by
  cases hfield : kind.readers (record.number % UInt32.size) with
  | none =>
    rw [WireRecord.store_of_unknown hfield] at h
    cases h
    rfl
  | some field =>
    rw [WireRecord.store, hfield] at h
    exact part_of_field_store hfield hne h

/-- Records that are taken for other fields leave a part alone. -/
theorem part_of_lacks {n : Nat} {bytes : List UInt8} (hlacks : Lacks n bytes) {d d' : kind.Value}
    (h : readRecords kind.readers d bytes = .ok d') : kind.part d' n = kind.part d n := by
  obtain ⟨records, parts, hall, rfl, hne⟩ := hlacks
  induction hall generalizing d with
  | nil =>
    rw [List.flatten_nil, readRecords_nil] at h
    cases h
    rfl
  | @cons record part records parts hspelled _ ih =>
    rw [List.flatten_cons, readRecords_of_spelled hspelled] at h
    obtain ⟨between, hstore, h⟩ := Checked.bind_eq_ok.mp h
    rw [ih (fun other hother => hne other (.tail record hother)) h]
    exact part_of_store hstore (hne record (.head records))

/-! ## Numbers that agree -/

/-- Records with one payload stand for each other when what is kept of their numbers
agrees. -/
theorem readRecords_of_agreeing {α : Type} {fields : Nat → Option (FieldReader α)}
    {first second : WireRecord} {u v : List UInt8} (hu : first.Spelled u) (hv : second.Spelled v)
    (hpayload : first.payload = second.payload)
    (hnumber : first.number % UInt32.size = second.number % UInt32.size) (acc : α)
    (b : List UInt8) :
    readRecords fields acc (u ++ b) = readRecords fields acc (v ++ b) := by
  have hstore : first.store fields acc = second.store fields acc := by
    rw [WireRecord.store, WireRecord.store, hpayload, hnumber]
  rw [readRecords_of_spelled hu, readRecords_of_spelled hv, hstore]

/-- **Numbers of fields are kept up to 32 bits.**  A head is refused for its wire type, or
it is taken with the lowest 32 bits of the number, which are the number exactly when it has
no more.  A descriptor is made up of the parts of its numbers.  Further bytes change a part
only by a record that is taken for it, and records whose numbers agree in what is kept are
taken for one field. -/
theorem decode_numbers (kind : DescriptorKind) :
    (∀ (bytes : List UInt8) (k : Nat), IsVarint bytes k → ∀ rest,
      Key.Reads k (bytes ++ rest) rest ∧ ∀ key, Key.read (bytes ++ rest) = .ok (key, rest) →
        (key.number = k / 8 ↔ k < 8 * UInt32.size)) ∧
    (∀ d d' : kind.Value, (∀ n, kind.part d n = kind.part d' n) → d = d') ∧
    ∀ a d, kind.decode a = .ok d →
      (∀ b d', kind.decode (a ++ b) = .ok d' → ∀ n, Lacks n b →
        kind.part d' n = kind.part d n) ∧
      ∀ (first second : WireRecord) (u v : List UInt8), first.Spelled u → second.Spelled v →
        first.payload = second.payload →
        first.number % UInt32.size = second.number % UInt32.size →
        ∀ b, kind.decode (a ++ u ++ b) = kind.decode (a ++ v ++ b) := by
  refine ⟨fun bytes k h rest => ⟨.of_isVarint h rest, fun key hkey => ?_⟩,
    fun _ _ => eq_of_part_eq, fun a d ha => ?_⟩
  · exact (Key.Reads.of_isVarint h rest).kept_iff hkey
  · rw [decode_eq] at ha
    constructor
    · intro b d' h n hlacks
      rw [decode_eq, readRecords_append_of_ok ha] at h
      exact part_of_lacks hlacks h
    · intro first second u v hu hv hpayload hnumber b
      rw [decode_eq, decode_eq, List.append_assoc, List.append_assoc, readRecords_append_of_ok ha,
        readRecords_append_of_ok ha, readRecords_of_agreeing hu hv hpayload hnumber]

/-- Two files named by one byte.  The package of the first one has a number that is 2 in
its lowest 32 bits only, and that of the second one has the number 2. -/
theorem decode_numbers_file :
    let name : List UInt8 := [0x0a, 0x01, 0x61]
    let far : List UInt8 := [0x92, 0x80, 0x80, 0x80, 0x80, 0x01, 0x01, 0x70]
    let near : List UInt8 := [0x12, 0x01, 0x70]
    FileDescriptor.decode (name ++ far) = FileDescriptor.decode (name ++ near) ∧
    (∃ d : FileDescriptor, FileDescriptor.decode (name ++ near) = .ok d ∧
      d.part 1 = .text (some "a")) ∧
    Key.Reads 18 near [0x01, 0x70] ∧
      ∀ key, Key.read near = .ok (key, [0x01, 0x70]) → key.number = 2 := by
  intro name far near
  obtain ⟨hkeys, -, hfile⟩ := decode_numbers .file
  have hname : WireRecord.Spelled ⟨1, .chunk [0x61]⟩ name :=
    WireRecord.spelled_chunk rfl (by decide) rfl (by decide)
  have hfar : WireRecord.Spelled ⟨UInt32.size + 2, .chunk [0x70]⟩ far := by
    refine ⟨[0x92, 0x80, 0x80, 0x80, 0x80, 0x01], _, rfl, ⟨?_, by decide, by decide⟩,
      @Payload.Spelled.chunk [0x01] _ (.single (by decide)) (by decide)⟩
    exact .more (by decide) (.more (by decide) (.more (by decide) (.more (by decide)
      (.more (by decide) (.last (by decide))))))
  have hnear : WireRecord.Spelled ⟨2, .chunk [0x70]⟩ near :=
    WireRecord.spelled_chunk rfl (by decide) rfl (by decide)
  have hdecode : FileDescriptor.decode name = .ok { name := some "a" } := by
    rw [FileDescriptor.decode, readRecords_eq_store hname]
    rfl
  have hboth : FileDescriptor.decode (name ++ near) =
      .ok { name := some "a", package := some "p" } := by
    rw [FileDescriptor.decode, readRecords_append_of_ok hdecode, readRecords_eq_store hnear]
    rfl
  obtain ⟨hparts, hagree⟩ := hfile name _ hdecode
  obtain ⟨hread, hkept⟩ := hkeys [0x12] 18 (.single (by decide)) [0x01, 0x70]
  refine ⟨?_, ⟨_, hboth, ?_⟩, hread, fun key hkey => (hkept key hkey).mpr (by decide)⟩
  · have hsame := hagree _ _ far near hfar hnear rfl (by decide) []
    rwa [List.append_nil, List.append_nil] at hsame
  · exact hparts near _ hboth 1 (.of_spelled hnear (by decide))

/-- A number with a bit too many.  It is taken for 1, and one file is read. -/
theorem exists_number_taken_for_another :
    let head : List UInt8 := [0x8a, 0x80, 0x80, 0x80, 0x80, 0x01]
    let k := 8 * (UInt32.size + 1) + 2
    IsVarint head k ∧ k / 8 = UInt32.size + 1 ∧ Key.read head = .ok (⟨1, .chunk⟩, []) ∧
      WireRecord.Spelled ⟨UInt32.size + 1, .chunk []⟩ (head ++ [0x00]) ∧
      FileSet.decode (head ++ [0x00]) = .ok ⟨[{}]⟩ := by
  intro head k
  have hhead : IsVarint head k := by
    refine ⟨?_, by decide, by decide⟩
    exact .more (by decide) (.more (by decide) (.more (by decide) (.more (by decide)
      (.more (by decide) (.last (by decide))))))
  have hrecord : WireRecord.Spelled ⟨UInt32.size + 1, .chunk []⟩ (head ++ [0x00]) :=
    ⟨head, _, rfl, hhead, @Payload.Spelled.chunk [0x00] _ (.single (by decide)) (by decide)⟩
  refine ⟨hhead, by decide, ?_, hrecord, ?_⟩
  · exact @Key.read_of_isVarint head (UInt32.size + 1) .chunk hhead []
  · rw [FileSet.decode, readRecords_eq_store hrecord]
    exact congrArg (Except.map _) (readRecords_nil FileDescriptor.readers {})

end DescriptorKind

end ProtoSchema
