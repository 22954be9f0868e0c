import ProtoSchema.Proofs.Descriptor.RoundTrip
import ProtoSchema.Proofs.Wire.Order

/-!
# Descriptors and the order of their records

`DescriptorKind` lists the kinds of descriptors, each with its table of known fields and
its decoder.  Every decoder reads records into a blank descriptor
(`DescriptorKind.decode_eq`), and in every table each field has a place of its own
(`DescriptorKind.hasIndependentFields`).

So a decoder steps over records of fields that it does not know, wherever they are, and
takes records of different fields in either order (`DescriptorKind.decode_order`).
-/

namespace ProtoSchema

/-! ## The kinds of descriptors -/

/-- The kinds of descriptors. -/
inductive DescriptorKind where
  | set
  | file
  | message
  | field
  | enum
  | enumValue
  | oneof
  | options

namespace DescriptorKind

/-- What a descriptor of a kind holds. -/
def Value : DescriptorKind → Type
  | set => FileSet
  | file => FileDescriptor
  | message => MessageDescriptor
  | field => FieldDescriptor
  | enum => EnumDescriptor
  | enumValue => EnumValueDescriptor
  | oneof => OneofDescriptor
  | options => MessageOptions

/-- Decodes a descriptor. -/
def decode : (kind : DescriptorKind) → List UInt8 → Except DecodeError kind.Value
  | set => FileSet.decode
  | file => FileDescriptor.decode
  | message => MessageDescriptor.decode
  | field => FieldDescriptor.decode
  | enum => EnumDescriptor.decode
  | enumValue => EnumValueDescriptor.decode
  | oneof => OneofDescriptor.decode
  | options => MessageOptions.decode

/-- The known fields of a descriptor. -/
def readers : (kind : DescriptorKind) → Nat → Option (FieldReader kind.Value)
  | set => FileSet.readers
  | file => FileDescriptor.readers
  | message => MessageDescriptor.readersWith MessageDescriptor.decode
  | field => FieldDescriptor.readers
  | enum => EnumDescriptor.readers
  | enumValue => EnumValueDescriptor.readers
  | oneof => OneofDescriptor.readers
  | options => MessageOptions.readers

/-- A descriptor that nothing was read into. -/
def blank : (kind : DescriptorKind) → kind.Value
  | set => ({} : FileSet)
  | file => ({} : FileDescriptor)
  | message => ({} : MessageDescriptor)
  | field => ({} : FieldDescriptor)
  | enum => ({} : EnumDescriptor)
  | enumValue => ({} : EnumValueDescriptor)
  | oneof => ({} : OneofDescriptor)
  | options => ({} : MessageOptions)

/-- Decoding reads records into a blank descriptor. -/
theorem decode_eq (kind : DescriptorKind) (bytes : List UInt8) :
    kind.decode bytes = readRecords kind.readers kind.blank bytes := by
  cases kind with
  | message => exact MessageDescriptor.decode_eq bytes
  | set | file | field | enum | enumValue | oneof | options => rfl

/-! ## Each field has its place -/

theorem hasIndependentFields (kind : DescriptorKind) : HasIndependentFields kind.readers := by
  intro m n first second hfirst hsecond hne
  cases kind
  all_goals
    simp only [readers, FileSet.readers, FileDescriptor.readers, MessageDescriptor.readersWith,
      FieldDescriptor.readers, EnumDescriptor.readers, EnumValueDescriptor.readers,
      OneofDescriptor.readers, MessageOptions.readers] at hfirst hsecond
    split at hfirst <;> split at hsecond <;> cases hfirst <;> cases hsecond
  -- Two fields of one table are left: the same one twice, or two that set different parts.
  all_goals first
    | exact absurd rfl hne
    | refine FieldReader.Puts.independent (by constructor) (by constructor) ?_
      exact fun _ _ _ => rfl

/-! ## Records in any order -/

/-- After bytes that are decoded, a record of a field that is not known may be left out,
and two records of different fields may change places if each is decoded alone.  What
follows may be anything, and its faults stay the same. -/
theorem decode_order (kind : DescriptorKind) {a : List UInt8} {d : kind.Value}
    (ha : kind.decode a = .ok d) (b : List UInt8) :
    (∀ (record : WireRecord) (u : List UInt8), record.Spelled u → record.number < UInt32.size →
      kind.readers record.number = none → kind.decode (a ++ u ++ b) = kind.decode (a ++ b)) ∧
    ∀ (first second : WireRecord) (r s : List UInt8), first.Spelled r → second.Spelled s →
      first.number < UInt32.size → second.number < UInt32.size →
      first.number ≠ second.number →
      (∃ x, kind.decode r = .ok x) → (∃ y, kind.decode s = .ok y) →
      kind.decode (a ++ r ++ s ++ b) = kind.decode (a ++ s ++ r ++ b) := by
  simp only [decode_eq] at ha ⊢
  constructor
  · intro record u hu hnumber hunknown
    rw [← Nat.mod_eq_of_lt hnumber] at hunknown
    exact readRecords_skip hu hunknown ha b
  · rintro first second r s hr hs hfirst hsecond hne ⟨x, hx⟩ ⟨y, hy⟩
    refine readRecords_swap kind.hasIndependentFields hr hs ?_ hx hy ha b
    rwa [Nat.mod_eq_of_lt hfirst, Nat.mod_eq_of_lt hsecond]

/-- A field with a number.  The key of an unknown record has a byte too many, and of the
two records that change places one has a key of two bytes. -/
theorem decode_order_field :
    let number : List UInt8 := [0x18, 0x05]
    let unknown : List UInt8 := [0x95, 0x00, 0x01, 0x02, 0x03, 0x04]
    let name : List UInt8 := [0x0a, 0x01, 0x78]
    let optional : List UInt8 := [0x88, 0x01, 0x01]
    FieldDescriptor.decode number = .ok { number := some 5 } ∧
    FieldDescriptor.decode (number ++ unknown ++ name) = FieldDescriptor.decode (number ++ name) ∧
    FieldDescriptor.decode (number ++ name ++ optional ++ unknown) =
      FieldDescriptor.decode (number ++ optional ++ name ++ unknown) := by
  intro number unknown name optional
  have hnumber : WireRecord.Spelled ⟨3, .varint 5⟩ number :=
    ⟨[0x18], _, rfl, .single (by decide),
      .varint (.single (by decide))⟩
  have hunknown : WireRecord.Spelled ⟨2, .fixed32 [0x01, 0x02, 0x03, 0x04]⟩ unknown :=
    ⟨[0x95, 0x00], _, rfl, ⟨.more (by decide) (.last (by decide)), by decide, by decide⟩,
      .fixed32 rfl⟩
  have hname : WireRecord.Spelled ⟨1, .chunk [0x78]⟩ name :=
    ⟨[0x0a], _, rfl, .single (by decide),
      @Payload.Spelled.chunk [0x01] _ (.single (by decide)) (by decide)⟩
  have hoptional : WireRecord.Spelled ⟨17, .varint 1⟩ optional :=
    ⟨[0x88, 0x01], _, rfl, ⟨.more (by decide) (.last (by decide)), by decide, by decide⟩,
      .varint (.single (by decide))⟩
  have hdecode : FieldDescriptor.decode number = .ok { number := some 5 } := by
    rw [FieldDescriptor.decode, readRecords_eq_store hnumber]
    rfl
  have hname' : FieldDescriptor.decode name = .ok { name := some "x" } := by
    rw [FieldDescriptor.decode, readRecords_eq_store hname]
    rfl
  have hoptional' : FieldDescriptor.decode optional = .ok { proto3Optional := some true } := by
    rw [FieldDescriptor.decode, readRecords_eq_store hoptional]
    rfl
  refine ⟨hdecode, ?_, ?_⟩
  · exact (decode_order .field hdecode name).1 _ unknown hunknown (by decide) rfl
  · exact (decode_order .field hdecode unknown).2 _ _ name optional hname hoptional (by decide)
      (by decide) (by decide) ⟨_, hname'⟩ ⟨_, hoptional'⟩

end DescriptorKind

end ProtoSchema
