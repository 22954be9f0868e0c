import ProtoSchema.Proofs.Descriptor.FieldNumbers

/-!
# Messages that are given in pieces

The bytes of a message and further bytes of it, one after the other, are the bytes of one
message (`MessageDescriptor.decode_append`).  What there is once is taken from where it is
given last, and what there may be more of is gathered (`MessageDescriptor.followedBy`).

The options of a message are a message themselves.  Their bytes may be put one after the
other in the same way (`MessageOptions.decode_append`), and if they are given in two
records, each with some of the bytes, the options should come to the same.  They do not,
for there is one record of options as far as the message is concerned, which is the last.
Both come to the same exactly when nothing of the first record was to be kept
(`MessageDescriptor.decode_options_twice`).
-/

namespace ProtoSchema

/-! ## Options -/

namespace MessageOptions

/-- Options, and what is given of them later. -/
def followedBy (first second : MessageOptions) : MessageOptions where
  mapEntry := second.mapEntry.or first.mapEntry

/-- Options that were read before stay unless they are given again. -/
theorem readers_commutes (first : MessageOptions) (n : Nat) (field : FieldReader MessageOptions)
    (h : readers n = some field) : field.Commutes first.followedBy := by
  unfold readers at h
  split at h
  · cases h
    refine FieldReader.Puts.commutes (by constructor) fun acc value => ?_
    simp [followedBy]
  · cases h

/-- Bytes of options, one after the other, are bytes of options. -/
theorem decode_append {p : List UInt8} {first : MessageOptions} (h : decode p = .ok first)
    (q : List UInt8) : decode (p ++ q) = (decode q).map first.followedBy := by
  refine readRecords_append_map first.readers_commutes ?_ q
  rw [followedBy, Option.none_or]
  exact h

/-- Options that give the flag in one byte. -/
theorem decode_flag {flag : UInt8} (h : flag.toNat < 128) :
    decode [0x38, flag] = .ok ⟨some (flag.toNat != 0)⟩ := by
  have hspelled : WireRecord.Spelled ⟨7, .varint flag.toNat⟩ [0x38, flag] :=
    ⟨[0x38], [flag], rfl, .single (by decide), .varint (.single h)⟩
  rw [decode, readRecords_eq_store hspelled]
  rfl

/-- Nothing of the options before is left exactly when there is nothing to keep. -/
theorem followedBy_eq_iff {first second : MessageOptions} :
    first.followedBy second = second ↔ second.mapEntry.isSome = true ∨ first.mapEntry = none := by
  cases first with
  | mk before =>
    cases second with
    | mk after =>
      cases after with
      | none => simp [followedBy]
      | some flag => simp [followedBy]

end MessageOptions

/-! ## Messages -/

namespace MessageDescriptor

/-- A message, and what is given of it later. -/
def followedBy (first second : MessageDescriptor) : MessageDescriptor where
  name := second.name.or first.name
  fields := first.fields ++ second.fields
  nested := first.nested ++ second.nested
  enums := first.enums ++ second.enums
  options := second.options.or first.options
  oneofs := first.oneofs ++ second.oneofs

/-- What was read before stays in front of lists, and elsewhere unless it is given again. -/
theorem readers_commutes (first : MessageDescriptor) (n : Nat)
    (field : FieldReader MessageDescriptor) (h : readersWith decode n = some field) :
    field.Commutes first.followedBy := by
  unfold readersWith at h
  split at h <;> cases h
  all_goals
    refine FieldReader.Puts.commutes (by constructor) fun acc value => ?_
    simp [followedBy]

theorem followedBy_blank (first : MessageDescriptor) : first.followedBy {} = first := by
  cases first
  simp [followedBy]

/-- Bytes of a message, one after the other, are bytes of a message. -/
theorem decode_append {a : List UInt8} {first : MessageDescriptor} (h : decode a = .ok first)
    (b : List UInt8) : decode (a ++ b) = (decode b).map first.followedBy := by
  rw [decode_eq] at h
  rw [decode_eq, decode_eq]
  refine readRecords_append_map first.readers_commutes ?_ b
  rw [followedBy_blank]
  exact h

/-- A record of options alone is a message with these options. -/
theorem decode_optionsRecord {p r : List UInt8} {options : MessageOptions}
    (hp : MessageOptions.decode p = .ok options) (hr : WireRecord.Spelled ⟨7, .chunk p⟩ r) :
    decode r = .ok { options := some options } := by
  rw [decode_eq, readRecords_eq_store hr]
  exact congrArg (Except.map _) hp

/-- Bytes without a record of options have no options. -/
theorem options_eq_none_of_lacks {b : List UInt8} {message : MessageDescriptor}
    (h : decode b = .ok message) (hlacks : Lacks 7 b) : message.options = none := by
  rw [decode_eq] at h
  exact FieldPart.options.inj (@DescriptorKind.part_of_lacks .message 7 b hlacks {} message h)

/-- **Of two records of options the first is lost.**  Both are read, and what is around
them is put together, but the options are those of the second record.  The bytes of both
together have the options of the first where the second has none, so the two agree exactly
when there are no such options. -/
theorem decode_options_twice {a b p q r s : List UInt8} {x y : MessageDescriptor}
    {first second : MessageOptions} (ha : decode a = .ok x) (hb : decode b = .ok y)
    (hlacks : Lacks 7 b) (hp : MessageOptions.decode p = .ok first)
    (hq : MessageOptions.decode q = .ok second) (hr : WireRecord.Spelled ⟨7, .chunk p⟩ r)
    (hs : WireRecord.Spelled ⟨7, .chunk q⟩ s) :
    decode (a ++ r ++ s ++ b) = .ok { x.followedBy y with options := some second } ∧
      MessageOptions.decode (p ++ q) = .ok (first.followedBy second) ∧
      (MessageOptions.decode (p ++ q) = .ok second ↔
        second.mapEntry.isSome = true ∨ first.mapEntry = none) := by
  have hboth : MessageOptions.decode (p ++ q) = .ok (first.followedBy second) := by
    rw [MessageOptions.decode_append hp, hq]
    rfl
  refine ⟨?_, hboth, ?_⟩
  · have hnone := options_eq_none_of_lacks hb hlacks
    have hfirst := decode_optionsRecord hp hr
    have hsecond := decode_optionsRecord hq hs
    rw [List.append_assoc, List.append_assoc, decode_append ha, decode_append hfirst,
      decode_append hsecond, hb]
    simp [Except.map, followedBy, hnone]
  · rw [hboth, Except.ok.injEq]
    exact MessageOptions.followedBy_eq_iff

/-- A flag that is given, and taken back in a second record, between a name and a oneof. -/
theorem decode_options_twice_taken_back :
    let name : List UInt8 := [0x0a, 0x01, 0x4d]
    let given : List UInt8 := [0x38, 0x01]
    let takenBack : List UInt8 := [0x38, 0x00]
    let oneof : List UInt8 := [0x42, 0x00]
    decode (name ++ (0x3a :: 0x02 :: given) ++ (0x3a :: 0x02 :: takenBack) ++ oneof) =
        .ok { name := some "M", options := some ⟨some false⟩, oneofs := [{}] } ∧
      MessageOptions.decode (given ++ takenBack) = .ok ⟨some false⟩ := by
  intro name given takenBack oneof
  have hname : WireRecord.Spelled ⟨1, .chunk [0x4d]⟩ name :=
    WireRecord.spelled_chunk rfl (by decide) rfl (by decide)
  have honeof : WireRecord.Spelled ⟨8, .chunk []⟩ oneof :=
    WireRecord.spelled_chunk rfl (by decide) rfl (by decide)
  have hrecord (flag : UInt8) :
      WireRecord.Spelled ⟨7, .chunk [0x38, flag]⟩ [0x3a, 0x02, 0x38, flag] :=
    WireRecord.spelled_chunk rfl (by decide) rfl (by decide)
  have hdecode : decode name = .ok { name := some "M" } := by
    rw [decode_eq, readRecords_eq_store hname]
    rfl
  have hdecode' : decode oneof = .ok { oneofs := [{}] } := by
    rw [decode_eq, readRecords_eq_store honeof]
    exact congrArg (Except.map _) (readRecords_nil OneofDescriptor.readers {})
  have hgiven : MessageOptions.decode given = .ok ⟨some true⟩ :=
    MessageOptions.decode_flag (by decide)
  have htakenBack : MessageOptions.decode takenBack = .ok ⟨some false⟩ :=
    MessageOptions.decode_flag (by decide)
  have hlacks : Lacks 7 oneof := .of_spelled honeof (by decide)
  obtain ⟨hmessage, -, hagree⟩ :=
    decode_options_twice hdecode hdecode' hlacks hgiven htakenBack (hrecord 1) (hrecord 0)
  exact ⟨hmessage, hagree.mpr (.inl rfl)⟩

/-- A flag that is given in the first record only, for the second record is empty. -/
theorem exists_lost_flag :
    let given : List UInt8 := [0x38, 0x01]
    let message : MessageDescriptor := { options := some {} }
    WireRecord.Spelled ⟨7, .chunk given⟩ [0x3a, 0x02, 0x38, 0x01] ∧
      WireRecord.Spelled ⟨7, .chunk []⟩ [0x3a, 0x00] ∧
      decode ([0x3a, 0x02, 0x38, 0x01] ++ [0x3a, 0x00]) = .ok message ∧
      message.isMapEntry = false ∧ MessageOptions.decode (given ++ []) = .ok ⟨some true⟩ := by
  intro given message
  have hfirst : WireRecord.Spelled ⟨7, .chunk given⟩ [0x3a, 0x02, 0x38, 0x01] :=
    WireRecord.spelled_chunk rfl (by decide) rfl (by decide)
  have hsecond : WireRecord.Spelled ⟨7, .chunk []⟩ [0x3a, 0x00] :=
    WireRecord.spelled_chunk rfl (by decide) rfl (by decide)
  have hgiven : MessageOptions.decode given = .ok ⟨some true⟩ :=
    MessageOptions.decode_flag (by decide)
  have hempty : MessageOptions.decode [] = .ok {} := readRecords_nil MessageOptions.readers {}
  refine ⟨hfirst, hsecond, ?_, by decide, hgiven⟩
  rw [decode_append (decode_optionsRecord hgiven hfirst), decode_optionsRecord hempty hsecond]
  rfl

end MessageDescriptor

end ProtoSchema
