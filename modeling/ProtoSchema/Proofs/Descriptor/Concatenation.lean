import ProtoSchema.Proofs.Descriptor.RoundTrip
import ProtoSchema.Proofs.Wire.Order

/-!
# Sets one after the other

A set of files has no end mark and no count in front.  The bytes of a set and those of
another, one after the other, are therefore the bytes of a set again, and its files are
those of the one followed by those of the other.

A set that is cut off is told by its records.  `FileSet.Part` is a record with the files
that it stands for, which is one file when it is the record of a file and none otherwise.
Between two records the cut leaves the files of the records before it.  Anywhere else
the bytes end too early.  `FileSet.decode_concatenation` collects these laws.
-/

namespace ProtoSchema.FileSet

/-! ## Files that are read later -/

theorem append_empty (set : FileSet) : set ++ ({} : FileSet) = set :=
  congrArg FileSet.mk (List.append_nil set.files)

theorem append_assoc (first second third : FileSet) :
    first ++ second ++ third = first ++ (second ++ third) :=
  congrArg FileSet.mk (List.append_assoc ..)

/-- Files that were read before stay in front of those that are read. -/
theorem readers_commutes (set : FileSet) (n : Nat) (field : FieldReader FileSet)
    (h : readers n = some field) : field.Commutes (set ++ ·) := by
  unfold readers at h
  split at h
  · cases h
    exact FieldReader.Puts.commutes (by constructor) fun acc file => append_assoc set acc ⟨[file]⟩
  · cases h

/-- Bytes after those of a set add their files to it, or fail as they do alone. -/
theorem decode_append {bytes : List UInt8} {set : FileSet} (h : decode bytes = .ok set)
    (more : List UInt8) : decode (bytes ++ more) = (decode more).map (set ++ ·) := by
  refine readRecords_append_map (readers_commutes set) ?_ more
  rw [append_empty]
  exact h

/-- A fault in the bytes stays, unless it is that they end too early. -/
theorem decode_append_of_error {bytes : List UInt8} {e : DecodeError}
    (h : decode bytes = .error e) (he : e ≠ .unexpectedEnd) (more : List UInt8) :
    decode (bytes ++ more) = .error e := by
  have hread : readRecords readers {} bytes = .error e := h
  rw [decode, readRecords_append (by rw [hread]; exact fun h => he (Except.error.inj h)), hread]
  rfl

/-! ## Sets as records -/

/-- A record at the top of a set, with the files that it stands for. -/
structure Part where
  /-- The bytes of the record. -/
  bytes : List UInt8
  /-- The files that it stands for. -/
  files : List FileDescriptor
  /-- The bytes are one record. -/
  isRecord : ∃ record : WireRecord, record.Spelled bytes
  /-- Alone, it is a set of these files. -/
  decode_eq : decode bytes = .ok ⟨files⟩

theorem decode_parts (parts : List Part) :
    decode (parts.flatMap Part.bytes) = .ok ⟨parts.flatMap Part.files⟩ := by
  induction parts with
  | nil => exact readRecords_nil readers {}
  | cons part parts ih =>
    rw [List.flatMap_cons, List.flatMap_cons, decode_append part.decode_eq, ih]
    rfl

theorem spelled_parts (parts : List Part) :
    ∃ records, List.Forall₂ WireRecord.Spelled records (parts.map Part.bytes) := by
  induction parts with
  | nil => exact ⟨[], .nil⟩
  | cons part parts ih =>
    obtain ⟨record, hspelled⟩ := part.isRecord
    obtain ⟨records, hall⟩ := ih
    exact ⟨record :: records, .cons hspelled hall⟩

theorem exists_parts_of_spelled {records : List WireRecord} {chunks : List (List UInt8)}
    (hall : List.Forall₂ WireRecord.Spelled records chunks) {set : FileSet}
    (h : decode chunks.flatten = .ok set) :
    ∃ parts : List Part,
      parts.flatMap Part.bytes = chunks.flatten ∧ parts.flatMap Part.files = set.files := by
  induction hall generalizing set with
  | nil =>
    rw [List.flatten_nil, decode, readRecords_nil] at h
    cases h
    exact ⟨[], rfl, rfl⟩
  | @cons record chunk records chunks hspelled _ ih =>
    rw [List.flatten_cons] at h ⊢
    cases hfirst : decode chunk with
    | error e =>
      have hstore : readRecords readers {} chunk = .error e := hfirst
      rw [readRecords_eq_store hspelled] at hstore
      rw [decode, readRecords_of_spelled hspelled, hstore] at h
      cases h
    | ok first =>
      rw [decode_append hfirst] at h
      obtain ⟨more, hmore, rfl⟩ := map_eq_ok.mp h
      obtain ⟨parts, hbytes, hfiles⟩ := ih hmore
      refine ⟨⟨chunk, first.files, ⟨record, hspelled⟩, hfirst⟩ :: parts, ?_, ?_⟩
      · rw [List.flatMap_cons, hbytes]
      · rw [List.flatMap_cons, hfiles, files_append]

/-- The bytes of a set are records, and its files are those of the records. -/
theorem exists_parts {bytes : List UInt8} {set : FileSet} (h : decode bytes = .ok set) :
    ∃ parts : List Part,
      parts.flatMap Part.bytes = bytes ∧ parts.flatMap Part.files = set.files := by
  have hread : readRecords readers {} bytes = .ok set := h
  obtain ⟨records, chunks, hall, rfl⟩ := exists_spelled_of_readRecords hread
  exact exists_parts_of_spelled hall h

/-- A set that is cut off inside a record ends too early. -/
theorem decode_of_cut {parts : List Part} {cut : List UInt8}
    (hcut : cut <+: parts.flatMap Part.bytes)
    (hinside : ∀ k, cut ≠ (parts.take k).flatMap Part.bytes) :
    decode cut = .error .unexpectedEnd := by
  obtain ⟨records, hall⟩ := spelled_parts parts
  have hread : readRecords readers {} (parts.map Part.bytes).flatten =
      .ok ⟨parts.flatMap Part.files⟩ := decode_parts parts
  refine readRecords_of_cut hall hread hcut fun k => ?_
  rw [← List.map_take]
  exact hinside k

/-! ## Concatenation and truncation -/

/-- Bytes may be added to those of a set, and taken from them.  Added bytes add their
files or fail as they do alone, and a fault in the bytes before them stays unless it is
that those end too early.  What is left when bytes are taken away is the files of whole
records, or it ends too early. -/
theorem decode_concatenation (bytes : List UInt8) :
    (∀ set, decode bytes = .ok set →
      (∀ more, decode (bytes ++ more) = (decode more).map (set ++ ·)) ∧
      (∃ parts : List Part,
        parts.flatMap Part.bytes = bytes ∧ parts.flatMap Part.files = set.files) ∧
      ∀ parts : List Part, parts.flatMap Part.bytes = bytes →
        ∀ cut, cut <+: bytes →
          (∀ k, cut = (parts.take k).flatMap Part.bytes →
            decode cut = .ok ⟨(parts.take k).flatMap Part.files⟩) ∧
          ((∀ k, cut ≠ (parts.take k).flatMap Part.bytes) →
            decode cut = .error .unexpectedEnd)) ∧
    ∀ e, decode bytes = .error e → e ≠ .unexpectedEnd →
      ∀ more, decode (bytes ++ more) = .error e := by
  refine ⟨fun set h => ⟨decode_append h, exists_parts h, ?_⟩, fun e h he =>
    decode_append_of_error h he⟩
  rintro parts rfl cut hcut
  refine ⟨fun k hk => ?_, decode_of_cut hcut⟩
  rw [hk]
  exact decode_parts (parts.take k)

/-- The file `a`, and a number of two bytes in a field that is not known. -/
theorem decode_concatenation_named_file :
    let bytes : List UInt8 := [0x0a, 0x03, 0x0a, 0x01, 0x61, 0x10, 0x96, 0x01]
    let set : FileSet := ⟨[{ name := some "a" }]⟩
    decode bytes = .ok set ∧
    decode (bytes ++ bytes) = .ok (set ++ set) ∧
    decode [0x0a, 0x03, 0x0a, 0x01, 0x61] = .ok set ∧
    decode [0x0a, 0x03, 0x0a, 0x01, 0x61, 0x10, 0x96] = .error .unexpectedEnd ∧
    decode ([0x0e] ++ bytes) = .error (.invalidWireType 6) := by
  intro bytes set
  have hname : WireRecord.Spelled ⟨1, .chunk [0x61]⟩ [0x0a, 0x01, 0x61] :=
    ⟨[0x0a], _, rfl, .single (by decide),
      @Payload.Spelled.chunk [0x01] _ (.single (by decide)) (by decide)⟩
  have hfile : WireRecord.Spelled ⟨1, .chunk [0x0a, 0x01, 0x61]⟩ [0x0a, 0x03, 0x0a, 0x01, 0x61] :=
    ⟨[0x0a], _, rfl, .single (by decide),
      @Payload.Spelled.chunk [0x03] _ (.single (by decide)) (by decide)⟩
  have hother : WireRecord.Spelled ⟨2, .varint 150⟩ [0x10, 0x96, 0x01] :=
    ⟨[0x10], _, rfl, .single (by decide),
      .varint ⟨.more (by decide) (.last (by decide)), by decide, by decide⟩⟩
  have hdecode : FileDescriptor.decode [0x0a, 0x01, 0x61] = .ok { name := some "a" } := by
    rw [FileDescriptor.decode, readRecords_eq_store hname]
    rfl
  let file : Part := ⟨_, set.files, ⟨_, hfile⟩, by
    rw [decode, readRecords_eq_store hfile]
    exact congrArg (Except.map _) hdecode⟩
  let other : Part := ⟨_, [], ⟨_, hother⟩, by
    rw [decode, readRecords_eq_store hother]
    rfl⟩
  have hset : decode bytes = .ok set := decode_parts [file, other]
  obtain ⟨hadd, -, hcut⟩ := (decode_concatenation bytes).1 set hset
  refine ⟨hset, ?_, ?_, ?_, ?_⟩
  · rw [hadd, hset]
    rfl
  · exact (hcut [file, other] rfl _ (by decide)).1 1 rfl
  · refine (hcut [file, other] rfl _ (by decide)).2 ?_
    -- The first record has five bytes, and both have eight.
    rintro (_ | _ | k) hk
    all_goals
      have hlen := congrArg List.length hk
      simp [file, other] at hlen
  · have hfault : decode [0x0e] = .error (.invalidWireType 6) :=
      readRecords_of_error (by decide) rfl
    exact (decode_concatenation [0x0e]).2 _ hfault (by decide) bytes

end ProtoSchema.FileSet
