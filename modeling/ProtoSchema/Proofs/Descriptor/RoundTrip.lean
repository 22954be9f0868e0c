import ProtoSchema.Descriptor.Decode
import ProtoSchema.Descriptor.Encode
import ProtoSchema.Proofs.Wire.Records

/-!
# Decoding undoes encoding

Every descriptor is read back from its encoded form.  For each kind of
descriptor the encoder is gone through part by part.  A part sets one field of
the descriptor, and `Reads` says that the decoder sets the same one.

Messages contain messages.  `MessageDescriptor.decode_eq` first removes the
guard of the decoder, which compares the bytes of an inner message with those of
the outer one.  The round trip of a message is then an induction on the number
of its bytes.

`FileSet.decode_encode_eq_ok` is the round trip of a whole set.  It asks that the
encoded form of every file is within the limit.  What is inside a file is then
within the limit as well, since its bytes are among those of the file.
-/

namespace ProtoSchema

/-! ## Parts of messages -/

theorem EnumValueDescriptor.decode_encode (value : EnumValueDescriptor)
    (h : value.encode.length ≤ maxChunk) : decode value.encode = .ok value := by
  have hname := Reads.presentText readers 1 (fun o d => { d with name := o.or d.name })
    (fun _ => rfl) rfl value.name
  have hnumber := Reads.presentInt32 readers 2 (fun o d => { d with number := o.or d.number })
    (fun _ => rfl) rfl value.number
  have hall := (hname.append hnumber).decode h {}
  simp only [Function.comp_apply, Option.or_none] at hall
  exact hall

theorem EnumDescriptor.decode_encode (enum : EnumDescriptor)
    (h : enum.encode.length ≤ maxChunk) : decode enum.encode = .ok enum := by
  have hname := Reads.presentText readers 1 (fun o d => { d with name := o.or d.name })
    (fun _ => rfl) rfl enum.name
  have hvalues := Reads.messages readers 2 EnumValueDescriptor.decode
    (fun l d => { d with values := d.values ++ l }) (by simp) (by simp) rfl enum.values
    (fun v _ => v.decode_encode)
  have hall := (hname.append hvalues).decode h {}
  simp only [Function.comp_apply, Option.or_none, List.nil_append] at hall
  exact hall

theorem FieldDescriptor.decode_encode (field : FieldDescriptor)
    (h : field.encode.length ≤ maxChunk) : decode field.encode = .ok field := by
  have hname := Reads.presentText readers 1 (fun o d => { d with name := o.or d.name })
    (fun _ => rfl) rfl field.name
  have hnumber := Reads.presentInt32 readers 3 (fun o d => { d with number := o.or d.number })
    (fun _ => rfl) rfl field.number
  have hlabel := Reads.presentInt32 readers 4 (fun o d => { d with label := o.or d.label })
    (fun _ => rfl) rfl field.label
  have htype := Reads.presentInt32 readers 5 (fun o d => { d with type := o.or d.type })
    (fun _ => rfl) rfl field.type
  have htypeName := Reads.presentText readers 6
    (fun o d => { d with typeName := o.or d.typeName }) (fun _ => rfl) rfl field.typeName
  have hdefault := Reads.presentText readers 7
    (fun o d => { d with defaultText := o.or d.defaultText }) (fun _ => rfl) rfl field.defaultText
  have honeof := Reads.presentInt32 readers 9
    (fun o d => { d with oneofIndex := o.or d.oneofIndex }) (fun _ => rfl) rfl field.oneofIndex
  have hjson := Reads.presentText readers 10
    (fun o d => { d with jsonName := o.or d.jsonName }) (fun _ => rfl) rfl field.jsonName
  have hoptional := Reads.presentBool readers 17
    (fun o d => { d with proto3Optional := o.or d.proto3Optional }) (fun _ => rfl) rfl
    field.proto3Optional
  have hall := (hname.append hnumber |>.append hlabel |>.append htype |>.append htypeName
    |>.append hdefault |>.append honeof |>.append hjson |>.append hoptional).decode h {}
  simp only [Function.comp_apply, Option.or_none] at hall
  exact hall

theorem OneofDescriptor.decode_encode (oneof : OneofDescriptor)
    (h : oneof.encode.length ≤ maxChunk) : decode oneof.encode = .ok oneof := by
  have hname := Reads.presentText readers 1 (fun o d => { d with name := o.or d.name })
    (fun _ => rfl) rfl oneof.name
  have hall := hname.decode h {}
  simp only [Option.or_none] at hall
  exact hall

theorem MessageOptions.decode_encode (options : MessageOptions)
    (h : options.encode.length ≤ maxChunk) : decode options.encode = .ok options := by
  have hentry := Reads.presentBool readers 7 (fun o d => { d with mapEntry := o.or d.mapEntry })
    (fun _ => rfl) rfl options.mapEntry
  have hall := hentry.decode h {}
  simp only [Option.or_none] at hall
  exact hall

/-! ## Messages -/

namespace MessageDescriptor

section Guard

variable {f g : List UInt8 → Except DecodeError MessageDescriptor}

/-- Only the third field of a message depends on how inner messages are decoded. -/
theorem readersWith_of_ne_three : ∀ {n : Nat}, n ≠ 3 → readersWith f n = readersWith g n
  | 0, _ | 1, _ | 2, _ | 4, _ | 5, _ | 6, _ | 7, _ | 8, _ => rfl
  | 3, h => absurd rfl h
  | _ + 9, _ => rfl

/-- A record is read alike by two decoders of inner messages that agree on what
is shorter than the record. -/
theorem readRecord_congr {bytes : List UInt8}
    (h : ∀ chunk : List UInt8, chunk.length < bytes.length → f chunk = g chunk)
    (acc : MessageDescriptor) :
    readRecord (readersWith f) acc bytes = readRecord (readersWith g) acc bytes := by
  unfold readRecord
  cases hkey : Key.read bytes with
  | error e => rfl
  | ok read =>
    obtain ⟨⟨n, wireType⟩, rest⟩ := read
    have hrest := length_readKey hkey
    by_cases hn : n = 3
    · subst hn
      have hpayload : FieldReader.readPayload (.message f fun d m : MessageDescriptor =>
            { d with nested := d.nested ++ [m] }) acc rest =
          FieldReader.readPayload (.message g fun d m : MessageDescriptor =>
            { d with nested := d.nested ++ [m] }) acc rest := by
        unfold FieldReader.message FieldReader.readPayload
        cases hchunk : readChunk rest with
        | error e => rfl
        | ok read =>
          have := length_readChunk hchunk
          simp only
          rw [h read.1 (by omega)]
      simp only [readersWith]
      rw [hpayload]
      rfl
    · simp only [readersWith_of_ne_three (f := f) (g := g) hn]

theorem readRecords_congr {bytes : List UInt8}
    (h : ∀ chunk : List UInt8, chunk.length < bytes.length → f chunk = g chunk)
    (acc : MessageDescriptor) :
    readRecords (readersWith f) acc bytes = readRecords (readersWith g) acc bytes := by
  by_cases hne : bytes = []
  · rw [hne, readRecords_nil, readRecords_nil]
  have hstep := readRecord_congr h acc
  cases hread : readRecord (readersWith g) acc bytes with
  | error e =>
    rw [readRecords_of_error hne hread, readRecords_of_error hne (hstep.trans hread)]
  | ok read =>
    have hlen := length_readRecord hread
    rw [readRecords_of_readRecord hread, readRecords_of_readRecord (hstep.trans hread)]
    exact readRecords_congr (fun chunk hchunk => h chunk (Nat.lt_trans hchunk hlen)) read.1
termination_by bytes.length

end Guard

/-- The messages inside a message are decoded like the message itself. -/
theorem decode_eq (bytes : List UInt8) :
    decode bytes = readRecords (readersWith decode) {} bytes := by
  have hguard : ∀ chunk : List UInt8, chunk.length < bytes.length →
      (if _h : chunk.length < bytes.length then decode chunk else .error .unexpectedEnd) =
        decode chunk := fun chunk hchunk => dif_pos hchunk
  rw [decode]
  exact readRecords_congr hguard {}

theorem encodeInside_eq_flatMap (nested : List MessageDescriptor) :
    encodeInside nested = nested.flatMap fun message => writeChunk 3 message.encode := by
  induction nested with
  | nil => rfl
  | cons message nested ih => rw [encodeInside, ih, List.flatMap_cons]

/-- The encoded form of a message, with that of the messages inside it as a list. -/
theorem encode_eq (message : MessageDescriptor) :
    message.encode =
      writePresent (writeText 1) message.name ++
        (message.fields.flatMap fun field => writeChunk 2 field.encode) ++
        (message.nested.flatMap fun inner => writeChunk 3 inner.encode) ++
        (message.enums.flatMap fun enum => writeChunk 4 enum.encode) ++
        writePresent (fun options => writeChunk 7 (MessageOptions.encode options))
          message.options ++
        (message.oneofs.flatMap fun oneof => writeChunk 8 oneof.encode) := by
  cases message
  rw [encode, encodeInside_eq_flatMap]

/-- A message inside another has fewer bytes than the other. -/
theorem length_encode_nested {message inner : MessageDescriptor} (h : inner ∈ message.nested) :
    inner.encode.length < message.encode.length := by
  have hmem : writeChunk 3 inner.encode ∈
      message.nested.map fun inner => writeChunk 3 inner.encode := List.mem_map_of_mem h
  have hpart := (List.sublist_flatten_of_mem hmem).length_le
  have hchunk := length_writeChunk 3 inner.encode
  rw [← List.flatMap_def] at hpart
  rw [encode_eq message]
  simp only [List.length_append]
  omega

/-- A message is made of its parts.  It contains messages, so this does not hold
by definition. -/
theorem mk_eta (d : MessageDescriptor) :
    (⟨d.name, d.fields, d.nested, d.enums, d.options, d.oneofs⟩ : MessageDescriptor) = d := by
  cases d
  rfl

theorem decode_encode (message : MessageDescriptor) (h : message.encode.length ≤ maxChunk) :
    decode message.encode = .ok message := by
  have hinner : ∀ inner ∈ message.nested, inner.encode.length ≤ maxChunk →
      decode inner.encode = .ok inner := fun inner hmem hlen => by
    have := length_encode_nested hmem
    exact decode_encode inner hlen
  have hname := Reads.presentText (readersWith decode) 1
    (fun o d => { d with name := o.or d.name }) mk_eta rfl message.name
  have hfields := Reads.messages (readersWith decode) 2 FieldDescriptor.decode
    (fun l d => { d with fields := d.fields ++ l }) (by simp [mk_eta]) (by simp) rfl
    message.fields (fun field _ => field.decode_encode)
  have hnested := Reads.messages (readersWith decode) 3 decode
    (fun l d => { d with nested := d.nested ++ l }) (by simp [mk_eta]) (by simp) rfl
    message.nested hinner
  have henums := Reads.messages (readersWith decode) 4 EnumDescriptor.decode
    (fun l d => { d with enums := d.enums ++ l }) (by simp [mk_eta]) (by simp) rfl
    message.enums (fun enum _ => enum.decode_encode)
  have hoptions := Reads.presentMessage (readersWith decode) 7 MessageOptions.decode
    (fun o d => { d with options := o.or d.options }) mk_eta rfl
    MessageOptions.decode_encode message.options
  have honeofs := Reads.messages (readersWith decode) 8 OneofDescriptor.decode
    (fun l d => { d with oneofs := d.oneofs ++ l }) (by simp [mk_eta]) (by simp) rfl
    message.oneofs (fun oneof _ => oneof.decode_encode)
  have hall := hname.append hfields |>.append hnested |>.append henums |>.append hoptions
    |>.append honeofs
  rw [← encode_eq] at hall
  have hdecode := hall.decode h {}
  simp only [Function.comp_apply, Option.or_none, List.nil_append, mk_eta] at hdecode
  rw [decode_eq]
  exact hdecode
termination_by message.encode.length

end MessageDescriptor

/-! ## Files and sets -/

theorem FileDescriptor.decode_encode (file : FileDescriptor)
    (h : file.encode.length ≤ maxChunk) : decode file.encode = .ok file := by
  have hname := Reads.presentText readers 1 (fun o d => { d with name := o.or d.name })
    (fun _ => rfl) rfl file.name
  have hpackage := Reads.presentText readers 2 (fun o d => { d with package := o.or d.package })
    (fun _ => rfl) rfl file.package
  have hdependencies := Reads.texts readers 3
    (fun l d => { d with dependencies := d.dependencies ++ l }) (by simp) (by simp) rfl
    file.dependencies
  have hmessages := Reads.messages readers 4 MessageDescriptor.decode
    (fun l d => { d with messages := d.messages ++ l }) (by simp) (by simp) rfl file.messages
    (fun message _ => message.decode_encode)
  have henums := Reads.messages readers 5 EnumDescriptor.decode
    (fun l d => { d with enums := d.enums ++ l }) (by simp) (by simp) rfl file.enums
    (fun enum _ => enum.decode_encode)
  have hdialect := Reads.presentText readers 12 (fun o d => { d with dialect := o.or d.dialect })
    (fun _ => rfl) rfl file.dialect
  have hall := (hname.append hpackage |>.append hdependencies |>.append hmessages
    |>.append henums |>.append hdialect).decode h {}
  simp only [Function.comp_apply, Option.or_none, List.nil_append] at hall
  exact hall

/-- The files of a set are read one after the other, each within the limit. -/
theorem FileSet.readRecords_files (files : List FileDescriptor)
    (h : ∀ file ∈ files, file.encode.length ≤ maxChunk) (set : FileSet) :
    readRecords readers set (files.flatMap fun file => writeChunk 1 file.encode) =
      .ok { set with files := set.files ++ files } := by
  induction files generalizing set with
  | nil => rw [List.flatMap_nil, readRecords_nil, List.append_nil]
  | cons file files ih =>
    have hfile := h file (.head files)
    have hdecode : (FileDescriptor.decode file.encode).map
          (fun f => ({ set with files := set.files ++ [f] } : FileSet)) =
        .ok { set with files := set.files ++ [file] } := by
      rw [file.decode_encode hfile]
      rfl
    rw [List.flatMap_cons, readRecords_writeChunk rfl (by decide) hfile hdecode,
      ih (fun f hf => h f (.tail file hf)), List.append_assoc]
    rfl

/-- Decoding undoes encoding for every set whose encoded files are within the
limit.  That covers every text and every message in them. -/
theorem FileSet.decode_encode_eq_ok (set : FileSet)
    (h : ∀ file ∈ set.files, file.encode.length ≤ maxChunk) : decode set.encode = .ok set := by
  have hall := readRecords_files set.files h {}
  rw [List.nil_append] at hall
  exact hall

/-- A file with a message in a message, an empty name, and a negative number. -/
theorem FileSet.decode_encode_negative_number :
    let file : FileDescriptor := {
      name := some "a.proto"
      dependencies := ["b.proto", ""]
      messages := [{
        name := some "Outer"
        fields := [{ name := some "f", number := some (-2147483648), proto3Optional := some true }]
        nested := [{ name := some "Inner", options := some { mapEntry := some false } }] }]
      enums := [{ name := some "Kind", values := [{ name := some "é", number := some (-1) }] }] }
    file.encode.length ≤ maxChunk ∧ FileSet.decode (FileSet.encode ⟨[file]⟩) = .ok ⟨[file]⟩ := by
  intro file
  have hlen : file.encode.length ≤ maxChunk := by decide +kernel
  exact ⟨hlen, FileSet.decode_encode_eq_ok ⟨[file]⟩ (List.forall_mem_singleton.mpr hlen)⟩

end ProtoSchema
