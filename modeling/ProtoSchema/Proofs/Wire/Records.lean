import ProtoSchema.Wire.Encode

/-!
# Reading written records

`readRecords` is a loop over bytes.  Everything that is said about it here is
about one turn of the loop in front of any further bytes.  The bytes of a field
do something to the message that was read so far, and the loop goes on with the
bytes after them.

`Reads` states that for bytes of any kind.  A written field satisfies it when
the table of known fields has a reader of the right kind under its number
(`Reads.int32`, `Reads.text`, `Reads.message`, ...), bytes one after the other
satisfy it when each part does (`Reads.append`), and so do an absent field
(`Reads.present`) and the records of a list (`Reads.list`).  An encoder is
therefore read back part by part, in the order in which it writes.
-/

namespace ProtoSchema

variable {α : Type}

/-! ## One turn of the loop -/

theorem readRecords_nil (fields : Nat → Option (FieldReader α)) (acc : α) :
    readRecords fields acc [] = .ok acc := by
  rw [readRecords]
  rfl

/-- A record that is read makes way for the bytes after it. -/
theorem readRecords_of_readRecord {fields : Nat → Option (FieldReader α)} {acc acc' : α}
    {bytes rest : List UInt8} (h : readRecord fields acc bytes = .ok (acc', rest)) :
    readRecords fields acc bytes = readRecords fields acc' rest := by
  have hlen := length_readRecord h
  have hne : bytes.isEmpty = false := by
    cases bytes with
    | nil => cases hlen
    | cons byte bytes => rfl
  rw [readRecords, hne, if_neg Bool.false_ne_true]
  split
  · next e he =>
    rw [h] at he
    cases he
  · next acc₁ rest₁ he =>
    rw [h] at he
    cases he
    rfl

/-- A record that is not read stops the loop. -/
theorem readRecords_of_error {fields : Nat → Option (FieldReader α)} {acc : α}
    {bytes : List UInt8} {e : DecodeError} (hne : bytes ≠ [])
    (h : readRecord fields acc bytes = .error e) : readRecords fields acc bytes = .error e := by
  have hne : bytes.isEmpty = false := by
    cases bytes with
    | nil => exact absurd rfl hne
    | cons byte bytes => rfl
  rw [readRecords, hne, if_neg Bool.false_ne_true]
  split
  · next e' he =>
    rw [h] at he
    cases he
    rfl
  · next acc₁ rest₁ he =>
    rw [h] at he
    cases he

/-! ### A record in two parts -/

/-- What comes after the head of a record. -/
def readAfterKey (fields : Nat → Option (FieldReader α)) (acc : α) (key : Key)
    (bytes : List UInt8) : Except DecodeError (α × List UInt8) :=
  match fields key.number with
  | none => (skipPayload key.wireType bytes).map fun rest => (acc, rest)
  | some field =>
    if key.wireType = field.wireType then field.readPayload acc bytes
    else .error (.invalidWireType key.wireType.code)

theorem readRecord_eq (fields : Nat → Option (FieldReader α)) (acc : α) (bytes : List UInt8) :
    readRecord fields acc bytes =
      Key.read bytes >>= fun (key, rest) => readAfterKey fields acc key rest := by
  unfold readRecord
  cases Key.read bytes <;> rfl

/-! ## Written fields -/

/-- A written number reaches the reader of its field. -/
theorem readRecords_writeNumber {fields : Nat → Option (FieldReader α)} {n v : Nat}
    {store : α → Nat → α} (hfield : fields n = some (.number store)) (hn : n < UInt32.size)
    (hv : v < UInt64.size) (acc : α) (rest : List UInt8) :
    readRecords fields acc (writeNumber n v ++ rest) = readRecords fields (store acc v) rest := by
  apply readRecords_of_readRecord
  have hkey : Key.read (Key.write ⟨n, .varint⟩ ++ (Varint.write v ++ rest)) =
      .ok (⟨n, .varint⟩, Varint.write v ++ rest) := Key.read_write hn _
  rw [readRecord, writeNumber, List.append_assoc, hkey]
  simp only [hfield, FieldReader.wireType, if_true]
  rw [FieldReader.readPayload, Varint.read_write hv]
  rfl

/-- Written bytes within the limit reach the reader of their field. -/
theorem readRecords_writeChunk {fields : Nat → Option (FieldReader α)} {n : Nat}
    {chunk : List UInt8} {store : α → List UInt8 → Except DecodeError α} {acc acc' : α}
    (hfield : fields n = some (.bytes store)) (hn : n < UInt32.size)
    (hlen : chunk.length ≤ maxChunk) (hstore : store acc chunk = .ok acc') (rest : List UInt8) :
    readRecords fields acc (writeChunk n chunk ++ rest) = readRecords fields acc' rest := by
  apply readRecords_of_readRecord
  have hkey : Key.read (Key.write ⟨n, .chunk⟩ ++ (writeCounted chunk ++ rest)) =
      .ok (⟨n, .chunk⟩, writeCounted chunk ++ rest) := Key.read_write hn _
  rw [readRecord, writeChunk, List.append_assoc, hkey]
  simp only [hfield, FieldReader.wireType, if_true]
  rw [FieldReader.readPayload, readChunk_write hlen]
  simp only [hstore]
  rfl

/-- A chunk is shorter than the record that is written for it. -/
theorem length_writeChunk (n : Nat) (chunk : List UInt8) :
    chunk.length < (writeChunk n chunk).length := by
  have hpos : 0 < (Key.write ⟨n, .chunk⟩).length := by
    unfold Key.write
    rw [Varint.write]
    split
    · exact Nat.one_pos
    · exact Nat.succ_pos _
  rw [writeChunk, writeCounted, List.length_append, List.length_append]
  omega

/-! ## Text -/

/-- The bytes from a place on come after those that were collected before. -/
theorem toList_loop (bytes : ByteArray) (i : Nat) (collected : List UInt8) :
    ByteArray.toList.loop bytes i collected = collected.reverse ++ bytes.data.toList.drop i := by
  fun_induction ByteArray.toList.loop bytes i collected with
  | case1 i collected hi ih =>
    have hi' : i < bytes.data.toList.length := hi
    have hget : bytes.get! i = bytes.data.toList[i] := getElem!_pos bytes.data i hi
    rw [ih, List.drop_eq_getElem_cons hi', List.reverse_cons, List.append_assoc, hget]
    rfl
  | case2 i collected hi =>
    have hi' : bytes.data.toList.length ≤ i := Nat.le_of_not_lt hi
    rw [List.drop_eq_nil_of_le hi', List.append_nil]

/-- Text is read back from its bytes. -/
theorem readText_toUTF8 (text : String) : readText text.toUTF8.toList = .ok text := by
  have hbytes : (⟨text.toUTF8.toList.toArray⟩ : ByteArray) = text.toByteArray := by
    rw [String.toUTF8_eq_toByteArray, ByteArray.toList, toList_loop]
    rfl
  have htext : String.fromUTF8? text.toByteArray = some text := dif_pos text.isValidUTF8
  rw [readText, hbytes, htext]

/-! ## Bytes that are read back -/

/-- Bytes that do `change` to what was read before, whatever follows them, as
long as they are within the limit. -/
def Reads (fields : Nat → Option (FieldReader α)) (bytes : List UInt8) (change : α → α) : Prop :=
  bytes.length ≤ maxChunk →
    ∀ acc rest, readRecords fields acc (bytes ++ rest) = readRecords fields (change acc) rest

namespace Reads

variable {fields : Nat → Option (FieldReader α)}

/-- Bytes one after the other do what each of them does, in order. -/
theorem append {first second : List UInt8} {f g : α → α} (hf : Reads fields first f)
    (hg : Reads fields second g) : Reads fields (first ++ second) (g ∘ f) := by
  intro hlen acc rest
  rw [List.length_append] at hlen
  rw [List.append_assoc, hf (by omega), hg (by omega)]
  rfl

/-- A message whose bytes do `change` is what `change` makes of nothing read. -/
theorem decode {bytes : List UInt8} {change : α → α} (h : Reads fields bytes change)
    (hlen : bytes.length ≤ maxChunk) (acc : α) :
    readRecords fields acc bytes = .ok (change acc) := by
  have hall := h hlen acc []
  rw [List.append_nil, readRecords_nil] at hall
  exact hall

theorem int32 {n : Nat} {store : α → Int32 → α} (hfield : fields n = some (.int32 store))
    (value : Int32) (hn : n < UInt32.size := by decide) :
    Reads fields (writeInt32 n value) (store · value) := by
  intro _ acc rest
  have h := readRecords_writeNumber hfield hn (extended_lt value) acc rest
  rw [int32_ofNat_extended] at h
  exact h

theorem bool {n : Nat} {store : α → Bool → α} (hfield : fields n = some (.bool store))
    (value : Bool) (hn : n < UInt32.size := by decide) :
    Reads fields (writeBool n value) (store · value) := by
  intro _ acc rest
  cases value with
  | false => exact readRecords_writeNumber (v := 0) hfield hn (by decide) acc rest
  | true => exact readRecords_writeNumber (v := 1) hfield hn (by decide) acc rest

theorem text {n : Nat} {store : α → String → α} (hfield : fields n = some (.text store))
    (value : String) (hn : n < UInt32.size := by decide) :
    Reads fields (writeText n value) (store · value) := by
  intro hlen acc rest
  have hchunk := length_writeChunk n value.toUTF8.toList
  rw [writeText] at hlen ⊢
  refine readRecords_writeChunk hfield hn (by omega) ?_ rest
  rw [readText_toUTF8]
  rfl

/-- A message inside another is read back when it is decoded from its own
bytes, which are within the limit as well. -/
theorem message {β : Type} {n : Nat} {decode : List UInt8 → Except DecodeError β}
    {store : α → β → α} (hfield : fields n = some (.message decode store)) {value : β}
    {chunk : List UInt8} (hdecode : chunk.length ≤ maxChunk → decode chunk = .ok value)
    (hn : n < UInt32.size := by decide) :
    Reads fields (writeChunk n chunk) (store · value) := by
  intro hlen acc rest
  have hchunk := length_writeChunk n chunk
  refine readRecords_writeChunk hfield hn (by omega) ?_ rest
  rw [hdecode (by omega)]
  rfl

/-! ### Fields that may be absent, and lists -/

/-- An absent field changes nothing. -/
theorem present {β : Type} {write : β → List UInt8} (set : Option β → α → α)
    (hnone : ∀ acc, set none acc = acc) (hsome : ∀ v, Reads fields (write v) (set (some v)))
    (value : Option β) : Reads fields (writePresent write value) (set value) := by
  cases value with
  | none =>
    intro _ acc rest
    rw [hnone]
    rfl
  | some v => exact hsome v

theorem presentInt32 (fields : Nat → Option (FieldReader α)) (n : Nat)
    (set : Option Int32 → α → α) (hnone : ∀ acc, set none acc = acc)
    (hfield : fields n = some (.int32 fun acc v => set (some v) acc)) (value : Option Int32)
    (hn : n < UInt32.size := by decide) :
    Reads fields (writePresent (writeInt32 n) value) (set value) :=
  present set hnone (fun v => int32 hfield v hn) value

theorem presentBool (fields : Nat → Option (FieldReader α)) (n : Nat)
    (set : Option Bool → α → α) (hnone : ∀ acc, set none acc = acc)
    (hfield : fields n = some (.bool fun acc v => set (some v) acc)) (value : Option Bool)
    (hn : n < UInt32.size := by decide) :
    Reads fields (writePresent (writeBool n) value) (set value) :=
  present set hnone (fun v => bool hfield v hn) value

theorem presentText (fields : Nat → Option (FieldReader α)) (n : Nat)
    (set : Option String → α → α) (hnone : ∀ acc, set none acc = acc)
    (hfield : fields n = some (.text fun acc v => set (some v) acc)) (value : Option String)
    (hn : n < UInt32.size := by decide) :
    Reads fields (writePresent (writeText n) value) (set value) :=
  present set hnone (fun v => text hfield v hn) value

theorem presentMessage {β : Type} (fields : Nat → Option (FieldReader α)) (n : Nat)
    (decode : List UInt8 → Except DecodeError β) {encode : β → List UInt8}
    (set : Option β → α → α) (hnone : ∀ acc, set none acc = acc)
    (hfield : fields n = some (.message decode fun acc v => set (some v) acc))
    (hdecode : ∀ v, (encode v).length ≤ maxChunk → decode (encode v) = .ok v) (value : Option β)
    (hn : n < UInt32.size := by decide) :
    Reads fields (writePresent (fun v => writeChunk n (encode v)) value) (set value) :=
  present set hnone (fun v => message hfield (hdecode v) hn) value

/-- The records of a list are read one after the other. -/
theorem list {β : Type} {write : β → List UInt8} (add : List β → α → α)
    (hnil : ∀ acc, add [] acc = acc)
    (hcons : ∀ v values acc, add (v :: values) acc = add values (add [v] acc)) (values : List β)
    (hone : ∀ v ∈ values, Reads fields (write v) (add [v])) :
    Reads fields (values.flatMap write) (add values) := by
  induction values with
  | nil =>
    intro _ acc rest
    rw [hnil]
    rfl
  | cons v values ih =>
    have hrest := ih fun w hw => hone w (.tail v hw)
    have hboth := (hone v (.head values)).append hrest
    intro hlen acc rest
    rw [hcons]
    exact hboth hlen acc rest

theorem texts (fields : Nat → Option (FieldReader α)) (n : Nat) (add : List String → α → α)
    (hnil : ∀ acc, add [] acc = acc)
    (hcons : ∀ v values acc, add (v :: values) acc = add values (add [v] acc))
    (hfield : fields n = some (.text fun acc v => add [v] acc)) (values : List String)
    (hn : n < UInt32.size := by decide) :
    Reads fields (values.flatMap fun v => writeText n v) (add values) :=
  list add hnil hcons values fun v _ => text hfield v hn

/-- The messages of a list are read back when each is decoded from its bytes. -/
theorem messages {β : Type} (fields : Nat → Option (FieldReader α)) (n : Nat)
    (decode : List UInt8 → Except DecodeError β) {encode : β → List UInt8}
    (add : List β → α → α) (hnil : ∀ acc, add [] acc = acc)
    (hcons : ∀ v values acc, add (v :: values) acc = add values (add [v] acc))
    (hfield : fields n = some (.message decode fun acc v => add [v] acc)) (values : List β)
    (hdecode : ∀ v ∈ values, (encode v).length ≤ maxChunk → decode (encode v) = .ok v)
    (hn : n < UInt32.size := by decide) :
    Reads fields (values.flatMap fun v => writeChunk n (encode v)) (add values) :=
  list add hnil hcons values fun v hv => message hfield (hdecode v hv) hn

end Reads

end ProtoSchema
