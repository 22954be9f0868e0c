import ProtoSchema.Wire.Varint

/-!
# Records

An encoded message is a sequence of *records*.  A record is a key and a
payload.  The key holds the number of a field and the *wire type*, which says
how long the payload is, so a reader can step over a field it does not know.

A message type says which fields it knows by a table of `FieldReader`s.  A
known field must arrive with the wire type of its reader, and this is checked
before its payload is looked at.  A field that is not known is stepped over.
`readRecords` works through the records in order and stops at the first fault.

`length_readRecord` bounds the loop: a record takes at least one byte.
-/

namespace ProtoSchema

/-! ## Wire types and keys -/

/-- How the payload of a record is framed. -/
inductive WireType where
  /-- A variable-length integer. -/
  | varint
  /-- Eight bytes. -/
  | fixed64
  /-- A length and that many bytes. -/
  | chunk
  /-- The start of a group, a form that is not supported. -/
  | groupStart
  /-- The end of a group, a form that is not supported. -/
  | groupEnd
  /-- Four bytes. -/
  | fixed32
deriving DecidableEq, Repr, Inhabited

namespace WireType

/-- The three bits that stand for a wire type in a key. -/
def code : WireType → Nat
  | varint => 0
  | fixed64 => 1
  | chunk => 2
  | groupStart => 3
  | groupEnd => 4
  | fixed32 => 5

/-- The wire type with this code, if there is one. -/
def ofCode? : Nat → Option WireType
  | 0 => some varint
  | 1 => some fixed64
  | 2 => some chunk
  | 3 => some groupStart
  | 4 => some groupEnd
  | 5 => some fixed32
  | _ => none

end WireType

/-- The head of a record. -/
structure Key where
  /-- The number of the field, held in 32 bits. -/
  number : Nat
  /-- The framing of the payload. -/
  wireType : WireType
deriving DecidableEq, Repr

/-- Reads the head of a record.  The wire type is judged first, and of the
field number the lowest 32 bits are kept. -/
def Key.read (bytes : List UInt8) : Except DecodeError (Key × List UInt8) :=
  match Varint.read bytes with
  | .error e => .error e
  | .ok (key, rest) =>
    match WireType.ofCode? (key % 8) with
    | none => .error (.invalidWireType (key % 8))
    | some wireType => .ok (⟨key / 8 % UInt32.size, wireType⟩, rest)

/-! ## Payloads -/

/-- The longest payload that is accepted: 64 MiB. -/
def maxChunk : Nat := 64 * 1024 * 1024

/-- Splits off a fixed number of bytes. -/
def readFixed (count : Nat) (bytes : List UInt8) : Except DecodeError (List UInt8 × List UInt8) :=
  if bytes.length < count then .error .unexpectedEnd else .ok (bytes.splitAt count)

/-- Reads a length and splits off that many bytes.  A length over the limit is
refused before the bytes are counted. -/
def readChunk (bytes : List UInt8) : Except DecodeError (List UInt8 × List UInt8) :=
  match Varint.read bytes with
  | .error e => .error e
  | .ok (length, rest) =>
    if maxChunk < length then .error (.tooLarge length) else readFixed length rest

/-- Steps over a payload of the given framing. -/
def skipPayload (wireType : WireType) (bytes : List UInt8) : Except DecodeError (List UInt8) :=
  match wireType with
  | .varint => (Varint.read bytes).map Prod.snd
  | .fixed64 => (readFixed 8 bytes).map Prod.snd
  | .chunk => (readChunk bytes).map Prod.snd
  | .fixed32 => (readFixed 4 bytes).map Prod.snd
  | .groupStart | .groupEnd => .error (.invalidWireType wireType.code)

/-- The text that bytes in UTF-8 stand for. -/
def readText (bytes : List UInt8) : Except DecodeError String :=
  match String.fromUTF8? ⟨bytes.toArray⟩ with
  | some text => .ok text
  | none => .error .invalidText

/-! ## Known fields -/

/-- How a known field of a message is read: the framing it must have, and what
its payload does to the message read so far. -/
inductive FieldReader (α : Type) where
  /-- An integer field. -/
  | number (store : α → Nat → α)
  /-- A field of bytes: text, or a message inside this one. -/
  | bytes (store : α → List UInt8 → Except DecodeError α)

namespace FieldReader

variable {α : Type}

/-- The framing that a field must arrive with. -/
def wireType : FieldReader α → WireType
  | number _ => .varint
  | bytes _ => .chunk

/-- A field that holds a 32-bit integer.  A negative number arrives
sign-extended to 64 bits, so its lowest 32 bits are the number. -/
def int32 (store : α → Int32 → α) : FieldReader α :=
  number fun a n => store a (Int32.ofNat n)

/-- A field that holds a truth value. -/
def bool (store : α → Bool → α) : FieldReader α :=
  number fun a n => store a (n != 0)

/-- A field that holds text. -/
def text (store : α → String → α) : FieldReader α :=
  bytes fun a chunk => (readText chunk).map (store a)

/-- A field that holds a message. -/
def message {β : Type} (decode : List UInt8 → Except DecodeError β) (store : α → β → α) :
    FieldReader α :=
  bytes fun a chunk => (decode chunk).map (store a)

/-- Reads the payload of a known field into the message read so far. -/
def readPayload (field : FieldReader α) (acc : α) (bytes : List UInt8) :
    Except DecodeError (α × List UInt8) :=
  match field with
  | number store => (Varint.read bytes).map fun (n, rest) => (store acc n, rest)
  | .bytes store =>
    match readChunk bytes with
    | .error e => .error e
    | .ok (chunk, rest) => (store acc chunk).map fun acc => (acc, rest)

end FieldReader

/-! ## Messages -/

section Messages

variable {α : Type}

/-- Reads one record.  `fields` is the table of the known fields. -/
def readRecord (fields : Nat → Option (FieldReader α)) (acc : α) (bytes : List UInt8) :
    Except DecodeError (α × List UInt8) :=
  match Key.read bytes with
  | .error e => .error e
  | .ok (key, rest) =>
    match fields key.number with
    | none => (skipPayload key.wireType rest).map fun rest => (acc, rest)
    | some field =>
      if key.wireType = field.wireType then field.readPayload acc rest
      else .error (.invalidWireType key.wireType.code)

/-- A mapped reading succeeds when the reading does. -/
theorem map_eq_ok {ε β γ : Type} {x : Except ε β} {f : β → γ} {c : γ} :
    x.map f = .ok c ↔ ∃ b, x = .ok b ∧ f b = c := by
  cases x <;> simp [Except.map]

theorem length_readFixed {count : Nat} {bytes chunk rest : List UInt8}
    (h : readFixed count bytes = .ok (chunk, rest)) :
    chunk.length + rest.length = bytes.length := by
  unfold readFixed at h
  split at h
  · cases h
  · simp only [List.splitAt_eq, Except.ok.injEq, Prod.mk.injEq] at h
    rw [← h.1, ← h.2, List.length_take, List.length_drop]
    omega

theorem length_readChunk {bytes chunk rest : List UInt8}
    (h : readChunk bytes = .ok (chunk, rest)) : chunk.length + rest.length < bytes.length := by
  unfold readChunk at h
  split at h
  · cases h
  · next length tail hv =>
    split at h
    · cases h
    · have := Varint.length_read hv
      have := length_readFixed h
      omega

theorem length_skipPayload {wireType : WireType} {bytes rest : List UInt8}
    (h : skipPayload wireType bytes = .ok rest) : rest.length ≤ bytes.length := by
  cases wireType with
  | varint =>
    obtain ⟨⟨n, tail⟩, hv, rfl⟩ := map_eq_ok.mp h
    exact Nat.le_of_lt (Varint.length_read hv)
  | chunk =>
    obtain ⟨⟨chunk, tail⟩, hv, rfl⟩ := map_eq_ok.mp h
    have := length_readChunk hv
    simp only
    omega
  | fixed64 | fixed32 =>
    obtain ⟨⟨chunk, tail⟩, hv, rfl⟩ := map_eq_ok.mp h
    have := length_readFixed hv
    simp only
    omega
  | groupStart | groupEnd => cases h

theorem FieldReader.length_readPayload {field : FieldReader α} {acc acc' : α}
    {bytes rest : List UInt8} (h : field.readPayload acc bytes = .ok (acc', rest)) :
    rest.length < bytes.length := by
  cases field with
  | number store =>
    obtain ⟨⟨n, tail⟩, hv, he⟩ := map_eq_ok.mp h
    cases he
    exact Varint.length_read hv
  | bytes store =>
    rw [FieldReader.readPayload] at h
    split at h
    · cases h
    · next chunk tail hc =>
      obtain ⟨a, -, he⟩ := map_eq_ok.mp h
      cases he
      have := length_readChunk hc
      omega

theorem length_readKey {bytes rest : List UInt8} {key : Key}
    (h : Key.read bytes = .ok (key, rest)) : rest.length < bytes.length := by
  unfold Key.read at h
  split at h
  · cases h
  · next k tail hv =>
    split at h
    · cases h
    · cases h
      exact Varint.length_read hv

/-- A record takes at least one byte. -/
theorem length_readRecord {fields : Nat → Option (FieldReader α)} {acc acc' : α}
    {bytes rest : List UInt8} (h : readRecord fields acc bytes = .ok (acc', rest)) :
    rest.length < bytes.length := by
  unfold readRecord at h
  split at h
  · cases h
  · next key tail hk =>
    have hkey := length_readKey hk
    split at h
    · obtain ⟨r, hs, he⟩ := map_eq_ok.mp h
      cases he
      have := length_skipPayload hs
      omega
    · split at h
      · have := FieldReader.length_readPayload h
        omega
      · cases h

/-- Reads every record of `bytes`, in order, into `acc`. -/
def readRecords (fields : Nat → Option (FieldReader α)) (acc : α) (bytes : List UInt8) :
    Except DecodeError α :=
  if bytes.isEmpty then .ok acc
  else
    match _h : readRecord fields acc bytes with
    | .error e => .error e
    | .ok (acc, rest) => readRecords fields acc rest
termination_by bytes.length
decreasing_by exact length_readRecord _h

end Messages

end ProtoSchema
