import ProtoSchema.Proofs.Wire.Records

/-!
# What a record is

A record is a number and a payload, and `WireRecord.Spelled` lists the bytes that stand
for one.  The number of a field and the wire type are written together as one varint, and
a varint may be longer than it needs to be.

Reading is the other side of this.  Every spelling of a record is read, and what it does
is told by the record alone (`readRecord_of_spelled`).  And whatever is read is the
spelling of a record (`exists_spelled_of_readRecord`).
-/

namespace ProtoSchema

variable {α : Type}

/-! ## Varints -/

namespace Varint

/-- Bytes that spell a number in groups of seven bits, the lowest group first.  Every byte
but the last has its top bit set. -/
inductive Spells : List UInt8 → Nat → Prop
  | last {byte : UInt8} : byte.toNat < 128 → Spells [byte] byte.toNat
  | more {byte : UInt8} {bytes : List UInt8} {n : Nat} :
    128 ≤ byte.toNat → Spells bytes n → Spells (byte :: bytes) (byte.toNat % 128 + 128 * n)

/-- Bytes that stand for a number of 64 bits. -/
structure IsVarint (bytes : List UInt8) (n : Nat) : Prop where
  /-- The bytes spell the number. -/
  spells : Spells bytes n
  /-- There are not too many of them. -/
  length_le : bytes.length ≤ maxBytes
  /-- The number has 64 bits. -/
  lt_size : n < UInt64.size

theorem Spells.length_pos {bytes : List UInt8} {n : Nat} (h : Spells bytes n) :
    0 < bytes.length := by
  cases h <;> exact Nat.succ_pos _

/-- A small number is one byte. -/
theorem IsVarint.single {byte : UInt8} (h : byte.toNat < 128) : IsVarint [byte] byte.toNat :=
  ⟨.last h, (by decide : 1 ≤ maxBytes), Nat.lt_trans h (by decide)⟩

theorem readWithin_of_spells {allowed n : Nat} {bytes : List UInt8} (h : Spells bytes n)
    (hlen : bytes.length ≤ allowed + 1) (hlimit : n < limit allowed) (rest : List UInt8) :
    readWithin (allowed + 1) (bytes ++ rest) = .ok (n, rest) := by
  induction h generalizing allowed with
  | @last byte hlast =>
    have hvalid : ¬ (allowed = 0 ∧ 1 < byte.toNat % 128) := by
      rintro ⟨rfl, hbig⟩
      rw [limit] at hlimit
      omega
    rw [List.singleton_append, readWithin, if_neg hvalid, if_pos hlast]
  | @more byte bytes n hmore hspells ih =>
    have hpos := hspells.length_pos
    rw [List.length_cons] at hlen
    cases allowed with
    | zero => omega
    | succ allowed =>
      rw [limit] at hlimit
      rw [List.cons_append, readWithin, if_neg (by omega), if_neg (by omega),
        ih (by omega) (by omega)]

theorem exists_spells_of_readWithin {allowed n : Nat} {bytes rest : List UInt8}
    (h : readWithin (allowed + 1) bytes = .ok (n, rest)) :
    ∃ taken, bytes = taken ++ rest ∧ Spells taken n ∧ taken.length ≤ allowed + 1 ∧
      n < limit allowed := by
  induction allowed generalizing bytes n with
  | zero =>
    cases bytes with
    | nil => cases h
    | cons byte bytes =>
      rw [readWithin] at h
      split at h
      · cases h
      · next hvalid =>
        split at h
        · next hlast =>
          cases h
          refine ⟨[byte], rfl, .last hlast, Nat.le_refl 1, ?_⟩
          rw [limit]
          omega
        · cases h
  | succ allowed ih =>
    cases bytes with
    | nil => cases h
    | cons byte bytes =>
      rw [readWithin, if_neg (by omega)] at h
      split at h
      · next hlast =>
        cases h
        have hpos : 0 < limit allowed := by
          clear ih
          induction allowed with
          | zero => exact Nat.two_pos
          | succ allowed ih => rw [limit]; omega
        refine ⟨[byte], rfl, .last hlast, Nat.succ_le_succ (Nat.zero_le _), ?_⟩
        rw [limit]
        omega
      · next hmore =>
        split at h
        · next high tail htail =>
          cases h
          obtain ⟨taken, rfl, hspells, hlen, hlimit⟩ := ih htail
          refine ⟨byte :: taken, rfl, .more (by omega) hspells, Nat.succ_le_succ hlen, ?_⟩
          rw [limit]
          omega
        · cases h

/-- Bytes that stand for a number are read, whatever follows. -/
theorem read_of_isVarint {bytes : List UInt8} {n : Nat} (h : IsVarint bytes n)
    (rest : List UInt8) : read (bytes ++ rest) = .ok (n, rest) :=
  @readWithin_of_spells 9 n bytes h.spells h.length_le h.lt_size rest

/-- What is read as a number stands for it. -/
theorem exists_isVarint_of_read {bytes rest : List UInt8} {n : Nat}
    (h : read bytes = .ok (n, rest)) : ∃ taken, bytes = taken ++ rest ∧ IsVarint taken n := by
  obtain ⟨taken, htaken, hspells, hlen, hlimit⟩ := @exists_spells_of_readWithin 9 n bytes rest h
  exact ⟨taken, htaken, hspells, hlen, hlimit⟩

end Varint

open Varint (IsVarint)

/-! ## Payloads -/

/-- What follows the head of a record. -/
inductive Payload where
  /-- A number. -/
  | varint (n : Nat)
  /-- Eight bytes. -/
  | fixed64 (bytes : List UInt8)
  /-- Bytes with their count in front. -/
  | chunk (bytes : List UInt8)
  /-- Four bytes. -/
  | fixed32 (bytes : List UInt8)

namespace Payload

/-- The framing of a payload. -/
def wireType : Payload → WireType
  | varint _ => .varint
  | fixed64 _ => .fixed64
  | chunk _ => .chunk
  | fixed32 _ => .fixed32

/-- The bytes that stand for a payload. -/
inductive Spelled : Payload → List UInt8 → Prop
  | varint {bytes : List UInt8} {n : Nat} : IsVarint bytes n → Spelled (.varint n) bytes
  | fixed64 {bytes : List UInt8} : bytes.length = 8 → Spelled (.fixed64 bytes) bytes
  | chunk {count bytes : List UInt8} :
    IsVarint count bytes.length →
    bytes.length ≤ maxChunk →
    Spelled (.chunk bytes) (count ++ bytes)
  | fixed32 {bytes : List UInt8} : bytes.length = 4 → Spelled (.fixed32 bytes) bytes

end Payload

theorem readFixed_append {count : Nat} {bytes : List UInt8} (h : bytes.length = count)
    (rest : List UInt8) : readFixed count (bytes ++ rest) = .ok (bytes, rest) := by
  subst h
  rw [readFixed, if_neg (by rw [List.length_append]; omega), List.splitAt_eq, List.take_left,
    List.drop_left]

theorem eq_append_of_readFixed {count : Nat} {bytes chunk rest : List UInt8}
    (h : readFixed count bytes = .ok (chunk, rest)) :
    bytes = chunk ++ rest ∧ chunk.length = count := by
  unfold readFixed at h
  split at h
  · cases h
  · next hlong =>
    rw [List.splitAt_eq] at h
    cases h
    refine ⟨(List.take_append_drop count bytes).symm, ?_⟩
    rw [List.length_take]
    omega

theorem readChunk_append {count bytes : List UInt8} (hcount : IsVarint count bytes.length)
    (hlen : bytes.length ≤ maxChunk) (rest : List UInt8) :
    readChunk (count ++ bytes ++ rest) = .ok (bytes, rest) := by
  rw [readChunk, List.append_assoc, Varint.read_of_isVarint hcount]
  simp only
  rw [if_neg (by omega), readFixed_append rfl]

theorem exists_chunk_of_readChunk {bytes chunk rest : List UInt8}
    (h : readChunk bytes = .ok (chunk, rest)) :
    ∃ taken, bytes = taken ++ rest ∧ (Payload.chunk chunk).Spelled taken := by
  unfold readChunk at h
  split at h
  · cases h
  · next length tail hlength =>
    split at h
    · cases h
    · next hlen =>
      obtain ⟨count, rfl, hcount⟩ := Varint.exists_isVarint_of_read hlength
      obtain ⟨rfl, rfl⟩ := eq_append_of_readFixed h
      exact ⟨count ++ chunk, (List.append_assoc ..).symm, .chunk hcount (by omega)⟩

/-! ## Records -/

/-- A record, whatever its spelling. -/
structure WireRecord where
  /-- The number of the field, as it is written. -/
  number : Nat
  /-- The payload. -/
  payload : Payload

/-- The bytes that stand for a record. -/
def WireRecord.Spelled (record : WireRecord) (bytes : List UInt8) : Prop :=
  ∃ key payload, bytes = key ++ payload ∧
    IsVarint key (8 * record.number + record.payload.wireType.code) ∧
    record.payload.Spelled payload

/-- A short chunk in a field with a small number is spelled with a head and a count of one
byte each. -/
theorem WireRecord.spelled_chunk {number : Nat} {chunk : List UInt8} {head count : UInt8}
    (hhead : head.toNat = 8 * number + 2) (hsmall : head.toNat < 128)
    (hcount : count.toNat = chunk.length) (hshort : count.toNat < 128) :
    Spelled ⟨number, .chunk chunk⟩ (head :: count :: chunk) := by
  have hlength : IsVarint [count] chunk.length := hcount ▸ .single hshort
  have hmax : 128 ≤ maxChunk := by decide
  exact ⟨[head], count :: chunk, rfl, hhead ▸ .single hsmall, .chunk hlength (by omega)⟩

/-- What the payload of a known field does to the message read so far. -/
def FieldReader.store (field : FieldReader α) (acc : α) (payload : Payload) :
    Except DecodeError α :=
  match field, payload with
  | number store, .varint n => .ok (store acc n)
  | bytes store, .chunk chunk => store acc chunk
  | _, payload => .error (.invalidWireType payload.wireType.code)

/-- What a record does to the message read so far.  Only the lowest 32 bits of its number
count. -/
def WireRecord.store (fields : Nat → Option (FieldReader α)) (acc : α) (record : WireRecord) :
    Except DecodeError α :=
  match fields (record.number % UInt32.size) with
  | none => .ok acc
  | some field => field.store acc record.payload

/-! ### Spelled records are read -/

theorem Key.read_of_isVarint {bytes : List UInt8} {number : Nat} {wireType : WireType}
    (h : IsVarint bytes (8 * number + wireType.code)) (rest : List UInt8) :
    Key.read (bytes ++ rest) = .ok (⟨number % UInt32.size, wireType⟩, rest) := by
  have hcode := wireType.code_lt
  have hmod : (8 * number + wireType.code) % 8 = wireType.code := by omega
  have hdiv : (8 * number + wireType.code) / 8 = number := by omega
  unfold Key.read
  rw [Varint.read_of_isVarint h]
  simp only [hmod, hdiv, WireType.ofCode?_code]

theorem skipPayload_of_spelled {payload : Payload} {bytes : List UInt8}
    (h : payload.Spelled bytes) (rest : List UInt8) :
    skipPayload payload.wireType (bytes ++ rest) = .ok rest := by
  cases h with
  | varint hn => exact congrArg (Except.map Prod.snd) (Varint.read_of_isVarint hn rest)
  | fixed64 hlen => exact congrArg (Except.map Prod.snd) (readFixed_append hlen rest)
  | chunk hcount hlen => exact congrArg (Except.map Prod.snd) (readChunk_append hcount hlen rest)
  | fixed32 hlen => exact congrArg (Except.map Prod.snd) (readFixed_append hlen rest)

namespace FieldReader

/-- A payload with another framing than that of its field is refused. -/
theorem store_of_wireType_ne {field : FieldReader α} {payload : Payload}
    (h : payload.wireType ≠ field.wireType) (acc : α) :
    field.store acc payload = .error (.invalidWireType payload.wireType.code) := by
  cases field with
  | number store =>
    cases payload with
    | varint n => exact absurd rfl h
    | fixed64 _ | chunk _ | fixed32 _ => rfl
  | bytes store =>
    cases payload with
    | chunk bytes => exact absurd rfl h
    | varint _ | fixed64 _ | fixed32 _ => rfl

theorem readPayload_of_spelled {field : FieldReader α} {payload : Payload} {bytes : List UInt8}
    (h : payload.Spelled bytes) (hwire : payload.wireType = field.wireType) (acc : α)
    (rest : List UInt8) :
    field.readPayload acc (bytes ++ rest) =
      (field.store acc payload).map fun acc => (acc, rest) := by
  cases field with
  | number store =>
    cases h with
    | varint hn =>
      rw [readPayload, Varint.read_of_isVarint hn]
      rfl
    | fixed64 | chunk | fixed32 => cases hwire
  | bytes store =>
    cases h with
    | chunk hcount hlen =>
      rw [readPayload, readChunk_append hcount hlen]
      rfl
    | varint | fixed64 | fixed32 => cases hwire

end FieldReader

/-- A spelled record is read as what it does, and the bytes after it are left. -/
theorem readRecord_of_spelled {record : WireRecord} {bytes : List UInt8}
    (h : record.Spelled bytes) (fields : Nat → Option (FieldReader α)) (acc : α)
    (rest : List UInt8) :
    readRecord fields acc (bytes ++ rest) =
      (record.store fields acc).map fun acc => (acc, rest) := by
  obtain ⟨key, payload, rfl, hkey, hpayload⟩ := h
  rw [readRecord, List.append_assoc, Key.read_of_isVarint hkey, WireRecord.store]
  simp only
  cases fields (record.number % UInt32.size) with
  | none =>
    simp only [skipPayload_of_spelled hpayload]
    rfl
  | some field =>
    simp only
    by_cases hwire : record.payload.wireType = field.wireType
    · rw [if_pos hwire, FieldReader.readPayload_of_spelled hpayload hwire]
    · rw [if_neg hwire, FieldReader.store_of_wireType_ne hwire]
      rfl

/-! ### What is read is a spelled record -/

theorem WireType.code_of_ofCode? {code : Nat} {wireType : WireType}
    (h : ofCode? code = some wireType) : wireType.code = code := by
  unfold ofCode? at h
  split at h
  all_goals cases h
  all_goals rfl

theorem Key.exists_isVarint_of_read {bytes rest : List UInt8} {key : Key}
    (h : Key.read bytes = .ok (key, rest)) :
    ∃ number taken, bytes = taken ++ rest ∧ key.number = number % UInt32.size ∧
      IsVarint taken (8 * number + key.wireType.code) := by
  unfold Key.read at h
  split at h
  · cases h
  · next n tail hn =>
    split at h
    · cases h
    · next wireType hwire =>
      cases h
      obtain ⟨taken, htaken, hvarint⟩ := Varint.exists_isVarint_of_read hn
      have hcode := WireType.code_of_ofCode? hwire
      have hnumber : 8 * (n / 8) + wireType.code = n := by omega
      exact ⟨n / 8, taken, htaken, rfl, by rwa [hnumber]⟩

theorem exists_spelled_of_skipPayload {wireType : WireType} {bytes rest : List UInt8}
    (h : skipPayload wireType bytes = .ok rest) :
    ∃ payload taken, bytes = taken ++ rest ∧ Payload.Spelled payload taken ∧
      payload.wireType = wireType := by
  cases wireType with
  | varint =>
    obtain ⟨⟨n, tail⟩, hn, rfl⟩ := map_eq_ok.mp h
    obtain ⟨taken, htaken, hvarint⟩ := Varint.exists_isVarint_of_read hn
    exact ⟨_, taken, htaken, .varint hvarint, rfl⟩
  | fixed64 =>
    obtain ⟨⟨taken, tail⟩, hfixed, rfl⟩ := map_eq_ok.mp h
    obtain ⟨htaken, hlen⟩ := eq_append_of_readFixed hfixed
    exact ⟨_, taken, htaken, .fixed64 hlen, rfl⟩
  | chunk =>
    obtain ⟨⟨chunk, tail⟩, hchunk, rfl⟩ := map_eq_ok.mp h
    obtain ⟨taken, htaken, hspelled⟩ := exists_chunk_of_readChunk hchunk
    exact ⟨_, taken, htaken, hspelled, rfl⟩
  | fixed32 =>
    obtain ⟨⟨taken, tail⟩, hfixed, rfl⟩ := map_eq_ok.mp h
    obtain ⟨htaken, hlen⟩ := eq_append_of_readFixed hfixed
    exact ⟨_, taken, htaken, .fixed32 hlen, rfl⟩
  | groupStart | groupEnd => cases h

theorem FieldReader.exists_spelled_of_readPayload {field : FieldReader α} {acc acc' : α}
    {bytes rest : List UInt8} (h : field.readPayload acc bytes = .ok (acc', rest)) :
    ∃ payload taken, bytes = taken ++ rest ∧ Payload.Spelled payload taken ∧
      payload.wireType = field.wireType := by
  cases field with
  | number store =>
    obtain ⟨⟨n, tail⟩, hn, heq⟩ := map_eq_ok.mp h
    cases heq
    obtain ⟨taken, htaken, hvarint⟩ := Varint.exists_isVarint_of_read hn
    exact ⟨_, taken, htaken, .varint hvarint, rfl⟩
  | bytes store =>
    rw [readPayload] at h
    split at h
    · cases h
    · next chunk tail hchunk =>
      obtain ⟨_, -, heq⟩ := map_eq_ok.mp h
      cases heq
      obtain ⟨taken, htaken, hspelled⟩ := exists_chunk_of_readChunk hchunk
      exact ⟨_, taken, htaken, hspelled, rfl⟩

theorem exists_spelled_of_readAfterKey {fields : Nat → Option (FieldReader α)} {acc acc' : α}
    {key : Key} {bytes rest : List UInt8}
    (h : readAfterKey fields acc key bytes = .ok (acc', rest)) :
    ∃ payload taken, bytes = taken ++ rest ∧ Payload.Spelled payload taken ∧
      payload.wireType = key.wireType := by
  unfold readAfterKey at h
  split at h
  · obtain ⟨rest', hskip, heq⟩ := map_eq_ok.mp h
    cases heq
    exact exists_spelled_of_skipPayload hskip
  · split at h
    · next hwire =>
      rw [hwire]
      exact FieldReader.exists_spelled_of_readPayload h
    · cases h

/-- What is read is the spelling of a record, and the result is what this record does. -/
theorem exists_spelled_of_readRecord {fields : Nat → Option (FieldReader α)} {acc acc' : α}
    {bytes rest : List UInt8} (h : readRecord fields acc bytes = .ok (acc', rest)) :
    ∃ record taken, bytes = taken ++ rest ∧ WireRecord.Spelled record taken ∧
      record.store fields acc = .ok acc' := by
  have hread := h
  rw [readRecord_eq] at hread
  cases hkey : Key.read bytes with
  | error e =>
    rw [hkey] at hread
    cases hread
  | ok found =>
    obtain ⟨key, tail⟩ := found
    rw [hkey] at hread
    obtain ⟨number, head, rfl, -, hvarint⟩ := Key.exists_isVarint_of_read hkey
    obtain ⟨payload, taken, rfl, hpayload, hwire⟩ := exists_spelled_of_readAfterKey hread
    rw [← hwire] at hvarint
    have hspelled : WireRecord.Spelled ⟨number, payload⟩ (head ++ taken) :=
      ⟨head, taken, rfl, hvarint, hpayload⟩
    rw [← List.append_assoc, readRecord_of_spelled hspelled] at h
    obtain ⟨_, hstore, heq⟩ := map_eq_ok.mp h
    cases heq
    exact ⟨_, head ++ taken, (List.append_assoc ..).symm, hspelled, hstore⟩

end ProtoSchema
