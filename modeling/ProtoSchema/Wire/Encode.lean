import ProtoSchema.Wire.Record

/-!
# Writing records

A field of a message is written as a record of its own: the number of the field,
the framing of the payload, and the payload.  An absent field is not written,
and a list is written as one record for each item, in order.

`Key.read_write` and `readChunk_write` say that what is written here is read
back and that the bytes after it remain.  `int32_ofNat_extended` says the same
of the numbers of 32 bits, which are written with 64 so that a negative number
keeps its sign.
-/

namespace ProtoSchema

/-! ## Heads and payloads -/

/-- Writes the head of a record. -/
def Key.write (key : Key) : List UInt8 := Varint.write (8 * key.number + key.wireType.code)

/-- Writes bytes with their count in front. -/
def writeCounted (chunk : List UInt8) : List UInt8 := Varint.write chunk.length ++ chunk

/-- A number of 32 bits as one of 64 bits with the same sign. -/
def extended (n : Int32) : Nat := (n.toInt % (UInt64.size : Int)).toNat

/-! ## Fields -/

/-- Writes a field that holds a number. -/
def writeNumber (field : Nat) (value : Nat) : List UInt8 :=
  Key.write ⟨field, .varint⟩ ++ Varint.write value

/-- Writes a field that holds a 32-bit integer. -/
def writeInt32 (field : Nat) (value : Int32) : List UInt8 := writeNumber field (extended value)

/-- Writes a field that holds a truth value. -/
def writeBool (field : Nat) (value : Bool) : List UInt8 := writeNumber field value.toNat

/-- Writes a field that holds bytes. -/
def writeChunk (field : Nat) (value : List UInt8) : List UInt8 :=
  Key.write ⟨field, .chunk⟩ ++ writeCounted value

/-- Writes a field that holds text. -/
def writeText (field : Nat) (value : String) : List UInt8 :=
  writeChunk field value.toUTF8.toList

/-- Writes a field that may be absent. -/
def writePresent {α : Type} (write : α → List UInt8) : Option α → List UInt8
  | none => []
  | some value => write value

/-! ## Reading back -/

theorem WireType.code_lt (wireType : WireType) : wireType.code < 8 := by
  cases wireType <;> decide

theorem WireType.ofCode?_code (wireType : WireType) : ofCode? wireType.code = some wireType := by
  cases wireType <;> rfl

/-- Reading undoes writing for every key whose number has 32 bits. -/
theorem Key.read_write {key : Key} (h : key.number < UInt32.size) (rest : List UInt8) :
    Key.read (key.write ++ rest) = .ok (key, rest) := by
  have hcode := key.wireType.code_lt
  have hsize : 8 * UInt32.size < UInt64.size := by decide
  unfold Key.read Key.write
  rw [Varint.read_write (by omega)]
  have hmod : (8 * key.number + key.wireType.code) % 8 = key.wireType.code := by omega
  have hdiv : (8 * key.number + key.wireType.code) / 8 % UInt32.size = key.number := by
    rw [Nat.mod_eq_of_lt] <;> omega
  simp only [hmod, hdiv, WireType.ofCode?_code]

/-- Reading undoes writing for every payload within the limit. -/
theorem readChunk_write {chunk : List UInt8} (h : chunk.length ≤ maxChunk) (rest : List UInt8) :
    readChunk (writeCounted chunk ++ rest) = .ok (chunk, rest) := by
  have hmax : maxChunk < UInt64.size := by decide
  unfold readChunk writeCounted
  rw [List.append_assoc, Varint.read_write (by omega)]
  simp only
  rw [if_neg (by omega), readFixed, if_neg (by simp)]
  simp

theorem extended_lt (n : Int32) : extended n < UInt64.size := by
  unfold extended UInt64.size
  omega

/-- The lowest 32 bits of an extended number are the number. -/
theorem int32_ofNat_extended (n : Int32) : Int32.ofNat (extended n) = n := by
  apply Int32.toInt_inj.mp
  have h : ((n.toInt % (UInt64.size : Int)).toNat : Int) = n.toInt % (UInt64.size : Int) :=
    Int.toNat_of_nonneg (Int.emod_nonneg _ (by decide))
  have hlow := n.le_toInt
  have hhigh := n.toInt_lt
  rw [extended, Int32.toInt_ofNat', h, Int.bmod_def]
  simp only [Int32.size, UInt64.size]
  omega

end ProtoSchema
