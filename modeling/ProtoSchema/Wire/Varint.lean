import ProtoSchema.Wire.Error

/-!
# Variable-length integers

A *varint* writes a number below `2 ^ 64` in groups of seven bits, the lowest
group first.  Every byte but the last has its top bit set.  Ten groups hold 70
bits, so the tenth byte may carry one bit only.

Reading accepts every such form, also one that is longer than it needs to be.
Writing gives the shortest.  `read_write` says that reading a written number
gives it back and leaves the bytes after it.
-/

namespace ProtoSchema.Varint

/-- The most bytes a varint may have. -/
def maxBytes : Nat := 10

/-- Reads a varint of at most `allowed` bytes.  The last byte that is allowed
may carry only one bit, and nothing may follow it. -/
def readWithin : (allowed : Nat) → List UInt8 → Except DecodeError (Nat × List UInt8)
  | 0, _ => .error .invalidVarint
  | _ + 1, [] => .error .unexpectedEnd
  | allowed + 1, byte :: rest =>
    if allowed = 0 ∧ 1 < byte.toNat % 128 then .error .invalidVarint
    else if byte.toNat < 128 then .ok (byte.toNat, rest)
    else
      match readWithin allowed rest with
      | .ok (high, rest) => .ok (byte.toNat % 128 + 128 * high, rest)
      | .error e => .error e

/-- Reads a varint, and returns its value with the bytes after it. -/
def read (bytes : List UInt8) : Except DecodeError (Nat × List UInt8) :=
  readWithin maxBytes bytes

/-- Writes a number in as few bytes as it needs. -/
def write (n : Nat) : List UInt8 :=
  if n < 128 then [UInt8.ofNat n] else UInt8.ofNat (n % 128 + 128) :: write (n / 128)
termination_by n

/-- Reading takes at least one byte. -/
theorem length_readWithin {allowed : Nat} {bytes rest : List UInt8} {n : Nat}
    (h : readWithin allowed bytes = .ok (n, rest)) : rest.length < bytes.length := by
  induction allowed generalizing bytes n with
  | zero => simp [readWithin] at h
  | succ allowed ih =>
    cases bytes with
    | nil => simp [readWithin] at h
    | cons byte tail =>
      rw [readWithin] at h
      split at h
      · cases h
      · split at h
        · cases h; simp
        · split at h
          · next high more hr =>
            cases h
            have := ih hr
            simp only [List.length_cons]
            omega
          · cases h

/-- Reading takes at least one byte. -/
theorem length_read {bytes rest : List UInt8} {n : Nat} (h : read bytes = .ok (n, rest)) :
    rest.length < bytes.length :=
  length_readWithin h

/-- The least number that does not fit in `allowed + 1` bytes, of which the last
carries one bit. -/
def limit : (allowed : Nat) → Nat
  | 0 => 2
  | allowed + 1 => 128 * limit allowed

/-- A number below the limit is read back from its written form, whatever
follows. -/
theorem readWithin_write {allowed n : Nat} (h : n < limit allowed) (rest : List UInt8) :
    readWithin (allowed + 1) (write n ++ rest) = .ok (n, rest) := by
  induction allowed generalizing n with
  | zero =>
    have hn : n < 2 := h
    have hb : (UInt8.ofNat n).toNat = n := by simp [UInt8.toNat_ofNat']; omega
    rw [write, if_pos (by omega)]
    simp only [List.cons_append, List.nil_append, readWithin, hb]
    rw [if_neg (by omega), if_pos (by omega)]
  | succ allowed ih =>
    rw [write]
    split
    · next hn =>
      have hb : (UInt8.ofNat n).toNat = n := by simp [UInt8.toNat_ofNat']; omega
      simp only [List.cons_append, List.nil_append]
      rw [readWithin, hb, if_neg (by omega), if_pos hn]
    · next hn =>
      have hb : (UInt8.ofNat (n % 128 + 128)).toNat = n % 128 + 128 := by
        simp [UInt8.toNat_ofNat']; omega
      have hd : n / 128 < limit allowed := by
        rw [limit] at h
        omega
      simp only [List.cons_append]
      rw [readWithin, hb, if_neg (by omega), if_neg (by omega), ih hd]
      simp only [Except.ok.injEq, Prod.mk.injEq, and_true]
      omega

/-- Reading undoes writing for every number of 64 bits. -/
theorem read_write {n : Nat} (h : n < UInt64.size) (rest : List UInt8) :
    read (write n ++ rest) = .ok (n, rest) :=
  @readWithin_write 9 n h rest

end ProtoSchema.Varint
