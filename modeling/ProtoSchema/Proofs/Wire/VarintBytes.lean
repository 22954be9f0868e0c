import Mathlib.Data.Nat.Digits.Lemmas
import ProtoSchema.Proofs.Wire.Grammar

/-!
# The bytes of a varint

A varint goes up to the first byte whose top bit is not set.  Three things can happen in
front of it.  The varint has at most ten bytes and the tenth is 0 or 1, and then it is read
(`read_of_fits`).  The bytes end before it does (`readWithin_of_short`).  Or it is too long,
or its tenth byte holds more than one bit (`readWithin_of_heavy`).  One of these is always
the case (`fits_or_fails`), so each of them is told by the outcome (`read_exactly`).

The number is the sum of its groups, each times a power of 128 (`groupSum`).  In 64 bits the
groups are shifted into place one by one (`gather`).  Up to the limit of ten bytes no bit
is shifted out, and this comes to the same number (`toNat_gather`).
-/

namespace ProtoSchema.Varint

/-! ## Groups -/

/-- Whether a byte is the last one of a varint. -/
def isLast (byte : UInt8) : Bool := byte.toNat < 128

/-- The groups of seven bits, each times its power of 128, added up. -/
def groupSum (bytes : List UInt8) : Nat :=
  (bytes.mapIdx fun i byte => byte.toNat % 128 * 128 ^ i).sum

@[simp] theorem groupSum_nil : groupSum [] = 0 := rfl

@[simp] theorem groupSum_cons (byte : UInt8) (bytes : List UInt8) :
    groupSum (byte :: bytes) = byte.toNat % 128 + 128 * groupSum bytes := by
  have hdigits : ∀ bytes : List UInt8,
      groupSum bytes = Nat.ofDigits 128 (bytes.map fun byte => byte.toNat % 128) := by
    intro bytes
    simp [Nat.ofDigits_eq_sum_mapIdx, groupSum, List.mapIdx_eq_zipIdx_map, Function.comp_def,
      List.zipIdx_map]
  simp [hdigits, Nat.ofDigits_cons]

/-- The bytes up to the last one of a varint spell the sum of their groups. -/
theorem spells_take {bytes : List UInt8} {i : Nat} (h : bytes.findIdx? isLast = some i) :
    Spells (bytes.take (i + 1)) (groupSum (bytes.take (i + 1))) := by
  induction bytes generalizing i with
  | nil => simp at h
  | cons byte bytes ih =>
    rw [List.findIdx?_cons] at h
    split at h
    · next hlast =>
      have hsmall : byte.toNat < 128 := by simpa [isLast] using hlast
      cases h
      have hsum : groupSum [byte] = byte.toNat := by simp; omega
      simpa [hsum] using Spells.last hsmall
    · next hmore =>
      have hlarge : 128 ≤ byte.toNat := by simpa [isLast] using hmore
      obtain ⟨j, hj, rfl⟩ := Option.map_eq_some_iff.mp h
      simpa using Spells.more hlarge (ih hj)

/-- A sum of few groups is below the limit when the last group that is allowed has one bit. -/
theorem groupSum_lt {allowed : Nat} {bytes : List UInt8} (hlen : bytes.length ≤ allowed + 1)
    (hbit : ∀ byte, bytes[allowed]? = some byte → byte.toNat % 128 ≤ 1) :
    groupSum bytes < limit allowed := by
  induction allowed generalizing bytes with
  | zero =>
    cases bytes with
    | nil => simp [limit]
    | cons byte bytes =>
      have hnil : bytes = [] := by simpa using hlen
      have hone := hbit byte (by simp)
      simp [hnil, limit]
      omega
  | succ allowed ih =>
    cases bytes with
    | nil =>
      have hpos : groupSum [] < limit allowed := ih (by simp) (by simp)
      simp [limit] at hpos ⊢
      omega
    | cons byte bytes =>
      have hrest : groupSum bytes < limit allowed :=
        ih (by simpa using hlen) fun next hnext => hbit next (by simpa using hnext)
      simp [limit]
      omega

/-! ## In 64 bits -/

/-- Shifts the groups of some bytes into place in a number of 64 bits. -/
def gather (result shift : UInt64) : List UInt8 → UInt64
  | [] => result
  | byte :: bytes => gather (result ||| (byte &&& 0x7F).toUInt64 <<< shift) (shift + 7) bytes

theorem toNat_group (byte : UInt8) : (byte &&& 0x7F).toUInt64.toNat = byte.toNat % 128 := by
  show byte.toNat &&& 127 = byte.toNat % 128
  exact Nat.and_two_pow_sub_one_eq_mod byte.toNat 7

theorem toNat_or_shiftLeft {result group : UInt64} {i : Nat} (hi : i < maxBytes)
    (hresult : result.toNat < 128 ^ i) (hfits : 128 ^ i * group.toNat < UInt64.size) :
    (result ||| group <<< UInt64.ofNat (7 * i)).toNat = result.toNat + 128 ^ i * group.toNat := by
  have hpow : 128 ^ i = 2 ^ (7 * i) := by rw [Nat.pow_mul]
  have hi : i < 10 := hi
  have hshift : (UInt64.ofNat (7 * i)).toNat % 64 = 7 * i := by
    simp
    omega
  have hkept : group.toNat * 2 ^ (7 * i) % 2 ^ 64 = group.toNat * 2 ^ (7 * i) := by
    rw [Nat.mul_comm, ← hpow]
    exact Nat.mod_eq_of_lt hfits
  rw [hpow] at hresult ⊢
  calc (result ||| group <<< UInt64.ofNat (7 * i)).toNat
      = result.toNat ||| group.toNat <<< (7 * i) := by
        rw [UInt64.toNat_or, UInt64.toNat_shiftLeft, hshift, Nat.shiftLeft_eq, hkept]
    _ = group.toNat <<< (7 * i) + result.toNat := by
        rw [Nat.shiftLeft_add_eq_or_of_lt hresult, Nat.or_comm]
    _ = result.toNat + 2 ^ (7 * i) * group.toNat := by
        rw [Nat.shiftLeft_eq, Nat.add_comm, Nat.mul_comm]

/-- No bit is lost of what fits into 64 bits. -/
theorem toNat_gather {bytes : List UInt8} {result : UInt64} {i : Nat}
    (hlen : i + bytes.length ≤ maxBytes) (hresult : result.toNat < 128 ^ i)
    (hfits : result.toNat + 128 ^ i * groupSum bytes < UInt64.size) :
    (gather result (UInt64.ofNat (7 * i)) bytes).toNat =
      result.toNat + 128 ^ i * groupSum bytes := by
  induction bytes generalizing result i with
  | nil => simp [gather]
  | cons byte bytes ih =>
    have hgroup := toNat_group byte
    have hsmall : byte.toNat % 128 < 128 := Nat.mod_lt _ (by omega)
    have hsplit : 128 ^ i * groupSum (byte :: bytes) =
        128 ^ i * (byte.toNat % 128) + 128 ^ (i + 1) * groupSum bytes := by
      simp [Nat.pow_succ]
      ring
    have hplace : i < maxBytes := by
      simp at hlen
      omega
    have hstep := toNat_or_shiftLeft hplace hresult (by rw [hgroup]; omega)
    rw [hgroup] at hstep
    have hnext : 128 ^ i * (byte.toNat % 128) ≤ 128 ^ i * 127 :=
      Nat.mul_le_mul_left _ (by omega)
    have hshift : UInt64.ofNat (7 * i) + 7 = UInt64.ofNat (7 * (i + 1)) := by
      rw [Nat.mul_succ, UInt64.ofNat_add]
      rfl
    rw [gather, hshift, ih (by simp at hlen ⊢; omega) (by rw [hstep, Nat.pow_succ]; omega)
      (by rw [hstep]; omega), hstep, hsplit]
    omega

/-! ## The three outcomes -/

/-- Whether a number of 64 bits stands in front of some bytes, in the first `k` of them. -/
structure Fits (bytes : List UInt8) (k : Nat) : Prop where
  /-- The first byte whose top bit is not set has place `k`, counted from 1. -/
  ends : (bytes.findIdx? isLast).map (· + 1) = some k
  /-- There are not too many bytes before it. -/
  length_le : k ≤ maxBytes
  /-- The last byte that is allowed has one bit. -/
  tenth : k = maxBytes → bytes[9]? = some 0 ∨ bytes[9]? = some 1

/-- Whether bytes end before a varint in front of them does. -/
def IsShort (bytes : List UInt8) : Prop :=
  bytes.length < maxBytes ∧ ∀ byte ∈ bytes, 128 ≤ byte.toNat

/-- Whether the last byte that is allowed is reached and holds more than one bit.  Its top
bit says that there is more to come, and so it counts. -/
def IsHeavy (allowed : Nat) (bytes : List UInt8) : Prop :=
  (∀ byte ∈ bytes.take allowed, 128 ≤ byte.toNat) ∧
    ∃ byte, bytes[allowed]? = some byte ∧ 2 ≤ byte.toNat

/-- The number in front of the bytes has 64 bits. -/
theorem Fits.isVarint {bytes : List UInt8} {k : Nat} (h : Fits bytes k) :
    IsVarint (bytes.take k) (groupSum (bytes.take k)) := by
  obtain ⟨i, hi, rfl⟩ := Option.map_eq_some_iff.mp h.ends
  have hlen : (bytes.take (i + 1)).length ≤ maxBytes := by
    have := h.length_le
    simp
    omega
  refine ⟨spells_take hi, hlen, @groupSum_lt 9 _ hlen fun byte hbyte => ?_⟩
  rw [List.getElem?_take] at hbyte
  split at hbyte
  · next hten =>
    have hk : i + 1 = maxBytes := Nat.le_antisymm h.length_le hten
    rcases h.tenth hk with hzero | hone
    · cases hzero.symm.trans hbyte
      exact Nat.zero_le 1
    · cases hone.symm.trans hbyte
      exact Nat.le_refl 1
  · cases hbyte

theorem read_of_fits {bytes : List UInt8} {k : Nat} (h : Fits bytes k) :
    read bytes = .ok (groupSum (bytes.take k), bytes.drop k) := by
  have hread := read_of_isVarint h.isVarint (bytes.drop k)
  rwa [List.take_append_drop] at hread

theorem readWithin_of_short {allowed : Nat} {bytes : List UInt8} (hlen : bytes.length < allowed)
    (hmore : ∀ byte ∈ bytes, 128 ≤ byte.toNat) :
    readWithin allowed bytes = .error .unexpectedEnd := by
  induction bytes generalizing allowed with
  | nil =>
    cases allowed with
    | zero => simp at hlen
    | succ allowed => rfl
  | cons byte bytes ih =>
    cases allowed with
    | zero => simp at hlen
    | succ allowed =>
      have hbyte := hmore byte (by simp)
      have hrest : readWithin allowed bytes = .error .unexpectedEnd :=
        ih (by simpa using hlen) fun next hnext => hmore next (by simp [hnext])
      have hnotLast : allowed ≠ 0 := by
        simp at hlen
        omega
      simp [readWithin, hnotLast, hrest]
      omega

theorem readWithin_of_heavy {allowed : Nat} {bytes : List UInt8} (h : IsHeavy allowed bytes) :
    readWithin (allowed + 1) bytes = .error .invalidVarint := by
  obtain ⟨hmore, last, hlast, hbits⟩ := h
  induction allowed generalizing bytes with
  | zero =>
    cases bytes with
    | nil => simp at hlast
    | cons byte bytes =>
      have hbyte : byte = last := by simpa using hlast
      rw [readWithin]
      by_cases hbit : 1 < byte.toNat % 128
      · simp [hbit]
      · have hlarge : ¬ byte.toNat < 128 := by
          rw [hbyte] at hbit ⊢
          omega
        simp [hbit, hlarge, readWithin]
  | succ allowed ih =>
    cases bytes with
    | nil => simp at hlast
    | cons byte bytes =>
      have hbyte := hmore byte (by simp)
      have hrest : readWithin (allowed + 1) bytes = .error .invalidVarint :=
        ih (fun next hnext => hmore next (by simp [hnext])) (by simpa using hlast)
      rw [readWithin, hrest]
      simp
      omega

/-- The bytes in front of the last one of a varint have their top bit set. -/
theorem le_of_mem_take {bytes : List UInt8} {i bound : Nat} {byte : UInt8}
    (h : bytes.findIdx? isLast = some i) (hbound : bound ≤ i) (hbyte : byte ∈ bytes.take bound) :
    128 ≤ byte.toNat := by
  obtain ⟨hi, -, hbefore⟩ := List.findIdx?_eq_some_iff_getElem.mp h
  obtain ⟨j, hj, rfl⟩ := List.mem_take_iff_getElem.mp hbyte
  simpa [isLast] using hbefore j (by omega)

/-- Bytes have a number in front of them, or they are too few, or they hold too much. -/
theorem fits_or_fails (bytes : List UInt8) :
    (∃ k, Fits bytes k) ∨ IsShort bytes ∨ IsHeavy 9 bytes := by
  -- What matters about the tenth byte is whether it has more than one bit.
  have hheavy : (hten : 9 < bytes.length) → (∀ byte ∈ bytes.take 9, 128 ≤ byte.toNat) →
      2 ≤ bytes[9].toNat → IsHeavy 9 bytes := fun hten hmore hbits =>
    ⟨hmore, bytes[9], List.getElem?_eq_getElem hten, hbits⟩
  cases hfind : bytes.findIdx? isLast with
  | none =>
    have hmore : ∀ byte ∈ bytes, 128 ≤ byte.toNat := by
      intro byte hbyte
      simpa [isLast] using List.findIdx?_eq_none_iff.mp hfind byte hbyte
    by_cases hlen : bytes.length < maxBytes
    · exact .inr (.inl ⟨hlen, hmore⟩)
    · have hten : 9 < bytes.length := Nat.le_of_not_lt hlen
      have hlarge := hmore bytes[9] (List.getElem_mem hten)
      exact .inr (.inr (hheavy hten (fun byte h => hmore byte (List.mem_of_mem_take h)) (by omega)))
  | some i =>
    obtain ⟨hi, -, -⟩ := List.findIdx?_eq_some_iff_getElem.mp hfind
    have hends : (bytes.findIdx? isLast).map (· + 1) = some (i + 1) := by rw [hfind]; rfl
    rcases Nat.lt_trichotomy i 9 with hless | rfl | hmore
    · have hten : i + 1 < maxBytes := Nat.succ_lt_succ hless
      exact .inl ⟨i + 1, hends, Nat.le_of_lt hten, fun heq => absurd heq (Nat.ne_of_lt hten)⟩
    · by_cases hbits : 2 ≤ bytes[9].toNat
      · exact .inr (.inr (hheavy hi (fun byte => le_of_mem_take hfind (Nat.le_refl 9)) hbits))
      · refine .inl ⟨10, hends, Nat.le_refl 10, fun _ => ?_⟩
        rw [List.getElem?_eq_getElem hi, Option.some.injEq, Option.some.injEq,
          ← UInt8.toNat_inj, ← UInt8.toNat_inj]
        show bytes[9].toNat = 0 ∨ bytes[9].toNat = 1
        omega
    · have hten : 9 < bytes.length := Nat.lt_trans hmore hi
      have hmem : bytes[9] ∈ bytes.take i := List.mem_take_iff_getElem.mpr ⟨9, by omega, rfl⟩
      have hlarge := le_of_mem_take hfind (Nat.le_refl i) hmem
      exact .inr (.inr (hheavy hten (fun byte => le_of_mem_take hfind (Nat.le_of_lt hmore))
        (by omega)))

theorem read_of_short {bytes : List UInt8} (h : IsShort bytes) :
    read bytes = .error .unexpectedEnd :=
  readWithin_of_short h.1 h.2

theorem read_of_heavy {bytes : List UInt8} (h : IsHeavy 9 bytes) :
    read bytes = .error .invalidVarint :=
  readWithin_of_heavy h

theorem read_eq_ok_iff {bytes rest : List UInt8} {n : Nat} :
    read bytes = .ok (n, rest) ↔
      ∃ k, Fits bytes k ∧ n = groupSum (bytes.take k) ∧ rest = bytes.drop k := by
  constructor
  · intro h
    rcases fits_or_fails bytes with ⟨k, hk⟩ | hshort | hheavy
    · cases h.symm.trans (read_of_fits hk)
      exact ⟨k, hk, rfl, rfl⟩
    · cases h.symm.trans (read_of_short hshort)
    · cases h.symm.trans (read_of_heavy hheavy)
  · rintro ⟨k, hk, rfl, rfl⟩
    exact read_of_fits hk

theorem read_eq_unexpectedEnd_iff {bytes : List UInt8} :
    read bytes = .error .unexpectedEnd ↔ IsShort bytes := by
  refine ⟨fun h => ?_, read_of_short⟩
  rcases fits_or_fails bytes with ⟨k, hk⟩ | hshort | hheavy
  · cases h.symm.trans (read_of_fits hk)
  · exact hshort
  · cases h.symm.trans (read_of_heavy hheavy)

theorem read_eq_invalidVarint_iff {bytes : List UInt8} :
    read bytes = .error .invalidVarint ↔ (¬ ∃ k, Fits bytes k) ∧ ¬ IsShort bytes := by
  constructor
  · intro h
    constructor
    · rintro ⟨k, hk⟩
      cases h.symm.trans (read_of_fits hk)
    · intro hshort
      cases h.symm.trans (read_of_short hshort)
  · rintro ⟨hfits, hshort⟩
    rcases fits_or_fails bytes with hk | hs | hheavy
    · exact absurd hk hfits
    · exact absurd hs hshort
    · exact read_of_heavy hheavy

/-- What stands in front of the bytes is there in full, and it is gathered in 64 bits. -/
theorem Fits.toNat_gather {bytes : List UInt8} {k : Nat} (h : Fits bytes k) :
    k ≤ bytes.length ∧ groupSum (bytes.take k) < UInt64.size ∧
      (gather 0 0 (bytes.take k)).toNat = groupSum (bytes.take k) := by
  obtain ⟨i, hi, rfl⟩ := Option.map_eq_some_iff.mp h.ends
  obtain ⟨hlen, -⟩ := List.findIdx?_eq_some_iff_getElem.mp hi
  have hsum := h.isVarint.lt_size
  have hgather := @Varint.toNat_gather (bytes.take (i + 1)) 0 0
    (by simpa using h.isVarint.length_le) (by simp) (by simpa using hsum)
  exact ⟨hlen, hsum, by simpa using hgather⟩

/-! ## The shortest form -/

/-- No form of a number is shorter than the one that is written. -/
theorem length_write_le {bytes : List UInt8} {n : Nat} (h : Spells bytes n) :
    (write n).length ≤ bytes.length := by
  induction h with
  | last hlast =>
    rw [write]
    simp [hlast]
  | @more byte bytes n hmore hspells ih =>
    have hhigh : (byte.toNat % 128 + 128 * n) / 128 = n := by omega
    rw [write]
    split
    · simp
    · rw [hhigh]
      simpa using ih

theorem length_write_le_of_read {form : List UInt8} {n : Nat} (h : read form = .ok (n, [])) :
    (write n).length ≤ form.length := by
  obtain ⟨taken, htaken, hvarint⟩ := exists_isVarint_of_read h
  rw [htaken, List.append_nil]
  exact length_write_le hvarint.spells

/-! ## Exactly the numbers of 64 bits -/

/-- **Exactly the varints of 64 bits are read.**  A number is read when the first byte whose
top bit is not set is among the first ten, and is 0 or 1 if it is the tenth.  It is the sum
of the groups up to this byte, which are gathered in 64 bits without a loss, and the bytes
behind it are left.  The bytes end too early when there are fewer than ten and all have their
top bit set.  In all other cases there is no varint.  The written form of a number is read
back in front of any bytes, and no form of the number is shorter. -/
theorem read_exactly (bytes : List UInt8) :
    (∀ n rest, read bytes = .ok (n, rest) ↔
      ∃ k, Fits bytes k ∧ n = groupSum (bytes.take k) ∧ rest = bytes.drop k) ∧
    (∀ k, Fits bytes k → k ≤ bytes.length ∧ groupSum (bytes.take k) < UInt64.size ∧
      (gather 0 0 (bytes.take k)).toNat = groupSum (bytes.take k)) ∧
    (read bytes = .error .unexpectedEnd ↔
      bytes.length < 10 ∧ ∀ byte ∈ bytes, 128 ≤ byte.toNat) ∧
    (read bytes = .error .invalidVarint ↔
      (¬ ∃ k, Fits bytes k) ∧ ¬ (bytes.length < 10 ∧ ∀ byte ∈ bytes, 128 ≤ byte.toNat)) ∧
    ∀ n < UInt64.size, read (write n ++ bytes) = .ok (n, bytes) ∧
      ∀ form, read form = .ok (n, []) → (write n).length ≤ form.length := by
  refine ⟨fun n rest => read_eq_ok_iff, fun k => Fits.toNat_gather, read_eq_unexpectedEnd_iff,
    read_eq_invalidVarint_iff, fun n hn => ⟨read_write hn bytes, fun form hform => ?_⟩⟩
  exact length_write_le_of_read hform

/-- The largest number in front of another byte, with a bit too many, and without its last
byte. -/
theorem read_exactly_largest :
    let front : List UInt8 := List.replicate 9 0xff
    Fits (front ++ [0x01, 0x07]) 10 ∧
    read (front ++ [0x01, 0x07]) = .ok (UInt64.size - 1, [0x07]) ∧
    (gather 0 0 (front ++ [0x01])).toNat = UInt64.size - 1 ∧
    read (front ++ [0x02, 0x07]) = .error .invalidVarint ∧
    read front = .error .unexpectedEnd ∧
    (write (UInt64.size - 1)).length ≤ (front ++ [0x01]).length := by
  intro front
  have hfits : Fits (front ++ [0x01, 0x07]) 10 := ⟨by decide, by decide, fun _ => .inr rfl⟩
  have hheavy : ¬ ∃ k, Fits (front ++ [0x02, 0x07]) k := by
    rintro ⟨k, hends, -, htenth⟩
    have hk : k = 10 := Option.some.inj (hends.symm.trans (by decide))
    have hten := htenth hk
    revert hten
    decide
  obtain ⟨hread, hgather, -⟩ := read_exactly (front ++ [0x01, 0x07])
  refine ⟨hfits, (hread _ _).mpr ⟨10, hfits, by decide, rfl⟩, (hgather 10 hfits).2.2,
    (read_exactly (front ++ [0x02, 0x07])).2.2.2.1.mpr ⟨hheavy, by decide⟩,
    (read_exactly front).2.2.1.mpr ⟨by decide, by simp [front]⟩, ?_⟩
  refine ((read_exactly []).2.2.2.2 (UInt64.size - 1) (by decide)).2 _ ?_
  exact ((read_exactly (front ++ [0x01])).1 _ _).mpr
    ⟨10, ⟨by decide, by decide, fun _ => .inr rfl⟩, by decide, rfl⟩

end ProtoSchema.Varint
