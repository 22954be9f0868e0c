import ProtoSchema.Proofs.Wire.Records

/-!
# Reading from a stream

Every reader takes bytes from the front and hands on those that it did not use.  It
does not look behind what it takes.  So bytes that are added at the end can matter only
to a reader that ran out of bytes, and every other outcome stays the same.

`IsStreaming` states that.  It holds of a reader that is made of streaming ones
(`IsStreaming.step`), and thereby of everything up to a record (`readRecord_isStreaming`).
Two things follow.  A reader that is cut off inside what it takes runs out of bytes and
has no other fault (`IsStreaming.unexpectedEnd_of_append`).  And a loop over records goes
on with added bytes where it was left (`readRecords_append`).
-/

namespace ProtoSchema

variable {α β γ : Type}

/-! ## Streaming readers -/

/-- Whether bytes that are added at the end matter only to a reader that ran out of
bytes. -/
def IsStreaming (read : List UInt8 → Except DecodeError (β × List UInt8)) : Prop :=
  ∀ bytes more, read bytes ≠ .error .unexpectedEnd →
    read (bytes ++ more) = (read bytes).map fun (x, rest) => (x, rest ++ more)

namespace IsStreaming

variable {read : List UInt8 → Except DecodeError (β × List UInt8)}

theorem append_of_ok (h : IsStreaming read) {bytes rest : List UInt8} {x : β}
    (hread : read bytes = .ok (x, rest)) (more : List UInt8) :
    read (bytes ++ more) = .ok (x, rest ++ more) := by
  rw [h bytes more (by rw [hread]; exact nofun), hread]
  rfl

theorem append_of_error (h : IsStreaming read) {bytes : List UInt8} {e : DecodeError}
    (hread : read bytes = .error e) (he : e ≠ .unexpectedEnd) (more : List UInt8) :
    read (bytes ++ more) = .error e := by
  rw [h bytes more (by rw [hread]; exact fun h => he (Except.error.inj h)), hread]
  rfl

/-- A reader that is cut off inside what it takes runs out of bytes. -/
theorem unexpectedEnd_of_append (h : IsStreaming read) {bytes more rest : List UInt8} {x : β}
    (hread : read (bytes ++ more) = .ok (x, rest)) (hcut : rest.length < more.length) :
    read bytes = .error .unexpectedEnd := by
  refine Classical.byContradiction fun hne => ?_
  rw [h bytes more hne] at hread
  obtain ⟨⟨x', rest'⟩, -, heq⟩ := map_eq_ok.mp hread
  cases heq
  rw [List.length_append] at hcut
  omega

/-! ### Readers made of others -/

/-- What does not look at the bytes is streaming. -/
theorem result (result : Except DecodeError β) :
    IsStreaming fun bytes => result.map fun x => (x, bytes) := by
  intro bytes more _
  cases result with
  | error e => rfl
  | ok x => rfl

/-- A reader that begins as a streaming one, and goes on as a streaming one after it, is
streaming. -/
theorem step {whole : List UInt8 → Except DecodeError (γ × List UInt8)}
    (hread : IsStreaming read) (next : β → List UInt8 → Except DecodeError (γ × List UInt8))
    (hnext : ∀ x, IsStreaming (next x))
    (hwhole : ∀ bytes, whole bytes = read bytes >>= fun (x, rest) => next x rest) :
    IsStreaming whole := by
  intro bytes more hne
  rw [hwhole] at hne ⊢
  rw [hwhole bytes]
  cases hfirst : read bytes with
  | error e =>
    rw [hfirst] at hne
    rw [hread.append_of_error hfirst fun he => hne (congrArg Except.error he)]
    rfl
  | ok found =>
    obtain ⟨x, rest⟩ := found
    rw [hfirst] at hne
    rw [hread.append_of_ok hfirst]
    exact hnext x rest more hne

/-- A reader whose result is only changed is streaming. -/
theorem map (hread : IsStreaming read) (f : β → γ) :
    IsStreaming fun bytes => (read bytes).map fun (x, rest) => (f x, rest) :=
  hread.step (fun x rest => .ok (f x, rest)) (fun x => result (.ok (f x)))
    fun bytes => by cases read bytes <;> rfl

/-- A reader whose result is dropped is streaming. -/
theorem forget (hread : IsStreaming read) (acc : γ) :
    IsStreaming fun bytes => ((read bytes).map Prod.snd).map fun rest => (acc, rest) :=
  hread.step (fun _ rest => .ok (acc, rest)) (fun _ => result (.ok acc))
    fun bytes => by cases read bytes <;> rfl

end IsStreaming

/-! ## The readers of a record -/

theorem Varint.readWithin_isStreaming (allowed : Nat) : IsStreaming (readWithin allowed) := by
  induction allowed with
  | zero =>
    intro bytes more _
    rfl
  | succ allowed ih =>
    intro bytes more hne
    cases bytes with
    | nil => exact absurd rfl hne
    | cons byte bytes =>
      rw [List.cons_append, readWithin, readWithin]
      rw [readWithin] at hne
      split
      · rfl
      · next hvalid =>
        split
        · rfl
        · next hmore =>
          rw [if_neg hvalid, if_neg hmore] at hne
          cases hrest : readWithin allowed bytes with
          | error e =>
            rw [hrest] at hne
            rw [ih.append_of_error hrest fun he => hne (congrArg Except.error he)]
            rfl
          | ok found =>
            obtain ⟨high, rest⟩ := found
            rw [ih.append_of_ok hrest]
            rfl

theorem Varint.read_isStreaming : IsStreaming Varint.read := readWithin_isStreaming maxBytes

theorem readFixed_isStreaming (count : Nat) : IsStreaming (readFixed count) := by
  intro bytes more hne
  unfold readFixed at hne ⊢
  -- The only fault is that bytes are missing, so enough are there before any are added.
  by_cases hshort : bytes.length < count
  · rw [if_pos hshort] at hne
    exact absurd rfl hne
  · have hlong : ¬ (bytes ++ more).length < count := by
      rw [List.length_append]
      omega
    rw [if_neg hshort, if_neg hlong, List.splitAt_eq, List.splitAt_eq,
      List.take_append_of_le_length (by omega), List.drop_append_of_le_length (by omega)]
    rfl

/-- The head of a record that a number stands for. -/
def Key.ofNumber (n : Nat) : Except DecodeError Key :=
  match WireType.ofCode? (n % 8) with
  | none => .error (.invalidWireType (n % 8))
  | some wireType => .ok ⟨n / 8 % UInt32.size, wireType⟩

theorem Key.read_eq (bytes : List UInt8) :
    Key.read bytes =
      Varint.read bytes >>= fun (n, rest) => (Key.ofNumber n).map fun key => (key, rest) := by
  unfold Key.read
  cases Varint.read bytes with
  | error e => rfl
  | ok found =>
    obtain ⟨n, rest⟩ := found
    show (match WireType.ofCode? (n % 8) with | none => _ | some wireType => _) =
      (Key.ofNumber n).map fun key => (key, rest)
    unfold Key.ofNumber
    cases WireType.ofCode? (n % 8) <;> rfl

theorem Key.read_isStreaming : IsStreaming Key.read :=
  Varint.read_isStreaming.step _ (fun n => .result (Key.ofNumber n)) Key.read_eq

theorem readChunk_isStreaming : IsStreaming readChunk := by
  refine Varint.read_isStreaming.step (fun length rest =>
    if maxChunk < length then .error (.tooLarge length) else readFixed length rest) ?_ ?_
  · intro length
    split
    · exact .result (.error (.tooLarge length))
    · exact readFixed_isStreaming length
  · intro bytes
    unfold readChunk
    cases Varint.read bytes <;> rfl

theorem skipPayload_isStreaming (wireType : WireType) (acc : α) :
    IsStreaming fun bytes => (skipPayload wireType bytes).map fun rest => (acc, rest) := by
  cases wireType with
  | varint => exact Varint.read_isStreaming.forget acc
  | fixed64 => exact (readFixed_isStreaming 8).forget acc
  | chunk => exact readChunk_isStreaming.forget acc
  | fixed32 => exact (readFixed_isStreaming 4).forget acc
  | groupStart | groupEnd => exact .result (.error (.invalidWireType _))

theorem FieldReader.readPayload_isStreaming (field : FieldReader α) (acc : α) :
    IsStreaming (field.readPayload acc) := by
  cases field with
  | number store => exact Varint.read_isStreaming.map (store acc)
  | bytes store =>
    refine readChunk_isStreaming.step _ (fun chunk => .result (store acc chunk)) fun bytes => ?_
    unfold FieldReader.readPayload
    cases readChunk bytes <;> rfl

theorem readAfterKey_isStreaming (fields : Nat → Option (FieldReader α)) (acc : α) (key : Key) :
    IsStreaming (readAfterKey fields acc key) := by
  unfold readAfterKey
  split
  · exact skipPayload_isStreaming key.wireType acc
  · next field _ =>
    split
    · exact field.readPayload_isStreaming acc
    · exact .result (.error (.invalidWireType key.wireType.code))

theorem readRecord_isStreaming (fields : Nat → Option (FieldReader α)) (acc : α) :
    IsStreaming (readRecord fields acc) :=
  Key.read_isStreaming.step _ (readAfterKey_isStreaming fields acc) (readRecord_eq fields acc)

/-! ## The loop over records -/

/-- Bytes that are added to records go on where these were left.  If the records have a
fault other than that they end too early, the added bytes do not matter. -/
theorem readRecords_append {fields : Nat → Option (FieldReader α)} {acc : α}
    {bytes : List UInt8} (h : readRecords fields acc bytes ≠ .error .unexpectedEnd)
    (more : List UInt8) :
    readRecords fields acc (bytes ++ more) =
      readRecords fields acc bytes >>= fun acc => readRecords fields acc more := by
  fun_induction readRecords fields acc bytes with
  | case1 acc bytes hempty =>
    rw [List.isEmpty_iff.mp hempty]
    rfl
  | case2 acc bytes hempty e hfirst =>
    rw [List.isEmpty_iff] at hempty
    refine readRecords_of_error (by simp [hempty]) ?_
    exact (readRecord_isStreaming fields acc).append_of_error hfirst
      (fun he => h (congrArg Except.error he)) more
  | case3 acc bytes hempty acc' rest hfirst ih =>
    rw [readRecords_of_readRecord ((readRecord_isStreaming fields acc).append_of_ok hfirst more)]
    exact ih h

theorem readRecords_append_of_ok {fields : Nat → Option (FieldReader α)} {acc acc' : α}
    {bytes : List UInt8} (h : readRecords fields acc bytes = .ok acc') (more : List UInt8) :
    readRecords fields acc (bytes ++ more) = readRecords fields acc' more := by
  rw [readRecords_append (by rw [h]; exact nofun), h]
  rfl

end ProtoSchema
