import ProtoSchema.Proofs.Collection.Ascending
import ProtoSchema.Value.Message
import ProtoSchema.Wire.Record

/-!
# Calls that change a message

A message is changed by calls: a field is set, an item is appended to one, one is
set to an enum value by its name, and a field is unset (`Call`).  A call that fails
leaves the message as it is.

`Message.Does` says what each call that succeeds does, and `Message.call_eq_ok` that
it says so in full.  The type of a message never changes (`Message.type_after`), and
its entries stay in order (`Message.IsOrdered.run`).
-/

namespace ProtoSchema

/-! ## What fits a field -/

/-- Whether a value fits a field as a whole. -/
def FieldTable.fits (field : FieldTable) (value : Value) : Bool :=
  if field.isRepeated then
    match value with
    | .list items => items.all field.content.accepts
    | _ => false
  else field.content.accepts value

namespace FieldTable

variable {field : FieldTable} {value : Value}

theorem check_eq_ok : field.check value = .ok () ↔ field.fits value = true := by
  unfold check fits
  split
  · cases value with
    | list items =>
      simp only
      cases hbad : items.find? fun item => !field.content.accepts item with
      | none =>
        rw [List.find?_eq_none] at hbad
        refine iff_of_true rfl (List.all_eq_true.mpr fun item hitem => ?_)
        simpa using hbad item hitem
      | some bad =>
        refine iff_of_false (fun h => by cases h) fun h => ?_
        have haccepts := List.all_eq_true.mp h bad (List.mem_of_find?_eq_some hbad)
        have hrefuses := List.find?_some hbad
        rw [haccepts] at hrefuses
        cases hrefuses
    | atom value => exact iff_of_false (fun h => by cases h) Bool.false_ne_true
    | message message => exact iff_of_false (fun h => by cases h) Bool.false_ne_true
  · split
    · next haccepts => exact iff_of_true rfl haccepts
    · next hrefuses => exact iff_of_false (fun h => by cases h) hrefuses

/-- A repeated field takes a list of items that it accepts. -/
theorem fits_of_isRepeated (h : field.isRepeated = true) :
    field.fits value = true ↔
      ∃ items, value = .list items ∧ ∀ item ∈ items, field.content.accepts item = true := by
  unfold fits
  rw [if_pos h]
  cases value with
  | list items =>
    simp only [List.all_eq_true, Value.list.injEq, exists_eq_left']
  | atom value =>
    refine iff_of_false Bool.false_ne_true ?_
    rintro ⟨items, heq, -⟩
    cases heq
  | message message =>
    refine iff_of_false Bool.false_ne_true ?_
    rintro ⟨items, heq, -⟩
    cases heq

/-- Any other field takes a value that it accepts. -/
theorem fits_of_not_isRepeated (h : field.isRepeated = false) :
    field.fits value = field.content.accepts value := by
  unfold fits
  rw [if_neg (by rw [h]; exact Bool.false_ne_true)]

end FieldTable

/-! ## What is stored -/

namespace Message

variable {message : Message}

theorem fieldTable_eq_ok {field : String} {table : FieldTable} :
    message.fieldTable field = .ok table ↔ message.type.field? field = some table := by
  unfold fieldTable
  cases message.type.field? field with
  | none => exact iff_of_false (fun h => by cases h) (fun h => by cases h)
  | some found => rw [Except.ok.injEq, Option.some.injEq]

/-- What is read is what is stored, or else what a reader sees when nothing is. -/
theorem getOrDefault_eq {name : String} {field : FieldTable}
    (hfield : message.type.field? name = some field) :
    message.getOrDefault name =
      match (message.stored? field.number).or field.absentValue? with
      | some value => .ok value
      | none => .error (.noDefault field.name message.type.fullName) := by
  cases hvalue : (message.stored? field.number).or field.absentValue? with
  | none => simp only [getOrDefault, fieldTable_eq_ok.mpr hfield, hvalue]
  | some value => simp only [getOrDefault, fieldTable_eq_ok.mpr hfield, hvalue]

theorem getOrDefault_eq_ok {name : String} {field : FieldTable} {value : Value}
    (hfield : message.type.field? name = some field) :
    message.getOrDefault name = .ok value ↔
      (message.stored? field.number).or field.absentValue? = some value := by
  rw [getOrDefault_eq hfield]
  cases (message.stored? field.number).or field.absentValue? with
  | none => exact iff_of_false (fun h => by cases h) (fun h => by cases h)
  | some found => rw [Except.ok.injEq, Option.some.injEq]

@[simp]
theorem type_store (number : Nat) (value : Value) :
    (message.store number value).type = message.type := rfl

@[simp]
theorem type_drop (number : Nat) : (message.drop number).type = message.type := rfl

@[simp]
theorem type_foldl_drop (numbers : List Nat) :
    (numbers.foldl drop message).type = message.type := by
  induction numbers generalizing message with
  | nil => rfl
  | cons number numbers ih => rw [List.foldl_cons, ih, type_drop]

theorem stored?_store (number other : Nat) (value : Value) :
    (message.store number value).stored? other =
      if other = number then some value else message.stored? other :=
  Ascending.find?_insert other number value message.entries

theorem mem_entries_store {number : Nat} {value : Value} {entry : Nat × Value}
    (h : entry ∈ (message.store number value).entries) :
    entry = (number, value) ∨ entry ∈ message.entries :=
  Ascending.eq_or_mem_of_mem_insert h

theorem entries_drop_sublist (number : Nat) :
    (message.drop number).entries.Sublist message.entries :=
  Ascending.erase_sublist number message.entries

theorem entries_foldl_drop_sublist (numbers : List Nat) :
    (numbers.foldl drop message).entries.Sublist message.entries := by
  induction numbers generalizing message with
  | nil => exact List.Sublist.refl _
  | cons number numbers ih => exact ih.trans (message.entries_drop_sublist number)

end Message

/-- Stores the value of a field, and drops those of the other members of its oneof. -/
def Message.assign (message : Message) (field : FieldTable) (value : Value) : Message :=
  ((message.siblings field).foldl drop message).store field.number value

@[simp]
theorem Message.type_assign (message : Message) (field : FieldTable) (value : Value) :
    (message.assign field value).type = message.type := by
  rw [assign, type_store, type_foldl_drop]

theorem Message.mem_entries_assign {message : Message} {field : FieldTable} {value : Value}
    {entry : Nat × Value} (h : entry ∈ (message.assign field value).entries) :
    entry = (field.number, value) ∨ entry ∈ message.entries :=
  (mem_entries_store h).imp_right fun hentry => (entries_foldl_drop_sublist _).mem hentry

/-! ## Order -/

/-- Whether the entries of a message ascend by number. -/
def Message.IsOrdered (message : Message) : Prop :=
  (message.entries.map Prod.fst).Pairwise (· < ·)

namespace Message.IsOrdered

variable {message : Message}

theorem empty (type : MessageTable) : (Message.empty type).IsOrdered := List.Pairwise.nil

theorem store (h : message.IsOrdered) (number : Nat) (value : Value) :
    (message.store number value).IsOrdered :=
  Ascending.pairwise_insert Nat.lt_trans
    (fun hne hnlt => Nat.lt_of_le_of_ne (Nat.le_of_not_lt hnlt) hne.symm) number value h

theorem drop (h : message.IsOrdered) (number : Nat) : (message.drop number).IsOrdered :=
  Ascending.pairwise_erase number h

theorem foldl_drop (h : message.IsOrdered) (numbers : List Nat) :
    (numbers.foldl Message.drop message).IsOrdered := by
  induction numbers generalizing message with
  | nil => exact h
  | cons number numbers ih => exact ih (h.drop number)

theorem assign (h : message.IsOrdered) (field : FieldTable) (value : Value) :
    (message.assign field value).IsOrdered :=
  (h.foldl_drop _).store _ _

theorem nodup (h : message.IsOrdered) : (message.entries.map Prod.fst).Nodup :=
  h.imp Nat.ne_of_lt

theorem stored?_eq_some_iff (h : message.IsOrdered) {number : Nat} {value : Value} :
    message.stored? number = some value ↔ (number, value) ∈ message.entries :=
  Ascending.find?_eq_some_iff h.nodup

theorem stored?_drop (h : message.IsOrdered) (number other : Nat) :
    (message.drop number).stored? other =
      if other = number then none else message.stored? other := by
  split
  · next heq =>
    subst heq
    exact Ascending.find?_erase_self h.nodup
  · next hne => exact Ascending.find?_erase_of_ne hne message.entries

/-- Of the values under several numbers none is left. -/
theorem stored?_foldl_drop (h : message.IsOrdered) (numbers : List Nat) (other : Nat) :
    (numbers.foldl Message.drop message).stored? other =
      if other ∈ numbers then none else message.stored? other := by
  induction numbers generalizing message with
  | nil => rfl
  | cons number numbers ih =>
    rw [List.foldl_cons, ih (h.drop number), h.stored?_drop]
    by_cases hnumber : other = number
    · rw [if_pos hnumber, if_pos (List.mem_cons.mpr (Or.inl hnumber)), ite_self]
    · simp only [List.mem_cons, hnumber, if_false, false_or]

end Message.IsOrdered

/-! ## Calls -/

/-- A call that changes a message. -/
inductive Call where
  /-- Sets a field. -/
  | set (field : String) (value : Value)
  /-- Appends an item to a repeated field. -/
  | push (field : String) (value : Value)
  /-- Sets a field that holds an enum to the value of this name. -/
  | setEnumByName (field valueName : String)
  /-- Unsets a field. -/
  | clear (field : String)

/-- The name of the field that a call is about. -/
def Call.field : Call → String
  | .set field _ => field
  | .push field _ => field
  | .setEnumByName field _ => field
  | .clear field => field

namespace Message

/-- The message after a call, or why the call fails. -/
def call (message : Message) : Call → Except Failure Message
  | .set field value => message.set field value
  | .push field value => message.push field value
  | .setEnumByName field valueName => message.setEnumByName field valueName
  | .clear field => (message.clear field).map Prod.snd

/-- The message after a call.  A call that fails changes nothing. -/
def after (message : Message) (call : Call) : Message :=
  match message.call call with
  | .ok changed => changed
  | .error _ => message

/-- The message after several calls. -/
def run (message : Message) (calls : List Call) : Message := calls.foldl after message

/-- What a call that succeeds does. -/
inductive Does (message : Message) : Call → Message → Prop where
  | set {field : String} {value : Value} {table : FieldTable} :
    message.type.field? field = some table →
    table.fits (table.content.coerce value) = true →
    Does message (.set field value) (message.assign table (table.content.coerce value))
  | push {field : String} {value : Value} {table : FieldTable} :
    message.type.field? field = some table →
    table.isRepeated = true →
    table.content.accepts (table.content.coerce value) = true →
    Does message (.push field value)
      (message.store table.number
        (.list (message.itemsAt table.number ++ [table.content.coerce value])))
  /-- This is setting the field to the number of the value. -/
  | setEnumByName {field valueName : String} {table : FieldTable} {enum : EnumTable}
      {number : Int32} {changed : Message} :
    message.type.field? field = some table →
    table.content = .enum enum →
    enum.numberOf? valueName = some number →
    Does message (.set field (.atom (.enum number))) changed →
    Does message (.setEnumByName field valueName) changed
  | clear {field : String} {table : FieldTable} :
    message.type.field? field = some table →
    Does message (.clear field) (message.drop table.number)

section

variable {message changed : Message}

/-- A call that does something finds its field. -/
theorem Does.exists_fieldTable {call : Call} (h : message.Does call changed) :
    ∃ table, message.fieldTable call.field = .ok table := by
  cases h with
  | set hfound _ => exact ⟨_, fieldTable_eq_ok.mpr hfound⟩
  | push hfound _ _ => exact ⟨_, fieldTable_eq_ok.mpr hfound⟩
  | setEnumByName hfound _ _ _ => exact ⟨_, fieldTable_eq_ok.mpr hfound⟩
  | clear hfound => exact ⟨_, fieldTable_eq_ok.mpr hfound⟩

theorem set_eq_ok {field : String} {value : Value} :
    message.set field value = .ok changed ↔ message.Does (.set field value) changed := by
  unfold set
  cases htable : message.fieldTable field with
  | error failure =>
    refine iff_of_false (fun h => by cases h) fun h => ?_
    obtain ⟨table, hok⟩ := h.exists_fieldTable
    cases htable.symm.trans hok
  | ok table =>
    have hfield := fieldTable_eq_ok.mp htable
    constructor
    · intro h
      obtain ⟨_, hcheck, rfl⟩ := map_eq_ok.mp h
      exact .set hfield (FieldTable.check_eq_ok.mp hcheck)
    · intro h
      cases h with
      | set hfield' hfits =>
        cases hfield.symm.trans hfield'
        simp only [FieldTable.check_eq_ok.mpr hfits]
        rfl

theorem push_eq_ok {field : String} {value : Value} :
    message.push field value = .ok changed ↔ message.Does (.push field value) changed := by
  unfold push
  cases htable : message.fieldTable field with
  | error failure =>
    refine iff_of_false (fun h => by cases h) fun h => ?_
    obtain ⟨table, hok⟩ := h.exists_fieldTable
    cases htable.symm.trans hok
  | ok table =>
    have hfield := fieldTable_eq_ok.mp htable
    constructor
    · intro h
      simp only at h
      split at h
      · cases h
      · next hrepeated =>
        split at h
        · cases h
        · next haccepts =>
          cases h
          exact .push hfield (by simpa using hrepeated) (by simpa using haccepts)
    · intro h
      cases h with
      | push hfield' hrepeated haccepts =>
        cases hfield.symm.trans hfield'
        simp only [hrepeated, haccepts]
        rfl

theorem setEnumByName_eq_ok {field valueName : String} :
    message.setEnumByName field valueName = .ok changed ↔
      message.Does (.setEnumByName field valueName) changed := by
  unfold setEnumByName
  cases htable : message.fieldTable field with
  | error failure =>
    refine iff_of_false (fun h => by cases h) fun h => ?_
    obtain ⟨table, hok⟩ := h.exists_fieldTable
    cases htable.symm.trans hok
  | ok table =>
    have hfield := fieldTable_eq_ok.mp htable
    constructor
    · intro h
      simp only at h
      split at h
      · next enum hcontent =>
        split at h
        · next number hnumber => exact .setEnumByName hfield hcontent hnumber (set_eq_ok.mp h)
        · cases h
      · cases h
    · intro h
      cases h with
      | setEnumByName hfield' hcontent hnumber hset =>
        cases hfield.symm.trans hfield'
        simp only [hcontent, hnumber]
        exact set_eq_ok.mpr hset

/-- A call succeeds when it does something, and leads to what it does. -/
theorem call_eq_ok {call : Call} : message.call call = .ok changed ↔ message.Does call changed := by
  cases call with
  | set field value => exact set_eq_ok
  | push field value => exact push_eq_ok
  | setEnumByName field valueName => exact setEnumByName_eq_ok
  | clear field =>
    constructor
    · intro h
      obtain ⟨answer, hclear, rfl⟩ := map_eq_ok.mp h
      obtain ⟨table, htable, rfl⟩ := map_eq_ok.mp hclear
      exact .clear (fieldTable_eq_ok.mp htable)
    · intro h
      cases h with
      | clear hfield =>
        simp only [Message.call, clear, fieldTable_eq_ok.mpr hfield]
        rfl

/-- A call does something, or it changes nothing. -/
theorem does_or_eq (message : Message) (call : Call) :
    message.Does call (message.after call) ∨ message.after call = message := by
  unfold after
  cases hcall : message.call call with
  | ok changed => exact Or.inl (call_eq_ok.mp hcall)
  | error failure => exact Or.inr rfl

end

/-! ## What calls keep -/

/-- The type of a message never changes. -/
theorem Does.type_eq {message changed : Message} {call : Call} (h : message.Does call changed) :
    changed.type = message.type := by
  induction h with
  | set _ _ => exact message.type_assign _ _
  | push _ _ _ => rfl
  | setEnumByName _ _ _ _ ih => exact ih
  | clear _ => rfl

@[simp]
theorem type_after (message : Message) (call : Call) :
    (message.after call).type = message.type := by
  rcases message.does_or_eq call with h | h
  · exact h.type_eq
  · rw [h]

@[simp]
theorem type_run (message : Message) (calls : List Call) :
    (message.run calls).type = message.type := by
  induction calls generalizing message with
  | nil => rfl
  | cons call calls ih => exact (ih (message.after call)).trans (message.type_after call)

theorem Does.isOrdered {message changed : Message} {call : Call} (h : message.Does call changed)
    (hordered : message.IsOrdered) : changed.IsOrdered := by
  induction h with
  | set _ _ => exact hordered.assign _ _
  | push _ _ _ => exact hordered.store _ _
  | setEnumByName _ _ _ _ ih => exact ih
  | clear _ => exact hordered.drop _

/-- What every call that does something keeps holds after a run. -/
theorem run_induction {P : Message → Prop} {message : Message} (calls : List Call)
    (hstart : P message)
    (hstep : ∀ current changed call, call ∈ calls → current.type = message.type → P current →
      current.Does call changed → P changed) : P (message.run calls) := by
  induction calls generalizing message with
  | nil => exact hstart
  | cons call calls ih =>
    have hafter : P (message.after call) := by
      rcases message.does_or_eq call with h | h
      · exact hstep _ _ _ (.head _) rfl hstart h
      · rw [h]
        exact hstart
    refine ih hafter fun current changed next hnext htype => ?_
    exact hstep current changed next (.tail _ hnext) (htype.trans (message.type_after call))

theorem IsOrdered.run {message : Message} (h : message.IsOrdered) (calls : List Call) :
    (message.run calls).IsOrdered :=
  run_induction calls h fun _ _ _ _ _ hcurrent hdoes => hdoes.isOrdered hcurrent

end Message

end ProtoSchema
