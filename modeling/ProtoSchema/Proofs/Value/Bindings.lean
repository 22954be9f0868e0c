import ProtoSchema.Proofs.Value.Oneofs

/-!
# Messages as maps from names to values

A message keeps its values by number, and finds the numbers of fields and of oneof
members in the table of its type.  What it stands for is a map from the names of
fields to values (`Bindings`), in which binding a member of a oneof unbinds the
others.

In types that tell their fields apart and whose oneofs have no repeated members
(`MessageTable.IsRegular`), calls do to the message what they do to the map
(`Message.Represents.after`), and everything that can be read from the message
follows from the map (`Message.Represents.shows`).  So a message always shows the map
that its calls make (`Message.shows_run`).
-/

namespace ProtoSchema

/-! ## Maps -/

/-- The values that are bound to the names of fields. -/
abbrev Bindings := String → Option Value

namespace Bindings

/-- The map in which nothing is bound. -/
def empty : Bindings := fun _ => none

variable (type : MessageTable) (bindings : Bindings)

/-- Binds a field to a value, or to nothing. -/
def put (field : String) (value : Option Value) : Bindings :=
  fun name => if name = field then value else bindings name

/-- Binds a field, and unbinds the other members of its oneof. -/
def assign (field : FieldTable) (value : Value) : Bindings := fun name =>
  if name = field.name then some value
  else if ∃ other ∈ type.fields, other.name = name ∧ field.SharesOneof other then none
  else bindings name

/-- The items of a list that a field is bound to. -/
def items (field : String) : List Value :=
  match bindings field with
  | some (.list items) => items
  | _ => []

/-- Setting a field binds it, when the value fits. -/
def set (field : String) (value : Value) : Option Bindings :=
  (type.field? field).bind fun table =>
    let value := table.content.coerce value
    if table.fits value then some (bindings.assign type table value) else none

/-- Appending an item binds a repeated field to a longer list, when the item fits. -/
def push (field : String) (value : Value) : Option Bindings :=
  (type.field? field).bind fun table =>
    let value := table.content.coerce value
    if table.isRepeated && table.content.accepts value then
      some (bindings.put field (some (.list (bindings.items field ++ [value]))))
    else none

/-- Setting an enum value by its name is setting the number of the first value of
this name. -/
def setEnumByName (field valueName : String) : Option Bindings :=
  (type.field? field).bind fun table =>
    match table.content with
    | .enum enum =>
      (enum.numberOf? valueName).bind fun number => bindings.set type field (.atom (.enum number))
    | _ => none

/-- The map after a call, if the call succeeds. -/
def call : Call → Option Bindings
  | .set field value => bindings.set type field value
  | .push field value => bindings.push type field value
  | .setEnumByName field valueName => bindings.setEnumByName type field valueName
  | .clear field => (type.field? field).map fun _ => bindings.put field none

/-- The map after a call.  A call that fails changes nothing. -/
def after (call : Call) : Bindings := (bindings.call type call).getD bindings

/-- The map after several calls. -/
def run (calls : List Call) : Bindings := calls.foldl (after type) bindings

end Bindings

/-! ## What a message shows -/

/-- The name of the oneof of a field. -/
def MessageTable.oneofOf? (type : MessageTable) (field : FieldTable) : Option String :=
  field.oneof.bind fun index => type.oneofs[index]?

/-- Whether what is read from a message is what is bound in a map. -/
structure Message.Shows (message : Message) (bindings : Bindings) : Prop where
  get : ∀ field ∈ message.type.fields, message.get field.name = .ok (bindings field.name)
  has : ∀ field ∈ message.type.fields, message.has field.name = .ok (bindings field.name).isSome
  /-- The value that is bound, or else the default. -/
  getOrDefault : ∀ field ∈ message.type.fields, message.getOrDefault field.name =
    match (bindings field.name).or field.absentValue? with
    | some value => .ok value
    | none => .error (.noDefault field.name message.type.fullName)
  /-- The fields that are bound are listed, and no others. -/
  mem_fields : ∀ field value, (field, value) ∈ message.fields ↔
    field ∈ message.type.fields ∧ bindings field.name = some value
  /-- The numbers of the fields that are listed ascend, so each is listed once. -/
  ascending : (message.fields.map fun entry => entry.1.number).Pairwise (· < ·)
  /-- The member of a oneof that is bound, if one is. -/
  whichOneof : ∀ oneof name, message.whichOneof oneof = some name ↔
    ∃ field ∈ message.type.fields, message.type.oneofOf? field = some oneof ∧
      field.name = name ∧ (bindings name).isSome = true

/-- Whether a type tells its fields and its oneofs apart, and no member of a oneof is
repeated. -/
structure MessageTable.IsRegular (type : MessageTable) : Prop where
  names : type.NamesFieldsOnce
  numbers : type.NumbersFieldsOnce
  oneofs : type.oneofs.Nodup
  members : ∀ field ∈ type.fields, field.oneof.isSome = true → field.isRepeated = false

/-- The position of a oneof is found by its name. -/
theorem MessageTable.IsRegular.findIdx?_oneofs_eq_some_iff {type : MessageTable}
    (h : type.IsRegular) {index : Nat} {oneof : String} :
    (type.oneofs.findIdx? fun name => name == oneof) = some index ↔
      type.oneofs[index]? = some oneof :=
  findIdx?_beq_eq_some_iff h.oneofs

/-- Whether a message stores what is bound in a map. -/
structure Message.Represents (message : Message) (bindings : Bindings) : Prop where
  ordered : message.IsOrdered
  keepsOneofs : message.KeepsOneofs
  stored : ∀ field ∈ message.type.fields, message.stored? field.number = bindings field.name

namespace Message.Represents

variable {message : Message} {bindings : Bindings}

theorem empty (type : MessageTable) : (Message.empty type).Represents .empty :=
  ⟨.empty type, keepsOneofs_empty type, fun _ _ => rfl⟩

/-! ## Reading -/

/-- At most one member of a oneof is bound. -/
theorem eq_of_bound (h : message.Represents bindings) (htype : message.type.IsRegular)
    {a b : FieldTable} (ha : a ∈ message.type.fields) (hb : b ∈ message.type.fields)
    (hshares : a.SharesOneof b) (hboundA : (bindings a.name).isSome = true)
    (hboundB : (bindings b.name).isSome = true) : a = b := by
  rw [← h.stored a ha] at hboundA
  rw [← h.stored b hb] at hboundB
  exact h.keepsOneofs a ha b hb hshares (htype.members a ha hshares.1)
    (htype.members b hb hshares.symm.1) hboundA hboundB

theorem mem_fields (h : message.Represents bindings) (htype : message.type.IsRegular)
    {field : FieldTable} {value : Value} :
    (field, value) ∈ message.fields ↔
      field ∈ message.type.fields ∧ bindings field.name = some value := by
  unfold fields
  rw [List.mem_filterMap]
  constructor
  · rintro ⟨⟨number, stored⟩, hentry, hfound⟩
    obtain ⟨table, htable, heq⟩ := Option.map_eq_some_iff.mp hfound
    cases heq
    obtain ⟨hfield, rfl⟩ := htype.numbers.fieldNumbered?_eq_some_iff.mp htable
    exact ⟨hfield, by rw [← h.stored field hfield]; exact h.ordered.stored?_eq_some_iff.mpr hentry⟩
  · rintro ⟨hfield, hbound⟩
    rw [← h.stored field hfield] at hbound
    refine ⟨(field.number, value), h.ordered.stored?_eq_some_iff.mp hbound, ?_⟩
    exact Option.map_eq_some_iff.mpr
      ⟨field, htype.numbers.fieldNumbered?_eq_some_iff.mpr ⟨hfield, rfl⟩, rfl⟩

theorem ascending (h : message.Represents bindings) :
    (message.fields.map fun entry => entry.1.number).Pairwise (· < ·) := by
  rw [List.pairwise_map]
  unfold fields
  rw [List.pairwise_filterMap]
  refine (List.pairwise_map.mp h.ordered).imp fun hlt first hfirst second hsecond => ?_
  obtain ⟨a, ha, rfl⟩ := Option.map_eq_some_iff.mp hfirst
  obtain ⟨b, hb, rfl⟩ := Option.map_eq_some_iff.mp hsecond
  rw [(MessageTable.mem_of_fieldNumbered? ha).2, (MessageTable.mem_of_fieldNumbered? hb).2]
  exact hlt

/-- The member of a oneof that is found to be set is the one that is bound. -/
theorem find?_member_eq_some_iff (h : message.Represents bindings) (htype : message.type.IsRegular)
    {index : Nat} {member : FieldTable} :
    (message.type.fields.find? fun field =>
        field.oneof == some index && (message.stored? field.number).isSome) = some member ↔
      member ∈ message.type.fields ∧ member.oneof = some index ∧
        (bindings member.name).isSome = true := by
  have hset : ∀ field ∈ message.type.fields,
      ((field.oneof == some index && (message.stored? field.number).isSome) = true ↔
        field.oneof = some index ∧ (bindings field.name).isSome = true) := by
    intro field hfield
    rw [Bool.and_eq_true, beq_iff_eq, h.stored field hfield]
  refine (find?_eq_some_iff_of_unique fun a ha b hb hA hB => ?_).trans
    (and_congr_right fun hmember => hset member hmember)
  obtain ⟨hindexA, hboundA⟩ := (hset a ha).mp hA
  obtain ⟨hindexB, hboundB⟩ := (hset b hb).mp hB
  exact h.eq_of_bound htype ha hb ⟨by rw [hindexA]; rfl, hindexA.trans hindexB.symm⟩ hboundA hboundB

theorem whichOneof (h : message.Represents bindings) (htype : message.type.IsRegular)
    {oneof name : String} :
    message.whichOneof oneof = some name ↔ ∃ field ∈ message.type.fields,
      message.type.oneofOf? field = some oneof ∧ field.name = name ∧
        (bindings name).isSome = true := by
  unfold Message.whichOneof
  constructor
  · intro hwhich
    obtain ⟨index, hindex, hmember⟩ := Option.bind_eq_some_iff.mp hwhich
    obtain ⟨field, hfound, rfl⟩ := Option.map_eq_some_iff.mp hmember
    obtain ⟨hfield, honeof, hbound⟩ := (h.find?_member_eq_some_iff htype).mp hfound
    exact ⟨field, hfield, Option.bind_eq_some_iff.mpr
      ⟨index, honeof, htype.findIdx?_oneofs_eq_some_iff.mp hindex⟩, rfl, hbound⟩
  · rintro ⟨field, hfield, honeof, rfl, hbound⟩
    obtain ⟨index, hindex, hname⟩ := Option.bind_eq_some_iff.mp honeof
    have hfound := (h.find?_member_eq_some_iff htype).mpr ⟨hfield, hindex, hbound⟩
    exact Option.bind_eq_some_iff.mpr ⟨index, htype.findIdx?_oneofs_eq_some_iff.mpr hname,
      Option.map_eq_some_iff.mpr ⟨field, hfound, rfl⟩⟩

/-- What is read from a message is what is bound in the map that it represents. -/
theorem shows (h : message.Represents bindings) (htype : message.type.IsRegular) :
    message.Shows bindings := by
  have htable : ∀ field ∈ message.type.fields, message.fieldTable field.name = .ok field :=
    fun field hfield => fieldTable_eq_ok.mpr (htype.names.field?_eq_some hfield)
  have hget : ∀ field ∈ message.type.fields,
      message.get field.name = .ok (bindings field.name) := by
    intro field hfield
    rw [get, htable field hfield, ← h.stored field hfield]
    rfl
  refine ⟨hget, ?_, ?_, fun _ _ => h.mem_fields htype, h.ascending, fun _ _ => h.whichOneof htype⟩
  · intro field hfield
    rw [has, hget field hfield]
    rfl
  · intro field hfield
    rw [getOrDefault, htable field hfield]
    exact h.stored field hfield ▸ rfl

/-! ## Writing -/

/-- Assigning a field binds it, and unbinds the other members of its oneof. -/
theorem stored?_assign (h : message.Represents bindings) (htype : message.type.IsRegular)
    {table field : FieldTable} (htable : table ∈ message.type.fields)
    (hfield : field ∈ message.type.fields) (value : Value) :
    (message.assign table value).stored? field.number =
      bindings.assign message.type table value field.name := by
  rw [h.ordered.stored?_assign htype.numbers htable hfield, h.stored field hfield, Bindings.assign]
  by_cases hsame : field = table
  · rw [if_pos hsame, if_pos (congrArg FieldTable.name hsame)]
  · rw [if_neg hsame, if_neg fun hname => hsame (htype.names.eq hfield htable hname)]
    by_cases hshares : table.SharesOneof field
    · rw [if_pos hshares, if_pos ⟨field, hfield, rfl, hshares⟩]
    · rw [if_neg hshares, if_neg]
      rintro ⟨other, hother, hname, hotherShares⟩
      rw [htype.names.eq hother hfield hname] at hotherShares
      exact hshares hotherShares

/-- Storing a value, or dropping one, binds one field. -/
theorem eq_put (h : message.Represents bindings) (htype : message.type.IsRegular)
    {table field : FieldTable} (htable : table ∈ message.type.fields)
    (hfield : field ∈ message.type.fields) (found : Option Value) :
    (if field.number = table.number then found else message.stored? field.number) =
      bindings.put table.name found field.name := by
  rw [Bindings.put]
  by_cases hsame : field = table
  · rw [if_pos (congrArg FieldTable.number hsame), if_pos (congrArg FieldTable.name hsame)]
  · rw [if_neg fun hnumber => hsame (htype.numbers.eq hfield htable hnumber),
      if_neg fun hname => hsame (htype.names.eq hfield htable hname), h.stored field hfield]

/-- A call that does something to a message does the same to the map. -/
theorem exists_call_of_does (h : message.Represents bindings) (htype : message.type.IsRegular)
    {changed : Message} {call : Call} (hdoes : message.Does call changed) :
    ∃ bound, bindings.call message.type call = some bound ∧
      ∀ field ∈ message.type.fields, changed.stored? field.number = bound field.name := by
  induction hdoes with
  | set hfound hfits =>
    refine ⟨_, ?_, fun field hfield =>
      h.stored?_assign htype (MessageTable.mem_of_field? hfound).1 hfield _⟩
    rw [Bindings.call, Bindings.set, hfound]
    exact if_pos hfits
  | @push name value table hfound hrepeated haccepts =>
    obtain ⟨htable, rfl⟩ := MessageTable.mem_of_field? hfound
    refine ⟨bindings.put table.name
      (some (.list (bindings.items table.name ++ [table.content.coerce value]))), ?_, ?_⟩
    · rw [Bindings.call, Bindings.push, hfound]
      exact if_pos (by rw [hrepeated, haccepts]; rfl)
    · intro field hfield
      have hitems : message.itemsAt table.number = bindings.items table.name := by
        unfold itemsAt Bindings.items
        exact h.stored table htable ▸ rfl
      rw [stored?_store, hitems]
      exact h.eq_put htype htable hfield _
  | setEnumByName hfound hcontent hnumber _ ih =>
    obtain ⟨bound, hcall, hstored⟩ := ih
    refine ⟨bound, ?_, hstored⟩
    rw [Bindings.call, Bindings.setEnumByName, hfound, Option.bind_some]
    simp only [hcontent, hnumber, Option.bind_some]
    exact hcall
  | @clear name table hfound =>
    obtain ⟨htable, rfl⟩ := MessageTable.mem_of_field? hfound
    refine ⟨bindings.put table.name none, ?_, fun field hfield => ?_⟩
    · rw [Bindings.call, hfound]
      rfl
    · rw [h.ordered.stored?_drop]
      exact h.eq_put htype htable hfield none

end Message.Represents

/-- A call that does something to the map does something to the message. -/
theorem Bindings.exists_does_of_call {message : Message} {bindings bound : Bindings} {call : Call}
    (h : bindings.call message.type call = some bound) : ∃ changed, message.Does call changed := by
  have hset : ∀ {field value bound}, bindings.set message.type field value = some bound →
      ∃ changed, message.Does (.set field value) changed := by
    intro field value bound h
    obtain ⟨table, hfound, h⟩ := Option.bind_eq_some_iff.mp h
    simp only at h
    split at h
    · next hfits => exact ⟨_, .set hfound hfits⟩
    · cases h
  cases call with
  | set field value => exact hset h
  | push field value =>
    obtain ⟨table, hfound, h⟩ := Option.bind_eq_some_iff.mp h
    simp only at h
    split at h
    · next haccepts =>
      obtain ⟨hrepeated, haccepts⟩ := Bool.and_eq_true_iff.mp haccepts
      exact ⟨_, .push hfound hrepeated haccepts⟩
    · cases h
  | setEnumByName field valueName =>
    obtain ⟨table, hfound, h⟩ := Option.bind_eq_some_iff.mp h
    split at h
    · next enum hcontent =>
      obtain ⟨number, hnumber, h⟩ := Option.bind_eq_some_iff.mp h
      obtain ⟨changed, hdoes⟩ := hset h
      exact ⟨changed, .setEnumByName hfound hcontent hnumber hdoes⟩
    · cases h
  | clear field =>
    obtain ⟨table, hfound, -⟩ := Option.map_eq_some_iff.mp h
    exact ⟨_, .clear hfound⟩

namespace Message.Represents

variable {message : Message} {bindings : Bindings}

/-- A call succeeds on a message when it does on the map. -/
theorem isOk_call (h : message.Represents bindings) (htype : message.type.IsRegular)
    (call : Call) : (message.call call).isOk = (bindings.call message.type call).isSome := by
  cases hcall : message.call call with
  | ok changed =>
    obtain ⟨bound, hbound, -⟩ := h.exists_call_of_does htype (call_eq_ok.mp hcall)
    rw [hbound]
    rfl
  | error failure =>
    cases hbound : bindings.call message.type call with
    | none => rfl
    | some bound =>
      obtain ⟨changed, hdoes⟩ := Bindings.exists_does_of_call hbound
      rw [call_eq_ok.mpr hdoes] at hcall
      cases hcall

/-- After a call a message represents the map after it. -/
theorem after (h : message.Represents bindings) (htype : message.type.IsRegular) (call : Call) :
    (message.after call).Represents (bindings.after message.type call) := by
  have hok := h.isOk_call htype call
  unfold Message.after Bindings.after
  cases hcall : message.call call with
  | ok changed =>
    have hdoes := call_eq_ok.mp hcall
    obtain ⟨bound, hbound, hstored⟩ := h.exists_call_of_does htype hdoes
    rw [hbound]
    refine ⟨hdoes.isOrdered h.ordered, h.keepsOneofs.does h.ordered htype.numbers hdoes, ?_⟩
    rw [hdoes.type_eq]
    exact hstored
  | error failure =>
    rw [hcall] at hok
    have hnone : bindings.call message.type call = none :=
      Option.isNone_iff_eq_none.mp (Option.isSome_eq_false_iff.mp hok.symm)
    rw [hnone]
    exact h

/-- So it does after several calls. -/
theorem run (h : message.Represents bindings) (htype : message.type.IsRegular)
    (calls : List Call) : (message.run calls).Represents (bindings.run message.type calls) := by
  induction calls generalizing message bindings with
  | nil => exact h
  | cons call calls ih =>
    have hafter := ih (h.after htype call) (by rw [type_after]; exact htype)
    rw [type_after] at hafter
    exact hafter

end Message.Represents

/-- Setting a field fails when there is none of this name, or when the value does not
fit. -/
theorem Bindings.set_eq_none {type : MessageTable} (htype : type.NamesFieldsOnce)
    (bindings : Bindings) {field : String} {value : Value} :
    bindings.set type field value = none ↔
      ∀ table ∈ type.fields, table.name = field →
        table.fits (table.content.coerce value) = false := by
  unfold set
  rw [Option.bind_eq_none_iff]
  constructor
  · rintro h table htable rfl
    simpa using h table (htype.field?_eq_some htable)
  · intro h table hfound
    obtain ⟨htable, hname⟩ := MessageTable.mem_of_field? hfound
    simpa using h table htable hname

/-- A message shows the map that its calls make, and calls succeed on it as they do on
the map. -/
theorem Message.shows_run {type : MessageTable} (htype : type.IsRegular) (calls : List Call) :
    ((empty type).run calls).Shows (Bindings.empty.run type calls) ∧
      (∀ call, (((empty type).run calls).call call).isOk =
        ((Bindings.empty.run type calls).call type call).isSome) ∧
      ∀ field value, (((empty type).run calls).set field value).isOk = false ↔
        ∀ table ∈ type.fields, table.name = field →
          table.fits (table.content.coerce value) = false := by
  have hrun := (Represents.empty type).run htype calls
  have hsame : ((empty type).run calls).type = type := type_run _ calls
  have hregular : ((empty type).run calls).type.IsRegular := by rwa [hsame]
  have hcalls : ∀ call, (((empty type).run calls).call call).isOk =
      ((Bindings.empty.run type calls).call type call).isSome := by
    intro call
    rw [hrun.isOk_call hregular call, hsame]
    rfl
  refine ⟨hrun.shows hregular, hcalls, fun field value => ?_⟩
  have hset : (((empty type).run calls).set field value).isOk =
      ((Bindings.empty.run type calls).set type field value).isSome := hcalls (.set field value)
  rw [hset, Option.isSome_eq_false_iff, Option.isNone_iff_eq_none]
  exact Bindings.set_eq_none htype.names _

/-- A member of a oneof takes the place of another one, a number is taken for an enum
value, and one call fails. -/
theorem Message.shows_run_person :
    let color : EnumTable :=
      ⟨"demo.Color", "Color", "demo", "demo.proto", [⟨"RED", 0⟩, ⟨"BLUE", 2⟩]⟩
    let type : MessageTable :=
      { fullName := "demo.Person", name := "Person", package := "demo", file := "demo.proto"
        fields := [
          { name := "tags", number := 2, content := .scalar .string, presence := .repeated
            default := none, oneof := none, jsonName := none },
          { name := "phone", number := 5, content := .scalar .string, presence := .optional
            default := none, oneof := some 0, jsonName := none },
          { name := "email", number := 4, content := .scalar .string, presence := .optional
            default := none, oneof := some 0, jsonName := none },
          { name := "color", number := 3, content := .enum color, presence := .implicit
            default := none, oneof := none, jsonName := none }]
        oneofs := ["contact"], isMapEntry := false }
    let calls : List Call := [
      .set "email" (.atom (.text "a")), .set "phone" (.atom (.text "1")),
      .push "tags" (.atom (.text "x")), .set "color" (.atom (.int32 2)),
      .set "tags" (.atom (.text "y"))]
    ((empty type).run calls).fields.map (fun entry => entry.1.name) = ["tags", "color", "phone"] ∧
      ((empty type).run calls).whichOneof "contact" = some "phone" ∧
      ((empty type).run calls).Shows (Bindings.empty.run type calls) ∧
      (∀ call, (((empty type).run calls).call call).isOk =
        ((Bindings.empty.run type calls).call type call).isSome) ∧
      ∀ field value, (((empty type).run calls).set field value).isOk = false ↔
        ∀ table ∈ type.fields, table.name = field →
          table.fits (table.content.coerce value) = false := by
  intro color type calls
  have htype : type.IsRegular :=
    { names := by decide +kernel
      numbers := by decide +kernel
      oneofs := by decide +kernel
      members := by decide +kernel }
  exact ⟨by decide +kernel, by decide +kernel, shows_run htype calls⟩

end ProtoSchema
