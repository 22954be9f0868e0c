import ProtoSchema.Proofs.Source.Records
import ProtoSchema.Proofs.Table.Oneofs
import ProtoSchema.Proofs.Table.Origin

/-!
# Tables and records

The table of a message and what is rendered for it are made from the same descriptor in
two ways.  Both go by the oneofs that count, so the choices of a message are those of its
table, with the same members (`RenderedMessage.forall₂_choices`), and the fields that hold
the choices stand behind the others in the same order (`RenderedMessage.forall₂_holders`).

The two differ in a field that names a oneof that its message does not declare.  In the
table the field belongs to no oneof.  A record has only the fields that name none
(`TabledMessage.plainFields`), so such a field is rendered nowhere.  A record has all fields
of the table that belong to no oneof exactly when its message declares all oneofs that its
fields name (`TabledMessage.plainFields_eq_iff`).

`FileDescriptor.shows_of_generate` says so for all messages of a file at once.  Map entries
inside a message are left out, for nothing is rendered for them.
-/

namespace ProtoSchema

open Checked

/-! ## Messages with their tables -/

/-- A message in its place, and its table. -/
structure TabledMessage where
  /-- The message. -/
  found : SurroundedMessage
  /-- The table. -/
  table : MessageTable

/-- A oneof of a message, by its place in the table. -/
structure TabledOneof where
  /-- The message. -/
  owner : TabledMessage
  /-- The place among the oneofs of the table. -/
  index : Nat

/-- The members of a oneof, in order. -/
def TabledOneof.members (oneof : TabledOneof) : List FieldTable :=
  oneof.owner.table.fields.filter fun field => field.oneof == some oneof.index

namespace TabledMessage

/-- The oneofs of a message, in the order of its table. -/
def oneofs (message : TabledMessage) : List TabledOneof :=
  (List.range message.table.oneofs.length).map (TabledOneof.mk message)

/-- The fields with their tables. -/
def fieldPairs (message : TabledMessage) : List (FieldDescriptor × FieldTable) :=
  message.found.message.fields.zip message.table.fields

/-- The fields that name no oneof, in order. -/
def plainFields (message : TabledMessage) : List FieldTable :=
  (message.fieldPairs.filter fun pair => pair.1.realOneof.isNone).map Prod.snd

/-- Whether the fields of a message are those of its table, one by one. -/
def IsNumbered (message : TabledMessage) : Prop :=
  List.Forall₂ (FieldDescriptor.IsNumbered message.found.message) message.found.message.fields
    message.table.fields

variable {message : TabledMessage}

theorem IsNumbered.of_mem_fieldPairs (h : message.IsNumbered)
    {pair : FieldDescriptor × FieldTable} (hpair : pair ∈ message.fieldPairs) :
    pair.1.IsNumbered message.found.message pair.2 :=
  (List.forall₂_iff_zip.mp h).2 hpair

theorem IsNumbered.map_fst_fieldPairs (h : message.IsNumbered) :
    message.fieldPairs.map Prod.fst = message.found.message.fields :=
  List.map_fst_zip (Nat.le_of_eq h.length_eq)

theorem IsNumbered.map_snd_fieldPairs (h : message.IsNumbered) :
    message.fieldPairs.map Prod.snd = message.table.fields :=
  List.map_snd_zip (Nat.le_of_eq h.length_eq.symm)

/-- A field belongs to no oneof when it names none that is declared. -/
theorem IsNumbered.isNone_oneof_iff (h : message.IsNumbered)
    {pair : FieldDescriptor × FieldTable} (hpair : pair ∈ message.fieldPairs) :
    pair.2.oneof.isNone = true ↔ ∀ position, pair.1.realOneof = some position →
      message.found.message.oneofs.length ≤ position := by
  rw [Option.isNone_iff_eq_none]
  exact (h.of_mem_fieldPairs hpair).oneof_eq_none_iff

/-- The fields that belong to no oneof, with their descriptors. -/
theorem IsNumbered.filter_isNone_eq (h : message.IsNumbered) :
    message.table.fields.filter (fun field => field.oneof.isNone) =
      (message.fieldPairs.filter fun pair => pair.2.oneof.isNone).map Prod.snd := by
  rw [← h.map_snd_fieldPairs, List.filter_map]
  rfl

/-- The fields that name no oneof are some of those that belong to none. -/
theorem IsNumbered.filter_pairs_eq (h : message.IsNumbered) :
    (message.fieldPairs.filter fun pair => pair.1.realOneof.isNone) =
      (message.fieldPairs.filter fun pair => pair.2.oneof.isNone).filter
        fun pair => pair.1.realOneof.isNone := by
  rw [List.filter_filter]
  refine List.filter_congr fun pair hpair => ?_
  rw [Bool.eq_iff_iff, Bool.and_eq_true, h.isNone_oneof_iff hpair]
  refine (and_iff_left_of_imp fun hisNone position hposition => ?_).symm
  rw [hposition] at hisNone
  cases hisNone

theorem plainFields_sublist (h : message.IsNumbered) :
    message.plainFields.Sublist
      (message.table.fields.filter fun field => field.oneof.isNone) := by
  rw [plainFields, h.filter_pairs_eq, h.filter_isNone_eq]
  exact List.filter_sublist.map Prod.snd

/-- The fields that name no oneof are those that belong to none, when every oneof that is
named is declared, and then only. -/
theorem plainFields_eq_iff (h : message.IsNumbered) :
    message.plainFields = message.table.fields.filter (fun field => field.oneof.isNone) ↔
      message.found.message.DeclaresOneofs := by
  rw [plainFields, h.filter_pairs_eq, h.filter_isNone_eq]
  constructor
  · -- Both lists have one length, so nothing is left out.
    intro heq field hfield position hposition
    have hlength := congrArg List.length heq
    rw [List.length_map, List.length_map, List.length_filter_eq_length_iff] at hlength
    by_contra hlt
    rw [← h.map_fst_fieldPairs] at hfield
    obtain ⟨pair, hpair, rfl⟩ := List.mem_map.mp hfield
    have hisNone : pair.2.oneof.isNone = true := by
      refine (h.isNone_oneof_iff hpair).mpr fun other hother => ?_
      rw [hposition] at hother
      cases hother
      exact Nat.le_of_not_lt hlt
    have hnames := hlength pair (List.mem_filter.mpr ⟨hpair, hisNone⟩)
    rw [hposition] at hnames
    cases hnames
  · intro hdeclares
    refine congrArg _ (List.filter_eq_self.mpr fun pair hpair => ?_)
    obtain ⟨hpair, hisNone⟩ := List.mem_filter.mp hpair
    have hmem : pair.1 ∈ message.found.message.fields := by
      rw [← h.map_fst_fieldPairs]
      exact List.mem_map_of_mem hpair
    refine Option.isNone_iff_eq_none.mpr (Option.eq_none_iff_forall_ne_some.mpr ?_)
    intro position hposition
    exact Nat.not_le_of_lt (hdeclares pair.1 hmem position hposition)
      ((h.isNone_oneof_iff hpair).mp hisNone position hposition)

end TabledMessage

/-! ## What is rendered -/

/-- Whether a field of a record is that of a table. -/
structure RecordField.Shows (field : RecordField) (table : FieldTable) : Prop where
  name : field.name.spelling = Naming.fieldName table.name
  number : field.number.map (fun number => number.toInt.toNat) = some table.number

/-- Whether a field of a record holds the choice for a oneof of a message. -/
structure RecordField.HoldsOneof (message : String) (field : RecordField) (oneof : String) :
    Prop where
  name : field.name.spelling = Naming.fieldName oneof
  number : field.number = none
  /-- It need not hold any, and the choice is in the module of the message. -/
  type : ∃ inside choice, field.type = .optional (.path (.ofIdents [inside, choice])) ∧
    inside.spelling = Naming.fieldName message ∧ choice.spelling = Naming.variantName oneof

/-- Whether a variant of a choice is the field of a table. -/
def ChoiceVariant.Shows (variant : ChoiceVariant) (table : FieldTable) : Prop :=
  variant.name.spelling = Naming.variantName table.name

/-- Whether a record is that of a message: it has a field for each field of the message that
names no oneof, and then one for each oneof. -/
structure Placed.ShowsMessage (record : Placed RecordItem) (message : TabledMessage) : Prop where
  around : record.around = message.found.place.modules
  name : record.item.name.spelling = Naming.typeName message.found.name
  fullName : record.item.fullName = message.table.fullName
  fields : ∃ plain holders, record.item.fields = plain ++ holders ∧
    List.Forall₂ RecordField.Shows plain message.plainFields ∧
    List.Forall₂ (RecordField.HoldsOneof message.found.name) holders message.table.oneofs

/-- Whether a choice is that of a oneof: it has a variant for each member. -/
structure Placed.ShowsOneof (choice : Placed ChoiceItem) (oneof : TabledOneof) : Prop where
  around : choice.around = oneof.owner.found.inside.modules
  name : ∃ name, oneof.owner.table.oneofs[oneof.index]? = some name ∧
    choice.item.name.spelling = Naming.variantName name
  variants : List.Forall₂ ChoiceVariant.Shows choice.item.variants oneof.members

/-- The choice that an item is. -/
def Item.ownChoices : Item → List ChoiceItem
  | .choice item => [item]
  | _ => []

/-- The choices of a file. -/
def RenderedFile.choices (file : RenderedFile) : List (Placed ChoiceItem) :=
  Item.collectAll Item.ownChoices [file.module] file.items

/-! ## Messages -/

namespace NamedMessage.HasTable

variable {scope : Scope} {file package : String} {isProto3 : Bool} {found : SurroundedMessage}
  {table : MessageTable}

theorem isNumbered (h : found.named.HasTable scope file package isProto3 table) :
    TabledMessage.IsNumbered ⟨found, table⟩ := by
  obtain ⟨outer, name, -, htable⟩ := h
  exact htable.isNumbered

theorem namesOneofs (h : found.named.HasTable scope file package isProto3 table) :
    found.message.NamesOneofs table.oneofs := by
  obtain ⟨outer, name, -, htable⟩ := h
  exact MessageDescriptor.namesOneofs_of_oneofNames htable.oneofs

end NamedMessage.HasTable

namespace RenderedMessage

variable {scope : Scope} {file : String} {isProto3 : Bool} {depth : Nat} {place : SchemaPlace}
  {message : MessageDescriptor} {rendered : RenderedMessage} {table : MessageTable}

/-- The fields of a message that name no oneof. -/
theorem forall₂_plain (h : message.Renders scope file isProto3 depth place.outer rendered)
    (htable : TabledMessage.IsNumbered ⟨⟨place, rendered.ownName, message⟩, table⟩) :
    List.Forall₂ RecordField.Shows rendered.fields
      (TabledMessage.plainFields ⟨⟨place, rendered.ownName, message⟩, table⟩) := by
  have hfields := h.fields
  rw [MessageDescriptor.recordFields, ← htable.map_fst_fieldPairs, List.filter_map] at hfields
  have hall := List.forall₂_map_left_iff.mp (mapM_eq_ok.mp hfields)
  rw [TabledMessage.plainFields, List.forall₂_map_right_iff]
  refine ((List.forall₂_and_left _ _).mpr
    ⟨fun _ hpair => List.mem_of_mem_filter hpair, hall⟩).flip.imp fun field pair hpair => ?_
  obtain ⟨hpair, hfield⟩ := hpair
  have hnumbered := htable.of_mem_fieldPairs hpair
  have hrenders := MessageDescriptor.rendersField_of_recordField hfield
  obtain ⟨n, hn, htableNumber⟩ := hnumbered.number
  constructor
  · rw [Ident.spelling_of_ofText? hrenders.name, hnumbered.name]
    rfl
  · rw [hrenders.number, hn, htableNumber]
    rfl

/-- The fields that hold the choices of a message. -/
theorem forall₂_holders (h : message.Renders scope file isProto3 depth place.outer rendered)
    (honeofs : message.NamesOneofs table.oneofs) :
    List.Forall₂ (RecordField.HoldsOneof rendered.ownName) (rendered.choices.map Prod.snd)
      table.oneofs := by
  rw [List.forall₂_map_left_iff]
  refine (forall₂_of_common (mapM_eq_ok.mp h.choices) honeofs).imp fun found oneof hfound => ?_
  obtain ⟨position, hchoice, hname⟩ := hfound
  have hrenders := MessageDescriptor.rendersChoice_of_choice hchoice
  have hchoiceName := hrenders.name
  have hholderName := hrenders.holderName
  rw [hname] at hchoiceName hholderName
  exact
    { name := Ident.spelling_of_ofText? hholderName
      number := hrenders.number
      type := ⟨rendered.inside, found.1.name, hrenders.type, Ident.spelling_of_ofText? h.inside,
        Ident.spelling_of_ofText? hchoiceName⟩ }

/-- The variants of a choice are the members of the oneof. -/
theorem forall₂_variants_members {fullName : String} {position index : Nat}
    (htable : TabledMessage.IsNumbered ⟨⟨place, rendered.ownName, message⟩, table⟩)
    (hindex : message.realOneofs[index]? = some position) {variants : List ChoiceVariant}
    (h : (message.fields.filter fun field => field.realOneof == some position).mapM
      (MessageDescriptor.choiceVariant scope file depth fullName) = .ok variants) :
    List.Forall₂ ChoiceVariant.Shows variants
      (TabledOneof.members ⟨⟨⟨place, rendered.ownName, message⟩, table⟩, index⟩) := by
  have hmembers : List.Forall₂ (FieldDescriptor.IsNumbered message)
      (message.fields.filter fun field => field.realOneof == some position)
      (table.fields.filter fun field => field.oneof == some index) := by
    refine List.rel_filter (fun field found hnumbered => ?_) htable
    show (field.realOneof == some position) = true ↔ (found.oneof == some index) = true
    rw [beq_iff_eq, beq_iff_eq, hnumbered.oneof_eq_some_iff]
    constructor
    · intro hposition
      exact ⟨position, hposition, hindex⟩
    · rintro ⟨other, hother, hindex'⟩
      rw [hindex] at hindex'
      cases hindex'
      exact hother
  refine (forall₂_of_common (mapM_eq_ok.mp h) hmembers).imp fun variant found hfound => ?_
  obtain ⟨field, hvariant, hnumbered⟩ := hfound
  have hname := (MessageDescriptor.rendersVariant_of_choiceVariant hvariant).name
  rw [hnumbered.name] at hname
  exact Ident.spelling_of_ofText? hname

/-- The choices of a message are those of its table.  They stand one module deeper. -/
theorem forall₂_showsOneof
    (h : message.Renders scope file isProto3 place.modules.length place.outer rendered) :
    List.Forall₂
      (fun choice index => ∀ table,
        TabledMessage.IsNumbered ⟨⟨place, rendered.ownName, message⟩, table⟩ →
        message.NamesOneofs table.oneofs →
        Placed.ShowsOneof choice ⟨⟨⟨place, rendered.ownName, message⟩, table⟩, index⟩)
      ((rendered.choices.map Prod.fst).map
        (Placed.mk (place.modules ++ [rendered.inside.spelling])))
      (List.range message.realOneofs.length) := by
  rw [List.forall₂_map_left_iff, List.forall₂_map_left_iff]
  refine (forall₂_of_common (mapM_eq_ok.mp h.choices)
    (forall₂_range_length message.realOneofs)).imp fun found index hfound table htable hnames => ?_
  obtain ⟨position, hchoice, hindex⟩ := hfound
  have hrenders := MessageDescriptor.rendersChoice_of_choice hchoice
  have hname := hrenders.name
  obtain ⟨name, hnameAt, honeof⟩ := hnames.exists_name hindex
  rw [honeof] at hname
  exact ⟨h.modules_inside place, ⟨name, hnameAt, Ident.spelling_of_ofText? hname⟩,
    forall₂_variants_members htable hindex hrenders.variants⟩

/-- The record of a message is that of its table. -/
theorem showsMessage
    (h : message.Renders scope file isProto3 place.modules.length place.outer rendered)
    (htable : TabledMessage.IsNumbered ⟨⟨place, rendered.ownName, message⟩, table⟩)
    (honeofs : message.NamesOneofs table.oneofs)
    (hfullName : table.fullName = FullName.bare (FullName.inside place.outer rendered.ownName)) :
    Placed.ShowsMessage ⟨place.modules, rendered.record place.outer⟩
      ⟨⟨place, rendered.ownName, message⟩, table⟩ where
  around := rfl
  name := Ident.spelling_of_ofText? h.name
  fullName := hfullName.symm
  fields := ⟨_, _, rfl, forall₂_plain h htable, forall₂_holders h honeofs⟩

end RenderedMessage

/-! ## Files -/

/-- Whether the table of a message is one of those of its file. -/
structure TabledMessage.IsBuilt (scope : Scope) (file : FileDescriptor) (tables : FileTable)
    (message : TabledMessage) : Prop where
  mem : message.table ∈ tables.messages
  hasTable : message.found.named.HasTable scope tables.file file.packageName file.isProto3
    message.table

/-- Whether the records and the choices that are rendered for a file are those of some
messages, one by one. -/
structure RenderedFile.Shows (file : RenderedFile) (messages : List TabledMessage) : Prop where
  records : List.Forall₂ Placed.ShowsMessage file.records messages
  choices : List.Forall₂ Placed.ShowsOneof file.choices (messages.flatMap TabledMessage.oneofs)

/-- Whether the oneofs of the fields of a message are there, and which of the fields that
belong to none are rendered. -/
structure TabledMessage.PartitionsFields (message : TabledMessage) : Prop where
  /-- A member of a oneof is among the members of one that is rendered. -/
  oneof_lt : ∀ field ∈ message.table.fields, ∀ index, field.oneof = some index →
    index < message.table.oneofs.length
  /-- A field that names no oneof belongs to none. -/
  plain_sublist : message.plainFields.Sublist
    (message.table.fields.filter fun field => field.oneof.isNone)
  /-- The others are fields that name a oneof that is not declared. -/
  plain_eq_iff : message.plainFields =
    message.table.fields.filter (fun field => field.oneof.isNone) ↔
      message.found.message.DeclaresOneofs

section

variable {scope : Scope} {file : FileDescriptor} {tables : FileTable}

theorem TabledMessage.IsBuilt.partitionsFields {message : TabledMessage}
    (h : message.IsBuilt scope file tables) : message.PartitionsFields where
  oneof_lt := by
    intro field hfield index hindex
    obtain ⟨descriptor, -, hnumbered⟩ := exists_of_forall₂_right h.hasTable.isNumbered hfield
    obtain ⟨position, -, hposition⟩ := hnumbered.oneof_eq_some_iff.mp hindex
    rw [← h.hasTable.namesOneofs.length_eq]
    exact (List.getElem?_eq_some_iff.mp hposition).1
  plain_sublist := plainFields_sublist h.hasTable.isNumbered
  plain_eq_iff := plainFields_eq_iff h.hasTable.isNumbered

/-- The record of a message is that of its table, whatever table that is. -/
theorem RenderedMessage.collectsOwn_ownRecords (tables : FileTable) (name : String) :
    CollectsOwn scope name file.isProto3 Item.ownRecords
      (fun record found => ∀ table, TabledMessage.IsBuilt scope file tables ⟨found, table⟩ →
        record.ShowsMessage ⟨found, table⟩)
      fun found => [found] := by
  intro place message rendered hrenders
  rw [collectOwn_ownRecords]
  refine .cons (fun table hbuilt => ?_) .nil
  exact showsMessage hrenders hbuilt.hasTable.isNumbered hbuilt.hasTable.namesOneofs
    hbuilt.hasTable.fullName

/-- The choices of a message are those of its table, whatever table that is. -/
theorem RenderedMessage.collectsOwn_ownChoices (tables : FileTable) (name : String) :
    CollectsOwn scope name file.isProto3 Item.ownChoices
      (fun choice oneof => ∀ table, TabledMessage.IsBuilt scope file tables ⟨oneof.1, table⟩ →
        choice.ShowsOneof ⟨⟨oneof.1, table⟩, oneof.2⟩)
      fun found => (List.range found.message.realOneofs.length).map (Prod.mk found) := by
  intro place message rendered hrenders
  have hchoices : (rendered.choices.flatMap fun found => Item.ownChoices (.choice found.1)) =
      rendered.choices.map Prod.fst :=
    List.map_eq_flatMap.symm
  rw [collectOwn_of_enumeration _ _ _ _ fun _ => rfl, hchoices, List.forall₂_map_right_iff]
  exact (forall₂_showsOneof hrenders).imp fun choice index hshows table hbuilt =>
    hshows table hbuilt.hasTable.isNumbered hbuilt.hasTable.namesOneofs

end

/-- The oneofs of the table of a message are those that count. -/
theorem TabledMessage.forall₂_oneofs {scope : Scope} {file : FileDescriptor}
    {tables : FileTable} {found : SurroundedMessage} {message : TabledMessage}
    (hfound : message.found = found) (hbuilt : message.IsBuilt scope file tables) :
    List.Forall₂
      (fun (place : SurroundedMessage × Nat) (oneof : TabledOneof) =>
        place = (oneof.owner.found, oneof.index) ∧ oneof.owner.IsBuilt scope file tables)
      ((List.range found.message.realOneofs.length).map (Prod.mk found)) message.oneofs := by
  subst hfound
  rw [oneofs, hbuilt.hasTable.namesOneofs.length_eq, List.forall₂_map_left_iff,
    List.forall₂_map_right_iff, List.forall₂_same]
  exact fun index _ => ⟨rfl, hbuilt⟩

/-- What is generated for a file are its messages as they are in its tables.  Every message
that is no map entry and not inside of one has its record, with the fields of its table that
name no oneof and then one field for each oneof of the table, and a choice for each oneof,
with its members, all in the order of the table.  There are no other records and choices. -/
theorem FileDescriptor.shows_of_generate {scope : Scope} {style : SourceStyle}
    {file : FileDescriptor} {generated : GeneratedFile}
    (h : file.generate scope style = .ok generated) :
    ∃ rendered messages, style.Writes generated rendered ∧
      messages.map TabledMessage.found = file.surrounded rendered.module ∧
      (∀ message ∈ messages, message.IsBuilt scope file generated.tables ∧
        message.PartitionsFields) ∧
      rendered.Shows messages := by
  obtain ⟨rendered, hrendered, hwrites⟩ := file.exists_rendered_of_generate h
  have htables := file.tables_of_generate h
  have hrenders := renders_of_rendered hrendered
  have htabled : ∀ found ∈ file.surrounded rendered.module, ∃ message : TabledMessage,
      message.found = found ∧ message.IsBuilt scope file generated.tables := by
    intro found hfound
    have hnamed := List.mem_map_of_mem (f := SurroundedMessage.named) hfound
    rw [file.map_named_surrounded] at hnamed
    obtain ⟨table, htable, hbuilt⟩ :=
      file.exists_hasTable_of_mem_named htables (mem_named_of_mem_withoutEntries hnamed)
    exact ⟨⟨found, table⟩, rfl, htable, hbuilt⟩
  obtain ⟨messages, hmessages⟩ := exists_forall₂_of_forall htabled
  refine ⟨rendered, messages, hwrites, ?_, ?_, ?_, ?_⟩
  · rw [← List.forall₂_eq_eq_eq, List.forall₂_map_left_iff]
    exact hmessages.flip.imp fun _ _ hmessage => hmessage.1
  · intro message hmessage
    obtain ⟨_, -, -, hbuilt⟩ := exists_of_forall₂_right hmessages hmessage
    exact ⟨hbuilt, hbuilt.partitionsFields⟩
  · have hrecords := forall₂_collectAll_surrounded (fun _ => rfl)
      (RenderedMessage.collectsOwn_ownRecords generated.tables _) rendered.module hrenders.items
    rw [List.flatMap_singleton'] at hrecords
    refine (forall₂_of_common hrecords.flip hmessages).imp fun record message hmessage => ?_
    obtain ⟨found, hshows, rfl, hbuilt⟩ := hmessage
    exact hshows message.table hbuilt
  · have hchoices := forall₂_collectAll_surrounded (fun _ => rfl)
      (RenderedMessage.collectsOwn_ownChoices generated.tables _) rendered.module hrenders.items
    have honeofs := List.rel_flatMap hmessages fun found message hmessage =>
      TabledMessage.forall₂_oneofs hmessage.1 hmessage.2
    refine (forall₂_of_common hchoices.flip honeofs).imp fun choice oneof honeof => ?_
    obtain ⟨_, hshows, rfl, hbuilt⟩ := honeof
    exact hshows oneof.owner.table hbuilt

/-- A message with an optional field that has a oneof of its own, members of two oneofs in
turns, a map, and a message inside. -/
theorem FileDescriptor.shows_of_generate_turns :
    let file : FileDescriptor :=
      { name := some "s.proto", dialect := some "proto3"
        messages := [{
          name := some "M"
          fields := [
            { name := some "own", number := some 1, type := some 9, oneofIndex := some 0
              proto3Optional := some true },
            { name := some "a", number := some 2, type := some 9, oneofIndex := some 2 },
            { name := some "b", number := some 3, type := some 5, oneofIndex := some 1 },
            { name := some "c", number := some 4, type := some 8, oneofIndex := some 2 },
            { name := some "map", number := some 5, label := some 3, type := some 11
              typeName := some ".M.MapEntry" }]
          nested := [
            { name := some "MapEntry"
              fields := [
                { name := some "key", number := some 1, type := some 9 },
                { name := some "value", number := some 2, type := some 9 }]
              options := some ⟨some true⟩ },
            { name := some "Inner" }]
          oneofs := [⟨some "_own"⟩, ⟨some "first"⟩, ⟨some "second"⟩] }] }
    ∃ generated rendered messages, file.generate (Scope.of ⟨[file]⟩ {}) .flat = .ok generated ∧
      SourceStyle.flat.Writes generated rendered ∧
      messages.map TabledMessage.found = file.surrounded rendered.module ∧
      (∀ message ∈ messages, message.IsBuilt (Scope.of ⟨[file]⟩ {}) file generated.tables ∧
        message.PartitionsFields) ∧
      rendered.Shows messages := by
  intro file
  obtain ⟨generated, h⟩ := exists_eq_ok_of_isOk
    (by decide +kernel : (file.generate (Scope.of ⟨[file]⟩ {}) .flat).isOk = true)
  obtain ⟨rendered, messages, hshows⟩ := shows_of_generate h
  exact ⟨generated, rendered, messages, h, hshows⟩

/-- A field that names a oneof which its message does not declare is in the table, and
nothing is rendered for it. -/
theorem FileDescriptor.exists_field_not_rendered :
    let file : FileDescriptor :=
      { name := some "s.proto"
        messages := [{
          name := some "M"
          fields := [
            { name := some "a", number := some 1, label := some 1, type := some 9
              oneofIndex := some 5 }] }] }
    ∃ generated rendered, file.generate (Scope.of ⟨[file]⟩ {}) .flat = .ok generated ∧
      SourceStyle.flat.Writes generated rendered ∧
      (generated.tables.messages.flatMap fun table =>
        table.fields.map fun field => (table.fullName, field.name, field.oneof)) =
          [("M", "a", none)] ∧
      (rendered.records.map fun record => (record.item.fullName, record.item.fields.length)) =
          [("M", 0)] ∧
      rendered.choices.length = 0 := by
  intro file
  obtain ⟨generated, h⟩ := exists_eq_ok_of_isOk
    (by decide +kernel : (file.generate (Scope.of ⟨[file]⟩ {}) .flat).isOk = true)
  obtain ⟨rendered, hrendered, hwrites⟩ := file.exists_rendered_of_generate h
  have htables := file.tables_of_generate h
  have htable : (file.tables (Scope.of ⟨[file]⟩ {})).toOption.map (fun tables =>
      tables.messages.flatMap fun table =>
        table.fields.map fun field => (table.fullName, field.name, field.oneof)) =
      some [("M", "a", none)] := by
    decide +kernel
  have hrecord : (file.rendered (Scope.of ⟨[file]⟩ {})).toOption.map (fun rendered =>
      (rendered.records.map fun record => (record.item.fullName, record.item.fields.length),
        rendered.choices.length)) =
      some ([("M", 0)], 0) := by
    decide +kernel
  rw [htables] at htable
  rw [hrendered] at hrecord
  obtain ⟨hrecords, hchoices⟩ := Prod.mk.inj (Option.some.inj hrecord)
  exact ⟨generated, rendered, h, hwrites, Option.some.inj htable, hrecords, hchoices⟩

end ProtoSchema
