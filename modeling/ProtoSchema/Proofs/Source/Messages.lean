import ProtoSchema.Proofs.Source.Places
import ProtoSchema.Proofs.Source.SchemaPlaces

/-!
# What is rendered for a message

A message is rendered as a record, and a module for what is declared inside of it.
`RenderedMessage` holds the parts of both, and `MessageDescriptor.Renders` says
where each part comes from.  `MessageDescriptor.exists_renders` takes apart what
was rendered.  `RendersField`, `RendersVariant` and `RendersChoice` say the same of a
field of the record, and of a choice.

What is collected from the items of a message is what is collected from the parts
(`RenderedMessage.collectAll_items`).  So what is collected from a message, or from a
file, belongs to the messages that are no map entries, one after the other in their
places (`MessageDescriptor.forall₂_collectAll`, `FileDescriptor.forall₂_collectAll`).
-/

namespace ProtoSchema

open Checked

/-- The parts of what is rendered for a message. -/
structure RenderedMessage where
  /-- The name of the message. -/
  ownName : String
  /-- The name of the record. -/
  name : Ident
  /-- The name of the module. -/
  inside : Ident
  /-- The fields that belong to no oneof. -/
  fields : List RecordField
  /-- The choices, with the fields that hold them. -/
  choices : List (ChoiceItem × RecordField)
  /-- The enums in the module. -/
  enums : List EnumItem
  /-- The items of each message in the module. -/
  messages : List (List Item)

namespace RenderedMessage

/-- The record. -/
def record (rendered : RenderedMessage) (outer : String) : RecordItem where
  name := rendered.name
  fullName := FullName.bare (FullName.inside outer rendered.ownName)
  fields := rendered.fields ++ rendered.choices.map Prod.snd

/-- What stands in the module. -/
def module (rendered : RenderedMessage) : List Item :=
  rendered.choices.map (fun (found, _) => .choice found) ++
    rendered.enums.map .enumeration ++ rendered.messages.flatten

/-- The record and the module. -/
def items (rendered : RenderedMessage) (outer : String) : List Item :=
  .record (rendered.record outer) :: Item.moduleOf rendered.inside rendered.module

end RenderedMessage

theorem Ident.check_eq_ok {text : String} {ident : Ident} :
    Ident.check text = .ok ident ↔ Ident.ofText? text = some ident := by
  unfold check
  cases Ident.ofText? text with
  | none => simp
  | some found => simp

namespace MessageDescriptor

/-! ## Fields and oneofs -/

/-- Where the parts of the field of a record come from. -/
structure RendersField (scope : Scope) (file : String) (isProto3 : Bool) (depth : Nat)
    (fullName : String) (message : MessageDescriptor) (field : FieldDescriptor)
    (rendered : RecordField) : Prop where
  name : Ident.ofText? (Naming.fieldName (field.name.getD "")) = some rendered.name
  number : rendered.number = some (field.number.getD 0)
  /-- A field of a map goes by the entry of the map. -/
  type : (∃ entry, message.mapEntry? (FullName.asOuter fullName) field = some entry ∧
      entry.mapType scope file depth = .ok rendered.type) ∨
    message.mapEntry? (FullName.asOuter fullName) field = none ∧
      field.sourceType scope file isProto3 depth fullName = .ok rendered.type

/-- Where the parts of a variant come from. -/
structure RendersVariant (scope : Scope) (file : String) (depth : Nat) (fullName : String)
    (member : FieldDescriptor) (rendered : ChoiceVariant) : Prop where
  name : Ident.ofText? (Naming.variantName (member.name.getD "")) = some rendered.name
  type : ∃ item, member.sourceItemType scope file depth = .ok item ∧
    rendered.type = member.held scope fullName item

/-- Where the parts of a choice and of the field that holds it come from. -/
structure RendersChoice (scope : Scope) (file : String) (depth : Nat) (fullName : String)
    (inside : Ident) (message : MessageDescriptor) (position : Nat) (choice : ChoiceItem)
    (holder : RecordField) : Prop where
  name : Ident.ofText? (Naming.variantName
    (((message.oneofs[position]?).bind OneofDescriptor.name).getD "")) = some choice.name
  variants : (message.fields.filter fun field => field.realOneof == some position).mapM
    (choiceVariant scope file (depth + 1) fullName) = .ok choice.variants
  holderName : Ident.ofText? (Naming.fieldName
    (((message.oneofs[position]?).bind OneofDescriptor.name).getD "")) = some holder.name
  number : holder.number = none
  type : holder.type = .optional (.path (.ofIdents [inside, choice.name]))

section

variable {scope : Scope} {file : String} {depth : Nat} {fullName : String}
  {message : MessageDescriptor}

theorem rendersField_of_recordField {isProto3 : Bool} {field : FieldDescriptor}
    {rendered : RecordField}
    (h : message.recordField scope file isProto3 depth fullName field = .ok rendered) :
    message.RendersField scope file isProto3 depth fullName field rendered := by
  obtain ⟨name, hname, h⟩ := bind_eq_ok.mp h
  have hname := Ident.check_eq_ok.mp hname
  cases hentry : message.mapEntry? (FullName.asOuter fullName) field with
  | some entry =>
    simp only [hentry] at h
    obtain ⟨type, htype, h⟩ := bind_eq_ok.mp h
    cases h
    exact ⟨hname, rfl, .inl ⟨entry, hentry, htype⟩⟩
  | none =>
    simp only [hentry] at h
    obtain ⟨type, htype, h⟩ := bind_eq_ok.mp h
    cases h
    exact ⟨hname, rfl, .inr ⟨hentry, htype⟩⟩

theorem rendersVariant_of_choiceVariant {member : FieldDescriptor} {rendered : ChoiceVariant}
    (h : choiceVariant scope file depth fullName member = .ok rendered) :
    RendersVariant scope file depth fullName member rendered := by
  obtain ⟨name, hname, h⟩ := bind_eq_ok.mp h
  obtain ⟨item, hitem, h⟩ := bind_eq_ok.mp h
  cases h
  exact ⟨Ident.check_eq_ok.mp hname, item, hitem, rfl⟩

theorem rendersChoice_of_choice {inside : Ident} {position : Nat}
    {rendered : ChoiceItem × RecordField}
    (h : message.choice scope file depth fullName inside position = .ok rendered) :
    message.RendersChoice scope file depth fullName inside position rendered.1 rendered.2 := by
  obtain ⟨name, hname, h⟩ := bind_eq_ok.mp h
  obtain ⟨holderName, hholder, h⟩ := bind_eq_ok.mp h
  obtain ⟨variants, hvariants, h⟩ := bind_eq_ok.mp h
  cases h
  exact ⟨Ident.check_eq_ok.mp hname, hvariants, Ident.check_eq_ok.mp hholder, rfl, rfl⟩

end

/-! ## Messages -/

/-- Where the parts of what is rendered for a message come from. -/
structure Renders (scope : Scope) (file : String) (isProto3 : Bool) (depth : Nat)
    (outer : String) (message : MessageDescriptor) (rendered : RenderedMessage) : Prop where
  ownName : message.name = some rendered.ownName
  name : Ident.ofText? (Naming.typeName rendered.ownName) = some rendered.name
  inside : Ident.ofText? (Naming.fieldName rendered.ownName) = some rendered.inside
  fields : message.recordFields scope file isProto3 depth
    (FullName.inside outer rendered.ownName) = .ok rendered.fields
  choices : message.choices scope file depth (FullName.inside outer rendered.ownName)
    rendered.inside = .ok rendered.choices
  enums : message.enums.mapM (EnumDescriptor.item file) = .ok rendered.enums
  /-- Map entries are left out. -/
  messages : (message.nested.filter fun inner => !inner.isMapEntry).mapM
    (items scope file isProto3 (depth + 1)
      (FullName.asOuter (FullName.inside outer rendered.ownName))) = .ok rendered.messages

section

variable {scope : Scope} {file : String} {isProto3 : Bool} {depth : Nat} {outer : String}

/-- The module of a message is that of the place inside it. -/
theorem Renders.modules_inside {message : MessageDescriptor} {rendered : RenderedMessage}
    (h : message.Renders scope file isProto3 depth outer rendered) (place : SchemaPlace) :
    place.modules ++ [rendered.inside.spelling] = (place.inside rendered.ownName).modules := by
  rw [Ident.spelling_of_ofText? h.inside, SchemaPlace.modules_inside]

/-- Messages side by side are rendered one after the other. -/
theorem itemsInside_eq (messages : List MessageDescriptor) :
    itemsInside scope file isProto3 depth outer messages =
      (messages.filter fun message => !message.isMapEntry).mapM
          (items scope file isProto3 depth outer) >>= fun parts => .ok parts.flatten := by
  induction messages with
  | nil => rfl
  | cons message messages ih =>
    rw [itemsInside, ih]
    by_cases hentry : message.isMapEntry = true
    · rw [if_pos hentry, List.filter_cons_of_neg (by simpa using hentry)]
      cases (messages.filter fun message => !message.isMapEntry).mapM
          (items scope file isProto3 depth outer) with
      | error e => rfl
      | ok parts => rfl
    · rw [if_neg hentry, List.filter_cons_of_pos (by simpa using hentry), List.mapM_cons]
      cases message.items scope file isProto3 depth outer with
      | error e => rfl
      | ok first =>
        cases (messages.filter fun message => !message.isMapEntry).mapM
            (items scope file isProto3 depth outer) with
        | error e => rfl
        | ok parts => rfl

/-- The items of a message that has a name. -/
theorem items_of_name_eq_some {message : MessageDescriptor} {ownName : String}
    (h : message.name = some ownName) :
    message.items scope file isProto3 depth outer =
      Ident.check (Naming.typeName ownName) >>= fun name =>
      Ident.check (Naming.fieldName ownName) >>= fun inside =>
      message.recordFields scope file isProto3 depth (FullName.inside outer ownName) >>=
        fun fields =>
      message.choices scope file depth (FullName.inside outer ownName) inside >>= fun choices =>
      message.enums.mapM (EnumDescriptor.item file) >>= fun enums =>
      itemsInside scope file isProto3 (depth + 1)
          (FullName.asOuter (FullName.inside outer ownName)) message.nested >>= fun inner =>
      .ok (.record {
            name
            fullName := FullName.bare (FullName.inside outer ownName)
            fields := fields ++ choices.map Prod.snd } ::
          Item.moduleOf inside (choices.map (fun (found, _) => .choice found) ++
            enums.map .enumeration ++ inner)) := by
  cases message
  cases h
  rfl

theorem items_of_name_eq_none {message : MessageDescriptor} (h : message.name = none) :
    message.items scope file isProto3 depth outer =
      .error (.descriptor (.unnamedMessage file)) := by
  cases message
  cases h
  rfl

theorem exists_renders {message : MessageDescriptor} {found : List Item}
    (h : message.items scope file isProto3 depth outer = .ok found) :
    ∃ rendered, message.Renders scope file isProto3 depth outer rendered ∧
      found = rendered.items outer := by
  cases hname : message.name with
  | none =>
    rw [items_of_name_eq_none hname] at h
    cases h
  | some ownName =>
    rw [items_of_name_eq_some hname] at h
    obtain ⟨name, hcheck, h⟩ := bind_eq_ok.mp h
    obtain ⟨inside, hinside, h⟩ := bind_eq_ok.mp h
    obtain ⟨fields, hfields, h⟩ := bind_eq_ok.mp h
    obtain ⟨choices, hchoices, h⟩ := bind_eq_ok.mp h
    obtain ⟨enums, henums, h⟩ := bind_eq_ok.mp h
    obtain ⟨inner, hinner, h⟩ := bind_eq_ok.mp h
    rw [itemsInside_eq] at hinner
    obtain ⟨messages, hmessages, hinner⟩ := bind_eq_ok.mp hinner
    cases hinner
    cases h
    exact ⟨⟨ownName, name, inside, fields, choices, enums, messages⟩,
      ⟨hname, Ident.check_eq_ok.mp hcheck, Ident.check_eq_ok.mp hinside, hfields, hchoices,
        henums, hmessages⟩, rfl⟩

end

end MessageDescriptor

/-! ## What is collected -/

namespace RenderedMessage

/-- What is collected for a message itself: what is in its record, and one module
deeper what is in its choices and its enums. -/
def collectOwn {α : Type} (own : Item → List α) (around : List String) (outer : String)
    (rendered : RenderedMessage) : List (Placed α) :=
  (own (.record (rendered.record outer))).map (Placed.mk around) ++
    ((rendered.choices.flatMap fun found => own (.choice found.1)) ++
      rendered.enums.flatMap fun enum => own (.enumeration enum)).map
        (Placed.mk (around ++ [rendered.inside.spelling]))

section

variable {α : Type} (own : Item → List α) (around : List String) (outer : String)
  (rendered : RenderedMessage)

/-- What is collected for a message comes before what is collected for the messages
inside it, which stand one module deeper. -/
theorem collectAll_items :
    Item.collectAll own around (rendered.items outer) =
      rendered.collectOwn own around outer ++
        rendered.messages.flatMap
          (Item.collectAll own (around ++ [rendered.inside.spelling])) := by
  rw [items, Item.collectAll, Item.collect_record, Item.collectAll_moduleOf, module,
    Item.collectAll_append, Item.collectAll_append, Item.collectAll_choices,
    Item.collectAll_enums, Item.collectAll_flatten, collectOwn, List.map_append,
    List.append_assoc, List.append_assoc, List.append_assoc]

/-- There may be nothing to collect from enums. -/
theorem collectOwn_of_enumeration (h : ∀ enum, own (.enumeration enum) = []) :
    rendered.collectOwn own around outer =
      (own (.record (rendered.record outer))).map (Placed.mk around) ++
        (rendered.choices.flatMap fun found => own (.choice found.1)).map
          (Placed.mk (around ++ [rendered.inside.spelling])) := by
  rw [collectOwn, List.flatMap_eq_nil_iff.mpr fun enum _ => h enum, List.append_nil]

end

/-- Of the records, that of the message itself. -/
theorem collectOwn_ownRecords (rendered : RenderedMessage) (around : List String)
    (outer : String) :
    rendered.collectOwn Item.ownRecords around outer = [⟨around, rendered.record outer⟩] := by
  have hchoices : (rendered.choices.flatMap fun found => Item.ownRecords (.choice found.1)) = [] :=
    List.flatMap_eq_nil_iff.mpr fun _ _ => rfl
  rw [collectOwn_of_enumeration _ _ _ _ fun _ => rfl, hchoices]
  rfl

/-- The record of a message comes before those of the messages inside it. -/
theorem collectAll_ownRecords (rendered : RenderedMessage) (outer : String)
    (around : List String) :
    Item.collectAll Item.ownRecords around (rendered.items outer) =
      ⟨around, rendered.record outer⟩ ::
        rendered.messages.flatMap
          (Item.collectAll Item.ownRecords (around ++ [rendered.inside.spelling])) := by
  rw [collectAll_items, collectOwn_ownRecords]
  rfl

/-- When a message can be written its record has a name that may be declared, and the
messages inside it can be written, too. -/
theorem areWritable_items (rendered : RenderedMessage) (outer : String)
    (h : Item.areWritable (rendered.items outer) = true) :
    rendered.name.mayBeDeclared = true ∧
      ∀ items ∈ rendered.messages, Item.areWritable items = true := by
  obtain ⟨hrecord, hmodule⟩ := Bool.and_eq_true_iff.mp h
  obtain ⟨-, hinside⟩ := Item.areWritable_moduleOf.mp hmodule
  rw [module, Item.areWritable_append, Bool.and_eq_true] at hinside
  exact ⟨(Bool.and_eq_true_iff.mp hrecord).1, Item.areWritable_flatten hinside.2⟩

end RenderedMessage

/-! ## Message by message -/

/-- Whether what is collected for each message itself is as expected of the message in
its place. -/
def RenderedMessage.CollectsOwn {α β : Type} (scope : Scope) (file : String) (isProto3 : Bool)
    (own : Item → List α) (R : Placed α → β → Prop) (expected : SurroundedMessage → List β) :
    Prop :=
  ∀ (place : SchemaPlace) (message : MessageDescriptor) (rendered : RenderedMessage),
    message.Renders scope file isProto3 place.modules.length place.outer rendered →
      List.Forall₂ R (rendered.collectOwn own place.modules place.outer)
        (expected ⟨place, rendered.ownName, message⟩)

section

variable {scope : Scope} {file : String} {α β : Type} {own : Item → List α}
  {R : Placed α → β → Prop}

/-- What is collected from all that is rendered for a message is as expected of the
message and those inside it. -/
theorem MessageDescriptor.forall₂_collectAll {isProto3 : Bool}
    {expected : SurroundedMessage → List β}
    (hown : RenderedMessage.CollectsOwn scope file isProto3 own R expected)
    (place : SchemaPlace) {message : MessageDescriptor} {found : List Item}
    (h : message.items scope file isProto3 place.modules.length place.outer = .ok found) :
    List.Forall₂ R (Item.collectAll own place.modules found)
      ((message.surrounded place).flatMap expected) := by
  induction message using nesting generalizing place found with
  | step message ih =>
    obtain ⟨rendered, hrenders, rfl⟩ := exists_renders h
    have hdeeper := hrenders.modules_inside place
    have hlength : place.modules.length + 1 = (place.inside rendered.ownName).modules.length := by
      rw [← hdeeper, List.length_append, List.length_singleton]
    rw [rendered.collectAll_items, surrounded_of_name_eq_some hrenders.ownName,
      List.flatMap_cons, List.flatMap_assoc, hdeeper]
    refine List.rel_append (hown place message rendered hrenders) ?_
    have hall := mapM_eq_ok.mp hrenders.messages
    rw [hlength, ← SchemaPlace.outer_inside] at hall
    refine List.rel_flatMap (R := fun items inner => inner ∈ message.nested ∧
      inner.items scope file isProto3 (place.inside rendered.ownName).modules.length
        (place.inside rendered.ownName).outer = .ok items) ?_ ?_
    · exact (((List.forall₂_and_left _ _).mpr
        ⟨fun _ hinner => List.mem_of_mem_filter hinner, hall⟩)).flip
    · intro items inner hinner
      exact ih inner hinner.1 _ hinner.2

/-- What is collected from all that is rendered for a file is as expected of its enums
and its messages. -/
theorem FileDescriptor.forall₂_collectAll {descriptor : FileDescriptor} {module : String}
    {expected : SurroundedMessage → List β} {expectedOfEnums : List β}
    (henums : ∀ enums, descriptor.enums.mapM (EnumDescriptor.item file) = .ok enums →
      List.Forall₂ R ((enums.flatMap fun enum => own (.enumeration enum)).map
        (Placed.mk [module])) expectedOfEnums)
    (hown : RenderedMessage.CollectsOwn scope file descriptor.isProto3 own R expected)
    {found : List Item} (h : descriptor.items scope file = .ok found) :
    List.Forall₂ R (Item.collectAll own [module] found)
      (expectedOfEnums ++ (descriptor.surrounded module).flatMap expected) := by
  obtain ⟨enums, hitems, h⟩ := bind_eq_ok.mp h
  obtain ⟨messages, hmessages, h⟩ := bind_eq_ok.mp h
  cases h
  rw [Item.collectAll_append, Item.collectAll_enums, Item.collectAll_flatten, surrounded,
    List.flatMap_assoc]
  refine List.rel_append (henums enums hitems) ?_
  exact List.rel_flatMap (mapM_eq_ok.mp hmessages).flip fun items message hitems =>
    MessageDescriptor.forall₂_collectAll hown (descriptor.place module) hitems

/-- Where there is nothing to collect from enums it is as expected of the messages. -/
theorem FileDescriptor.forall₂_collectAll_surrounded {descriptor : FileDescriptor}
    {expected : SurroundedMessage → List β} (henum : ∀ enum, own (.enumeration enum) = [])
    (hown : RenderedMessage.CollectsOwn scope file descriptor.isProto3 own R expected)
    (module : String) {found : List Item} (h : descriptor.items scope file = .ok found) :
    List.Forall₂ R (Item.collectAll own [module] found)
      ((descriptor.surrounded module).flatMap expected) := by
  have hnone : ∀ enums, descriptor.enums.mapM (EnumDescriptor.item file) = .ok enums →
      List.Forall₂ R ((enums.flatMap fun enum => own (.enumeration enum)).map
        (Placed.mk [module])) [] := by
    intro enums _
    rw [List.flatMap_eq_nil_iff.mpr fun enum _ => henum enum]
    exact .nil
  exact forall₂_collectAll hnone hown h

/-- The place of a message may not matter, either. -/
theorem FileDescriptor.forall₂_collectAll_named {descriptor : FileDescriptor}
    {expected : NamedMessage → List β} (henum : ∀ enum, own (.enumeration enum) = [])
    (hown : RenderedMessage.CollectsOwn scope file descriptor.isProto3 own R
      fun found => expected found.named)
    {module : String} {found : List Item} (h : descriptor.items scope file = .ok found) :
    List.Forall₂ R (Item.collectAll own [module] found)
      (descriptor.withoutEntries.flatMap expected) := by
  rw [← descriptor.map_named_surrounded module, List.flatMap_map]
  exact forall₂_collectAll_surrounded henum hown module h

end

end ProtoSchema
