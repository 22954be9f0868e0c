import ProtoSchema.Proofs.Descriptor.Nesting
import ProtoSchema.Proofs.Source.Messages
import ProtoSchema.Proofs.Table.Build

/-!
# Rendered ways and the names they stand for

A field of a message or of a group refers to its message by name.  In rendered
source a way stands in the place of the name.  `MessageDescriptor.targets` lists
these names in the order in which the message is rendered: those of the fields
that belong to no oneof, then those of the members of each oneof, then those of
the messages inside.  A map field stands for the two fields of its entry.

`FileDescriptor.forall₂_typePaths` says that the ways that are written are the ways
to these names, one by one, each for the number of modules that it is written in.
-/

namespace ProtoSchema

open Checked

/-! ## The names that fields refer to -/

/-- The name of the message that a field holds, if it holds one. -/
def FieldDescriptor.target? (field : FieldDescriptor) : Option String :=
  match field.typeKind with
  | some .message | some .group => field.typeName
  | _ => none

namespace MessageDescriptor

/-- The names that a map entry refers to. -/
def mapTargets (entry : MessageDescriptor) : List String :=
  ((entry.fieldNumbered? 1).bind FieldDescriptor.target?).toList ++
    ((entry.fieldNumbered? 2).bind FieldDescriptor.target?).toList

/-- The names that a field of a message refers to where it is rendered. -/
def fieldTargets (fullName : String) (message : MessageDescriptor) (field : FieldDescriptor) :
    List String :=
  match message.mapEntry? (FullName.asOuter fullName) field with
  | some entry => entry.mapTargets
  | none => field.target?.toList

/-- The names that the fields outside of oneofs refer to. -/
def recordTargets (fullName : String) (message : MessageDescriptor) : List String :=
  (message.fields.filter fun field => field.realOneof.isNone).flatMap
    (message.fieldTargets fullName)

/-- The names that the members of a oneof refer to. -/
def memberTargets (message : MessageDescriptor) (position : Nat) : List String :=
  (message.fields.filter fun field => field.realOneof == some position).flatMap fun member =>
    member.target?.toList

mutual

/-- The names that a message and what is rendered inside it refer to. -/
def targets (outer : String) : MessageDescriptor → List String
  | { name := none, .. } => []
  | message@{ name := some ownName, nested, .. } =>
    let fullName := FullName.inside outer ownName
    message.recordTargets fullName ++ message.realOneofs.flatMap message.memberTargets ++
      targetsInside (FullName.asOuter fullName) nested
termination_by structural message => message

/-- The names that the messages inside another refer to, map entries left out. -/
def targetsInside (outer : String) : List MessageDescriptor → List String
  | [] => []
  | message :: rest =>
    (if message.isMapEntry then [] else message.targets outer) ++ targetsInside outer rest
termination_by structural messages => messages

end

theorem targetsInside_eq_flatMap (outer : String) (messages : List MessageDescriptor) :
    targetsInside outer messages =
      (messages.filter fun message => !message.isMapEntry).flatMap (targets outer) :=
  eq_flatMap_of_entriesLeftOut rfl (fun _ _ => rfl) messages

theorem targets_eq {outer ownName : String} {message : MessageDescriptor}
    (h : message.name = some ownName) :
    message.targets outer =
      message.recordTargets (FullName.inside outer ownName) ++
        message.realOneofs.flatMap message.memberTargets ++
        (message.nested.filter fun inner => !inner.isMapEntry).flatMap
          (targets (FullName.asOuter (FullName.inside outer ownName))) := by
  cases message
  cases h
  rw [targets, targetsInside_eq_flatMap]

end MessageDescriptor

/-- The names that the record and the choices of a message refer to. -/
def NamedMessage.targets (found : NamedMessage) : List String :=
  found.message.recordTargets found.name ++
    found.message.realOneofs.flatMap found.message.memberTargets

/-- A message refers to what it and the messages inside it refer to. -/
theorem MessageDescriptor.targets_eq_flatMap (outer : String) (message : MessageDescriptor) :
    message.targets outer = (message.withoutEntries outer).flatMap NamedMessage.targets := by
  induction message using nesting generalizing outer with
  | step message ih =>
    cases hname : message.name with
    | none =>
      rw [withoutEntries_of_name_eq_none hname]
      cases message
      cases hname
      rfl
    | some ownName =>
      rw [targets_eq hname, withoutEntries_of_name_eq_some hname, List.flatMap_cons,
        List.flatMap_assoc]
      refine congrArg _ (List.flatMap_congr fun inner hinner => ?_)
      exact ih inner (List.mem_of_mem_filter hinner) _

/-- The names that a file refers to where it is rendered. -/
def FileDescriptor.targets (file : FileDescriptor) : List String :=
  file.messages.flatMap (MessageDescriptor.targets file.typePrefix)

theorem FileDescriptor.targets_eq_flatMap (file : FileDescriptor) :
    file.targets = file.withoutEntries.flatMap NamedMessage.targets := by
  rw [targets, withoutEntries, List.flatMap_assoc]
  exact List.flatMap_congr fun message _ => message.targets_eq_flatMap _

namespace FieldDescriptor

theorem target?_of_message {field : FieldDescriptor} {type : FieldType}
    (htype : field.typeKind = some type) (hmessage : type = .message ∨ type = .group) :
    field.target? = field.typeName := by
  unfold target?
  rw [htype]
  rcases hmessage with rfl | rfl
  · rfl
  · rfl

theorem target?_of_scalar {field : FieldDescriptor} {type : FieldType} {scalar : Scalar}
    (htype : field.typeKind = some type) (hscalar : type.scalar? = some scalar) :
    field.target? = none := by
  unfold target?
  rw [htype]
  cases type with
  | message => cases hscalar
  | group => cases hscalar
  | _ => rfl

theorem target?_of_enum {field : FieldDescriptor} (htype : field.typeKind = some .enum) :
    field.target? = none := by
  unfold target?
  rw [htype]

end FieldDescriptor

/-! ## Fields -/

/-- Whether a way is that to a name, from a certain depth. -/
def Scope.LeadsTo (scope : Scope) (file : String) (depth : Nat) (path : TypePath)
    (target : String) : Prop :=
  scope.typePath file depth target = .ok path

theorem Scalar.typePaths_sourceType (scalar : Scalar) : scalar.sourceType.typePaths = [] := by
  unfold sourceType
  cases scalar.representation with
  | _ => rfl

namespace FieldDescriptor

variable {scope : Scope} {file : String} {depth : Nat}

theorem forall₂_sourceItemType {field : FieldDescriptor} {type : SourceType}
    (h : field.sourceItemType scope file depth = .ok type) :
    List.Forall₂ (scope.LeadsTo file depth) type.typePaths field.target?.toList := by
  obtain ⟨kind, hkind, h⟩ := bind_eq_ok.mp h
  have hkind := checkedType_eq_ok.mp hkind
  cases hscalar : kind.scalar? with
  | some scalar =>
    rw [hscalar] at h
    cases h
    rw [scalar.typePaths_sourceType, target?_of_scalar hkind hscalar]
    exact .nil
  | none =>
    rw [hscalar] at h
    by_cases henum : kind = .enum
    · subst henum
      cases h
      rw [target?_of_enum hkind]
      exact .nil
    · simp only [beq_iff_eq, if_neg henum] at h
      obtain ⟨name, hname, h⟩ := bind_eq_ok.mp h
      obtain ⟨path, hpath, h⟩ := bind_eq_ok.mp h
      cases h
      rw [target?_of_message hkind (type_of_scalar?_eq_none hscalar henum),
        checkedReference_eq_ok.mp hname]
      exact .cons hpath .nil

/-- A pointer around a type does not change the ways in it. -/
theorem typePaths_held (scope : Scope) (message : String) (field : FieldDescriptor)
    (type : SourceType) : (field.held scope message type).typePaths = type.typePaths := by
  unfold held
  split
  · rfl
  · rfl

theorem forall₂_sourceType {field : FieldDescriptor} {isProto3 : Bool} {message : String}
    {type : SourceType}
    (h : field.sourceType scope file isProto3 depth message = .ok type) :
    List.Forall₂ (scope.LeadsTo file depth) type.typePaths field.target?.toList := by
  obtain ⟨item, hitem, h⟩ := bind_eq_ok.mp h
  have hpaths := forall₂_sourceItemType hitem
  rw [← field.typePaths_held scope message item] at hpaths
  cases hpresence : field.presence isProto3 with
  | _ =>
    simp only [hpresence] at h
    cases h
    exact hpaths

end FieldDescriptor

namespace MessageDescriptor

variable {scope : Scope} {file : String} {depth : Nat}

theorem forall₂_mapType {entry : MessageDescriptor} {type : SourceType}
    (h : entry.mapType scope file depth = .ok type) :
    List.Forall₂ (scope.LeadsTo file depth) type.typePaths entry.mapTargets := by
  unfold mapType at h
  split at h
  · next key value hkey hvalue =>
    obtain ⟨keyType, hkeyType, h⟩ := bind_eq_ok.mp h
    obtain ⟨valueType, hvalueType, h⟩ := bind_eq_ok.mp h
    cases h
    rw [mapTargets, hkey, hvalue]
    exact List.rel_append (FieldDescriptor.forall₂_sourceItemType hkeyType)
      (FieldDescriptor.forall₂_sourceItemType hvalueType)
  · cases h

theorem forall₂_recordField {isProto3 : Bool} {fullName : String} {message : MessageDescriptor}
    {field : FieldDescriptor} {found : RecordField}
    (h : message.recordField scope file isProto3 depth fullName field = .ok found) :
    found.number.isSome = true ∧
      List.Forall₂ (scope.LeadsTo file depth) found.type.typePaths
        (message.fieldTargets fullName field) := by
  have hrenders := rendersField_of_recordField h
  refine ⟨by rw [hrenders.number, Option.isSome_some], ?_⟩
  unfold fieldTargets
  rcases hrenders.type with ⟨entry, hentry, htype⟩ | ⟨hnone, htype⟩
  · rw [hentry]
    exact forall₂_mapType htype
  · rw [hnone]
    exact FieldDescriptor.forall₂_sourceType htype

/-- The ways in the fields that belong to no oneof, by their names. -/
theorem forall₂_recordFields {isProto3 : Bool} {fullName : String} {message : MessageDescriptor}
    {found : List RecordField}
    (h : message.recordFields scope file isProto3 depth fullName = .ok found) :
    (∀ field ∈ found, field.number.isSome = true) ∧
      List.Forall₂ (scope.LeadsTo file depth)
        (found.flatMap fun field => field.type.typePaths) (message.recordTargets fullName) := by
  have hall := (mapM_eq_ok.mp h).imp fun _ _ hfield => forall₂_recordField hfield
  constructor
  · intro field hfield
    obtain ⟨descriptor, -, hdescriptor⟩ := exists_item_of_mapM_eq_ok h hfield
    exact (forall₂_recordField hdescriptor).1
  · exact List.rel_flatMap (hall.imp fun _ _ hfield => hfield.2).flip fun _ _ hfield => hfield

/-- The ways in the variants of a choice, by the names that the members refer to.
A choice stands one module deeper than its message. -/
theorem forall₂_choice {fullName : String} {inside : Ident} {message : MessageDescriptor}
    {position : Nat} {found : ChoiceItem × RecordField}
    (h : message.choice scope file depth fullName inside position = .ok found) :
    found.2.number = none ∧
      List.Forall₂ (scope.LeadsTo file (depth + 1)) found.1.typePaths
        (message.memberTargets position) := by
  have hrenders := rendersChoice_of_choice h
  refine ⟨hrenders.number, ?_⟩
  have hall : List.Forall₂ (fun (variant : ChoiceVariant) (member : FieldDescriptor) =>
      List.Forall₂ (scope.LeadsTo file (depth + 1)) variant.type.typePaths
        member.target?.toList) found.1.variants
      (message.fields.filter fun field => field.realOneof == some position) := by
    refine ((mapM_eq_ok.mp hrenders.variants).imp ?_).flip
    intro member variant hvariant
    obtain ⟨item, hitem, htype⟩ := (rendersVariant_of_choiceVariant hvariant).type
    show List.Forall₂ _ variant.type.typePaths member.target?.toList
    rw [htype, member.typePaths_held]
    exact FieldDescriptor.forall₂_sourceItemType hitem
  exact List.rel_flatMap hall fun _ _ hmember => hmember

theorem forall₂_choices {fullName : String} {inside : Ident} {message : MessageDescriptor}
    {found : List (ChoiceItem × RecordField)}
    (h : message.choices scope file depth fullName inside = .ok found) :
    (∀ choice ∈ found, choice.2.number = none) ∧
      List.Forall₂ (scope.LeadsTo file (depth + 1))
        (found.flatMap fun choice => choice.1.typePaths)
        (message.realOneofs.flatMap message.memberTargets) := by
  have hall := (mapM_eq_ok.mp h).imp fun _ _ hchoice => forall₂_choice hchoice
  constructor
  · intro choice hchoice
    obtain ⟨position, -, hposition⟩ := exists_item_of_mapM_eq_ok h hchoice
    exact (forall₂_choice hposition).1
  · exact List.rel_flatMap (hall.imp fun _ _ hchoice => hchoice.2).flip fun _ _ hchoice => hchoice

end MessageDescriptor

/-! ## Messages and files -/

namespace RenderedMessage

variable {scope : Scope} {file : String} {isProto3 : Bool} {depth : Nat} {outer : String}
  {message : MessageDescriptor} {rendered : RenderedMessage}

/-- The fields of a record that have numbers are those that belong to no oneof. -/
theorem filter_fields_record
    (h : message.Renders scope file isProto3 depth outer rendered) :
    ((rendered.record outer).fields.filter fun field => field.number.isSome) =
      rendered.fields := by
  have hnone : (rendered.choices.map Prod.snd).filter (fun field => field.number.isSome) = [] := by
    rw [List.filter_eq_nil_iff]
    intro field hfield
    obtain ⟨choice, hchoice, rfl⟩ := List.mem_map.mp hfield
    rw [(MessageDescriptor.forall₂_choices h.choices).1 choice hchoice]
    exact Bool.false_ne_true
  rw [record, List.filter_append, hnone, List.append_nil, List.filter_eq_self.mpr
    (MessageDescriptor.forall₂_recordFields h.fields).1]

end RenderedMessage

/-- Whether a way that is written inside some modules is that to a name. -/
def Scope.Leads (scope : Scope) (file : String) (path : Placed TypePath) (target : String) :
    Prop :=
  scope.LeadsTo file path.around.length path.item target

theorem Scope.forall₂_leads {scope : Scope} {file : String} {around : List String}
    {paths : List TypePath} {targets : List String}
    (h : List.Forall₂ (scope.LeadsTo file around.length) paths targets) :
    List.Forall₂ (scope.Leads file) (paths.map (Placed.mk around)) targets :=
  List.forall₂_map_left_iff.mpr h

/-- The ways that are written for a message itself are those to the names that it
refers to. -/
theorem RenderedMessage.collectsOwn_ownPaths (scope : Scope) (file : String) (isProto3 : Bool) :
    CollectsOwn scope file isProto3 Item.ownPaths (scope.Leads file)
      fun found => found.named.targets := by
  intro place message rendered hrenders
  have hdeeper : (place.modules ++ [rendered.inside.spelling]).length =
      place.modules.length + 1 :=
    List.length_append
  have hrecord : List.Forall₂ (scope.LeadsTo file place.modules.length)
      (rendered.record place.outer).typePaths
      (message.recordTargets (FullName.inside place.outer rendered.ownName)) := by
    rw [RecordItem.typePaths, filter_fields_record hrenders]
    exact (MessageDescriptor.forall₂_recordFields hrenders.fields).2
  have hchoices := (MessageDescriptor.forall₂_choices hrenders.choices).2
  rw [← hdeeper] at hchoices
  rw [collectOwn_of_enumeration _ _ _ _ fun _ => rfl]
  exact List.rel_append (Scope.forall₂_leads hrecord) (Scope.forall₂_leads hchoices)

/-- The ways that are written for a file, by the names that it refers to. -/
theorem FileDescriptor.forall₂_typePaths {scope : Scope} {name module : String}
    {file : FileDescriptor} {found : List Item} (h : file.items scope name = .ok found) :
    List.Forall₂ (scope.Leads name) (Item.collectAll Item.ownPaths [module] found)
      file.targets := by
  rw [targets_eq_flatMap]
  exact forall₂_collectAll_named (fun _ => rfl) (RenderedMessage.collectsOwn_ownPaths _ _ _) h

end ProtoSchema
