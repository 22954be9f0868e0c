import ProtoSchema.Proofs.Catalog.Contents
import ProtoSchema.Proofs.Resolve.FieldMap
import ProtoSchema.Proofs.Source.Congruence

/-!
# Groups

A group is a message that is encoded in another way.  Tables and source have nothing to do
with the encoding, so a field that is marked as a group is treated like one that is marked
as a message.  There is one exception.  In the third dialect the absence of a message shows
and that of a group does not, but there are no groups in that dialect.

Tables and items depend on a field only by what `FieldDescriptor.Alike` lists.  So fields
that are alike may take the place of each other in all messages of a file
(`FileDescriptor.tables_mapFields`, `FileDescriptor.items_mapFields`), and a set without
groups in the third dialect may have its groups marked as messages
(`FileSet.same_groupsAsMessages`).
-/

namespace ProtoSchema

open Checked

/-! ## Fields -/

/-- What tables and items have to do with a field, its presence left out. -/
structure FieldDescriptor.Alike (scope : Scope) (a b : FieldDescriptor) : Prop where
  name : a.name = b.name
  number : a.number = b.number
  typeName : a.typeName = b.typeName
  defaultText : a.defaultText = b.defaultText
  realOneof : a.realOneof = b.realOneof
  jsonName : a.jsonName = b.jsonName
  content : ∀ file, a.content scope file = b.content scope file
  sourceItemType : ∀ file depth,
    a.sourceItemType scope file depth = b.sourceItemType scope file depth

namespace FieldDescriptor.Alike

variable {scope : Scope} {a b : FieldDescriptor}

theorem table (h : a.Alike scope b) {isProto3 : Bool}
    (hpresence : a.presence isProto3 = b.presence isProto3) (file : String) :
    a.table scope file isProto3 = b.table scope file isProto3 := by
  unfold FieldDescriptor.table
  rw [h.name, h.number, h.content, h.defaultText, h.realOneof, h.jsonName, hpresence]

theorem held (h : a.Alike scope b) (message : String) (type : SourceType) :
    a.held scope message type = b.held scope message type := by
  unfold FieldDescriptor.held
  rw [h.name]

theorem sourceType (h : a.Alike scope b) {isProto3 : Bool}
    (hpresence : a.presence isProto3 = b.presence isProto3) (file : String) (depth : Nat)
    (message : String) :
    a.sourceType scope file isProto3 depth message =
      b.sourceType scope file isProto3 depth message := by
  unfold FieldDescriptor.sourceType
  simp only [h.sourceItemType, h.held, hpresence]

end FieldDescriptor.Alike

/-! ## Messages -/

namespace MessageDescriptor

variable {f : FieldDescriptor → FieldDescriptor} {scope : Scope}

/-- The same oneofs have members. -/
theorem realOneofs_mapFields (hf : ∀ field, (f field).realOneof = field.realOneof)
    (message : MessageDescriptor) : (message.mapFields f).realOneofs = message.realOneofs := by
  unfold realOneofs
  rw [mapFields_oneofs, mapFields_fields]
  refine List.filter_congr fun position _ => ?_
  rw [List.any_map]
  exact congrArg (message.fields.any ·) (funext fun field => congrArg (· == _) (hf field))

/-- The fields that belong to no oneof, or to the same one, stay the same ones. -/
theorem filter_realOneof_map (hf : ∀ field, (f field).realOneof = field.realOneof)
    (p : Option Nat → Bool) (fields : List FieldDescriptor) :
    (fields.map f).filter (fun field => p field.realOneof) =
      (fields.filter fun field => p field.realOneof).map f := by
  rw [List.filter_map]
  exact congrArg _ (List.filter_congr fun field _ => congrArg p (hf field))

/-- Whether the fields of a message and of those inside it show their absence as the
fields in their place do. -/
def KeepsPresence (f : FieldDescriptor → FieldDescriptor) (isProto3 : Bool)
    (message : MessageDescriptor) : Prop :=
  ∀ inner ∈ message.preorder, ∀ field ∈ inner.fields,
    (f field).presence isProto3 = field.presence isProto3

theorem KeepsPresence.nested {isProto3 : Bool} {message : MessageDescriptor}
    (h : message.KeepsPresence f isProto3) {inner : MessageDescriptor}
    (hinner : inner ∈ message.nested) : inner.KeepsPresence f isProto3 :=
  fun found hfound => h found (mem_preorder_of_nested hinner hfound)

theorem KeepsPresence.own {isProto3 : Bool} {message : MessageDescriptor}
    (h : message.KeepsPresence f isProto3) :
    ∀ field ∈ message.fields, (f field).presence isProto3 = field.presence isProto3 :=
  h message (mem_preorder_self message)

/-! ### Tables -/

theorem table_mapFields (hf : ∀ field, (f field).Alike scope field) {isProto3 : Bool}
    {message : MessageDescriptor} (hpresence : message.KeepsPresence f isProto3)
    (file package outer name : String) :
    (message.mapFields f).table scope file package isProto3 outer name =
      message.table scope file package isProto3 outer name := by
  have honeofs := message.realOneofs_mapFields fun field => (hf field).realOneof
  have hfields : (message.mapFields f).fieldTables scope file isProto3 =
      message.fieldTables scope file isProto3 := by
    unfold fieldTables
    rw [mapFields_fields, List.mapM_map, honeofs]
    refine mapM_congr_mem fun field hfield => ?_
    rw [Function.comp_apply, (hf field).table (hpresence.own field hfield)]
  unfold table oneofNames
  rw [hfields, honeofs, mapFields_oneofs, mapFields_isMapEntry]

theorem tables_mapFields (hf : ∀ field, (f field).Alike scope field) {isProto3 : Bool}
    {message : MessageDescriptor} (hpresence : message.KeepsPresence f isProto3)
    (file package outer : String) :
    (message.mapFields f).tables scope file package isProto3 outer =
      message.tables scope file package isProto3 outer := by
  induction message using nesting generalizing outer with
  | step message ih =>
    have hown := message.mapFields_name (f := f)
    cases hname : message.name with
    | none => rw [tables_of_name_eq_none hname, tables_of_name_eq_none (hown.trans hname)]
    | some name =>
      have hinside : (message.nested.map (mapFields f)).mapM (tables scope file package isProto3
            (FullName.asOuter (FullName.inside outer name))) =
          message.nested.mapM (tables scope file package isProto3
            (FullName.asOuter (FullName.inside outer name))) := by
        rw [List.mapM_map]
        exact mapM_congr_mem fun inner hinner => ih inner hinner (hpresence.nested hinner) _
      rw [tables_of_name_eq_some hname, tables_of_name_eq_some (hown.trans hname),
        table_mapFields hf hpresence, tablesInside_eq, tablesInside_eq, mapFields_nested, hinside,
        mapFields_enums]

/-! ### Items -/

theorem mapType_mapFields (hf : ∀ field, (f field).Alike scope field) (file : String)
    (depth : Nat) (entry : MessageDescriptor) :
    (entry.mapFields f).mapType scope file depth = entry.mapType scope file depth := by
  have hfield : ∀ number, (entry.mapFields f).fieldNumbered? number =
      (entry.fieldNumbered? number).map f := by
    intro number
    unfold fieldNumbered?
    rw [mapFields_fields, List.find?_map]
    exact congrArg (Option.map f) (List.find?_congr fun field _ =>
      congrArg (· == some number) (hf field).number)
  unfold mapType
  rw [hfield, hfield, mapFields_name]
  cases entry.fieldNumbered? 1 with
  | none => rfl
  | some key =>
    cases entry.fieldNumbered? 2 with
    | none => rfl
    | some value =>
      simp only [Option.map_some, (hf key).sourceItemType, (hf value).sourceItemType]

theorem mapEntry?_mapFields (hf : ∀ field, (f field).Alike scope field) (inner : String)
    (message : MessageDescriptor) (field : FieldDescriptor) :
    mapEntry? inner (message.mapFields f) (f field) =
      (Option.map (mapFields f) <| message.mapEntry? inner field) := by
  unfold mapEntry?
  rw [(hf field).typeName, mapFields_nested, ← List.map_reverse]
  cases field.typeName with
  | none => rfl
  | some target =>
    rw [Option.bind_some, Option.bind_some, List.find?_map]
    refine congrArg (Option.map _) (List.find?_congr fun entry _ => ?_)
    simp only [Function.comp_apply, mapFields_isMapEntry, mapFields_name]

theorem recordFields_mapFields (hf : ∀ field, (f field).Alike scope field) {isProto3 : Bool}
    {message : MessageDescriptor} (hpresence : message.KeepsPresence f isProto3) (file : String)
    (depth : Nat) (fullName : String) :
    (message.mapFields f).recordFields scope file isProto3 depth fullName =
      message.recordFields scope file isProto3 depth fullName := by
  unfold recordFields
  rw [mapFields_fields, filter_realOneof_map (fun field => (hf field).realOneof), List.mapM_map]
  refine mapM_congr_mem fun field hfield => ?_
  have hsame := hpresence.own field (List.mem_of_mem_filter hfield)
  simp only [Function.comp_apply, recordField, mapEntry?_mapFields hf, (hf field).name,
    (hf field).number]
  cases message.mapEntry? (FullName.asOuter fullName) field with
  | none => simp only [Option.map_none, (hf field).sourceType hsame]
  | some entry => simp only [Option.map_some, mapType_mapFields hf]

theorem choices_mapFields (hf : ∀ field, (f field).Alike scope field) (file : String)
    (depth : Nat) (fullName : String) (inside : Ident) (message : MessageDescriptor) :
    (message.mapFields f).choices scope file depth fullName inside =
      message.choices scope file depth fullName inside := by
  unfold choices
  rw [realOneofs_mapFields fun field => (hf field).realOneof]
  refine mapM_congr_mem fun position _ => ?_
  have hmembers : ((message.fields.filter fun field => field.realOneof == some position).map f).mapM
        (choiceVariant scope file (depth + 1) fullName) =
      (message.fields.filter fun field => field.realOneof == some position).mapM
        (choiceVariant scope file (depth + 1) fullName) := by
    rw [List.mapM_map]
    refine mapM_congr_mem fun member _ => ?_
    simp only [Function.comp_apply, choiceVariant, (hf member).name, (hf member).sourceItemType,
      (hf member).held]
  simp only [choice, mapFields_oneofs, mapFields_fields,
    filter_realOneof_map (fun field => (hf field).realOneof) (· == some position), hmembers]

theorem items_mapFields (hf : ∀ field, (f field).Alike scope field) {isProto3 : Bool}
    {message : MessageDescriptor} (hpresence : message.KeepsPresence f isProto3) (file : String)
    (depth : Nat) (outer : String) :
    (message.mapFields f).items scope file isProto3 depth outer =
      message.items scope file isProto3 depth outer := by
  induction message using nesting generalizing depth outer with
  | step message ih =>
    have hown := message.mapFields_name (f := f)
    cases hname : message.name with
    | none => rw [items_of_name_eq_none hname, items_of_name_eq_none (hown.trans hname)]
    | some ownName =>
      have hinside : ((message.nested.filter fun inner => !inner.isMapEntry).map (mapFields f)).mapM
            (items scope file isProto3 (depth + 1)
              (FullName.asOuter (FullName.inside outer ownName))) =
          (message.nested.filter fun inner => !inner.isMapEntry).mapM
            (items scope file isProto3 (depth + 1)
              (FullName.asOuter (FullName.inside outer ownName))) := by
        rw [List.mapM_map]
        refine mapM_congr_mem fun inner hinner => ?_
        have hmem := List.mem_of_mem_filter hinner
        exact ih inner hmem (hpresence.nested hmem) _ _
      rw [items_of_name_eq_some hname, items_of_name_eq_some (hown.trans hname),
        recordFields_mapFields hf hpresence, itemsInside_eq, itemsInside_eq, mapFields_nested,
        filter_mapFields, hinside, mapFields_enums]
      simp only [choices_mapFields hf]

end MessageDescriptor

/-! ## Files -/

namespace FileDescriptor

variable {f : FieldDescriptor → FieldDescriptor} {scope : Scope} {file : FileDescriptor}

theorem tables_mapFields (hf : ∀ field, (f field).Alike scope field)
    (hpresence : ∀ message ∈ file.messages, message.KeepsPresence f file.isProto3) :
    (file.mapFields f).tables scope = file.tables scope := by
  refine bind_congr_ok fun name _ => bind_congr_ok fun _ _ => ?_
  have hmessages : (file.messages.map (MessageDescriptor.mapFields f)).mapM
        (MessageDescriptor.tables scope name file.packageName file.isProto3 file.typePrefix) =
      file.messages.mapM
        (MessageDescriptor.tables scope name file.packageName file.isProto3 file.typePrefix) := by
    rw [List.mapM_map]
    exact mapM_congr_mem fun message hmessage =>
      MessageDescriptor.tables_mapFields hf (hpresence message hmessage) ..
  have hinside : MessageDescriptor.tablesInside scope name file.packageName file.isProto3
        file.typePrefix (file.messages.map (MessageDescriptor.mapFields f)) =
      MessageDescriptor.tablesInside scope name file.packageName file.isProto3 file.typePrefix
        file.messages := by
    rw [MessageDescriptor.tablesInside_eq, MessageDescriptor.tablesInside_eq, hmessages]
  exact congrArg (· >>= _) hinside

theorem items_mapFields (hf : ∀ field, (f field).Alike scope field)
    (hpresence : ∀ message ∈ file.messages, message.KeepsPresence f file.isProto3)
    (name : String) : (file.mapFields f).items scope name = file.items scope name := by
  refine bind_congr_ok fun enums _ => ?_
  have hmessages : (file.messages.map (MessageDescriptor.mapFields f)).mapM
        (MessageDescriptor.items scope name file.isProto3 1 file.typePrefix) =
      file.messages.mapM
        (MessageDescriptor.items scope name file.isProto3 1 file.typePrefix) := by
    rw [List.mapM_map]
    exact mapM_congr_mem fun message hmessage =>
      MessageDescriptor.items_mapFields hf (hpresence message hmessage) ..
  exact congrArg (· >>= _) hmessages

theorem generate_mapFields (hf : ∀ field, (f field).Alike scope field)
    (hpresence : ∀ message ∈ file.messages, message.KeepsPresence f file.isProto3)
    (style : SourceStyle) :
    (file.mapFields f).generate scope style = file.generate scope style := by
  unfold generate
  rw [tables_mapFields hf hpresence]
  refine bind_congr_ok fun tables _ => ?_
  rw [items_mapFields hf hpresence]
  rfl

end FileDescriptor

/-! ## Sets -/

namespace FileSet

variable {f : FieldDescriptor → FieldDescriptor} {set : FileSet}

/-- Whether all fields of a set show their absence as the fields in their place do. -/
def KeepsPresence (f : FieldDescriptor → FieldDescriptor) (set : FileSet) : Prop :=
  ∀ file ∈ set.files, ∀ message ∈ file.messages, message.KeepsPresence f file.isProto3

variable (hf : ∀ scope field, (f field).Alike scope field) (hpresence : set.KeepsPresence f)
include hf hpresence

/-- Alike fields in a set give the same tables, or the same fault. -/
theorem tables_mapFields (catalog : Catalog) :
    (Scope.of (set.mapFields f) catalog).tables = (Scope.of set catalog).tables := by
  show (set.files.map (FileDescriptor.mapFields f)).mapM _ = _
  rw [List.mapM_map]
  refine mapM_congr_mem fun file hfile => ?_
  exact (Scope.tables_mapFields set catalog _).trans
    (FileDescriptor.tables_mapFields (hf _) (hpresence file hfile))

/-- Alike fields in a set that make the same references give the same source, or the same
fault. -/
theorem generate_mapFields (hreferences : ∀ field, (f field).reference? = field.reference?)
    (catalog : Catalog) (style : SourceStyle) :
    (Scope.of (set.mapFields f) catalog).generate style =
      (Scope.of set catalog).generate style := by
  show (set.files.map (FileDescriptor.mapFields f)).mapM _ = _
  rw [List.mapM_map]
  refine mapM_congr_mem fun file hfile => ?_
  refine Eq.trans ?_ (FileDescriptor.generate_mapFields (hf _) (hpresence file hfile) style)
  refine FileDescriptor.generate_congr (Scope.tables_mapFields set catalog _) ?_ ?_ style
  · exact fun message _ field _ target _ => Scope.home?_mapFields set catalog target
  · intro found _ field
    rw [Scope.isCyclic, Scope.isCyclic, Scope.cyclic_eq, Scope.cyclic_eq]
    exact congrArg (List.contains · _) (cyclicFields_mapFields hreferences set)

end FileSet

/-! ## Groups -/

/-- A field that is marked as a message when it is marked as a group. -/
def FieldDescriptor.groupAsMessage (field : FieldDescriptor) : FieldDescriptor :=
  if field.type = some 10 then { field with type := some 11 } else field

/-- A set with all groups marked as messages. -/
def FileSet.groupsAsMessages (set : FileSet) : FileSet :=
  set.mapFields FieldDescriptor.groupAsMessage

namespace FieldDescriptor

/-- A group and a message are alike. -/
theorem alike_groupAsMessage (scope : Scope) (field : FieldDescriptor) :
    field.groupAsMessage.Alike scope field := by
  unfold groupAsMessage
  split
  · next hgroup =>
    have htype : ∀ file, field.checkedType file = .ok .group := fun file =>
      checkedType_eq_ok.mpr (by rw [typeKind, hgroup]; rfl)
    refine ⟨rfl, rfl, rfl, rfl, rfl, rfl, fun file => ?_, fun file depth => ?_⟩
    · unfold content
      rw [htype]
      rfl
    · unfold sourceItemType
      rw [htype]
      rfl
  · exact ⟨rfl, rfl, rfl, rfl, rfl, rfl, fun _ => rfl, fun _ _ => rfl⟩

/-- A group refers to its message. -/
theorem reference?_groupAsMessage (field : FieldDescriptor) :
    field.groupAsMessage.reference? = field.reference? := by
  unfold groupAsMessage
  split
  · next hgroup =>
    have htype : field.typeKind = some .group := by
      rw [typeKind, hgroup]
      rfl
    unfold reference?
    rw [htype]
    rfl
  · rfl

/-- The absence of a group shows like that of a message, but for the third dialect. -/
theorem presence_groupAsMessage {isProto3 : Bool} {field : FieldDescriptor}
    (h : isProto3 = true → field.typeKind ≠ some .group) :
    field.groupAsMessage.presence isProto3 = field.presence isProto3 := by
  unfold groupAsMessage
  split
  · next hgroup =>
    have hdialect : isProto3 = false := by
      refine Bool.eq_false_iff.mpr fun hproto3 => h hproto3 ?_
      rw [typeKind, hgroup]
      rfl
    subst hdialect
    rfl
  · rfl

end FieldDescriptor

/-- In a set with no groups in files of the third dialect, groups may be marked as messages.
The set has the same tables and the same source, or the same fault, in every style and on
top of every catalog.  It loads with the same outcome, and the same fields are cyclic. -/
theorem FileSet.same_groupsAsMessages {set : FileSet}
    (hgroups : ∀ file ∈ set.files, file.isProto3 = true → ∀ message ∈ file.allMessages,
      ∀ field ∈ message.fields, field.typeKind ≠ some .group) (catalog : Catalog) :
    (Scope.of set.groupsAsMessages catalog).tables = (Scope.of set catalog).tables ∧
      (∀ style, (Scope.of set.groupsAsMessages catalog).generate style =
        (Scope.of set catalog).generate style) ∧
      catalog.load set.groupsAsMessages = catalog.load set ∧
      set.groupsAsMessages.cyclicFields = set.cyclicFields := by
  have hpresence : set.KeepsPresence FieldDescriptor.groupAsMessage := by
    intro file hfile message hmessage inner hinner field hfield
    refine FieldDescriptor.presence_groupAsMessage fun hproto3 => ?_
    exact hgroups file hfile hproto3 inner
      (FileDescriptor.mem_allMessages.mpr ⟨message, hmessage, hinner⟩) field hfield
  have htables := tables_mapFields FieldDescriptor.alike_groupAsMessage hpresence catalog
  refine ⟨htables, fun style => ?_, ?_, ?_⟩
  · exact generate_mapFields FieldDescriptor.alike_groupAsMessage hpresence
      FieldDescriptor.reference?_groupAsMessage catalog style
  · exact congrArg (Except.map catalog.activate) htables
  · exact cyclicFields_mapFields FieldDescriptor.reference?_groupAsMessage set

/-- Groups that are in a oneof, repeated, required, and on a circle.  They are held by a
message of the second dialect and by each other. -/
theorem FileSet.same_groupsAsMessages_circle :
    let group (name : String) (label : Int32) (oneof : Option Int32) : FieldDescriptor :=
      { name := some name, number := some 1, label := some label, type := some 10
        typeName := some ".g.M.Group", oneofIndex := oneof }
    let back : FieldDescriptor :=
      { name := some "back", number := some 1, type := some 10, typeName := some ".g.M" }
    let set : FileSet := ⟨[
      { name := some "g.proto", package := some "g"
        messages := [
          { name := some "M"
            fields := [group "one" 1 (some 0), group "list" 3 none, group "must" 2 none,
              { name := some "number", number := some 2, type := some 5 }]
            nested := [{ name := some "Group", fields := [back] }]
            oneofs := [{ name := some "kind" }] }] },
      { name := some "h.proto", package := some "h", dialect := some "proto3"
        dependencies := ["g.proto"]
        messages := [
          { name := some "N"
            fields := [{ name := some "m", number := some 1, type := some 11
                         typeName := some ".g.M" }] }] }]⟩
    let types (set : FileSet) := set.named.map fun found =>
      found.message.fields.map FieldDescriptor.type
    types set = [[some 10, some 10, some 10, some 5], [some 10], [some 11]] ∧
      types set.groupsAsMessages = [[some 11, some 11, some 11, some 5], [some 11], [some 11]] ∧
      set.cyclicFields = [⟨".g.M", "must"⟩, ⟨".g.M", "one"⟩, ⟨".g.M.Group", "back"⟩] ∧
      ((Scope.of set {}).generate .flat).isOk = true ∧
      (Scope.of set.groupsAsMessages {}).tables = (Scope.of set {}).tables ∧
      (∀ style, (Scope.of set.groupsAsMessages {}).generate style =
        (Scope.of set {}).generate style) ∧
      ({} : Catalog).load set.groupsAsMessages = ({} : Catalog).load set ∧
      set.groupsAsMessages.cyclicFields = set.cyclicFields := by
  intro group back set types
  have hgroups : ∀ file ∈ set.files, file.isProto3 = true → ∀ message ∈ file.allMessages,
      ∀ field ∈ message.fields, field.typeKind ≠ some .group := by decide +kernel
  exact ⟨by decide +kernel, by decide +kernel, by decide +kernel, by decide +kernel,
    same_groupsAsMessages hgroups {}⟩

end ProtoSchema
