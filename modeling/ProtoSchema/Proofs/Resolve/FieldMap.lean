import ProtoSchema.Proofs.Resolve.References
import ProtoSchema.Proofs.Table.Congruence

/-!
# Other fields in the same messages

`FileSet.mapFields` puts another field in the place of every field of a set, at any depth.
What a set declares has nothing to do with fields, so names mean the same afterwards
(`Scope.home?_mapFields`, `Scope.tables_mapFields`).  When every field makes the reference
that the one before it made, the same fields are cyclic (`FileSet.cyclicFields_mapFields`).
-/

namespace ProtoSchema

/-! ## Messages, files and sets -/

mutual

/-- A message with another field in the place of each of its own and of those inside it. -/
def MessageDescriptor.mapFields (f : FieldDescriptor → FieldDescriptor) :
    MessageDescriptor → MessageDescriptor
  | { name, fields, nested, enums, options, oneofs } =>
    { name, fields := fields.map f, nested := mapFieldsInside f nested, enums, options, oneofs }
termination_by structural message => message

/-- Several messages with another field in the place of each. -/
def MessageDescriptor.mapFieldsInside (f : FieldDescriptor → FieldDescriptor) :
    List MessageDescriptor → List MessageDescriptor
  | [] => []
  | message :: rest => message.mapFields f :: mapFieldsInside f rest
termination_by structural messages => messages

end

/-- A file with another field in the place of each. -/
def FileDescriptor.mapFields (f : FieldDescriptor → FieldDescriptor) (file : FileDescriptor) :
    FileDescriptor :=
  { file with messages := file.messages.map (MessageDescriptor.mapFields f) }

/-- A set with another field in the place of each. -/
def FileSet.mapFields (f : FieldDescriptor → FieldDescriptor) (set : FileSet) : FileSet :=
  ⟨set.files.map (FileDescriptor.mapFields f)⟩

variable {f : FieldDescriptor → FieldDescriptor}

namespace MessageDescriptor

theorem mapFieldsInside_eq_map (messages : List MessageDescriptor) :
    mapFieldsInside f messages = messages.map (mapFields f) := by
  induction messages with
  | nil => rfl
  | cons message messages ih => rw [mapFieldsInside, ih, List.map_cons]

theorem mapFields_eq (message : MessageDescriptor) :
    message.mapFields f =
      { message with
        fields := message.fields.map f
        nested := message.nested.map (mapFields f) } := by
  cases message
  rw [mapFields, mapFieldsInside_eq_map]

@[simp] theorem mapFields_name (message : MessageDescriptor) :
    (message.mapFields f).name = message.name := by rw [mapFields_eq]

@[simp] theorem mapFields_fields (message : MessageDescriptor) :
    (message.mapFields f).fields = message.fields.map f := by rw [mapFields_eq]

@[simp] theorem mapFields_nested (message : MessageDescriptor) :
    (message.mapFields f).nested = message.nested.map (mapFields f) := by rw [mapFields_eq]

@[simp] theorem mapFields_enums (message : MessageDescriptor) :
    (message.mapFields f).enums = message.enums := by rw [mapFields_eq]

@[simp] theorem mapFields_oneofs (message : MessageDescriptor) :
    (message.mapFields f).oneofs = message.oneofs := by rw [mapFields_eq]

@[simp] theorem mapFields_isMapEntry (message : MessageDescriptor) :
    (message.mapFields f).isMapEntry = message.isMapEntry := by
  rw [mapFields_eq]
  rfl

/-- The messages that are no map entries stay the same ones. -/
theorem filter_mapFields (messages : List MessageDescriptor) :
    (messages.map (mapFields f)).filter (fun message => !message.isMapEntry) =
      (messages.filter fun message => !message.isMapEntry).map (mapFields f) := by
  rw [List.filter_map]
  exact congrArg _ (List.filter_congr fun message _ => congrArg _ (mapFields_isMapEntry message))

/-- A message declares the same. -/
theorem declarations_mapFields (package file outer : String) (message : MessageDescriptor) :
    (message.mapFields f).declarations package file outer =
      message.declarations package file outer := by
  induction message using nesting generalizing outer with
  | step message ih =>
    have hown := message.mapFields_name (f := f)
    cases hname : message.name with
    | none =>
      rw [declarations_of_name_eq_none hname, declarations_of_name_eq_none (hown.trans hname)]
    | some name =>
      rw [declarations_of_name_eq_some hname, declarations_of_name_eq_some (hown.trans hname),
        mapFields_nested, List.flatMap_map, mapFields_enums]
      rw [List.flatMap_congr fun inner hinner => ih inner hinner _]

/-- A message makes the same references when each of its fields does. -/
theorem references_mapFields (hf : ∀ field, (f field).reference? = field.reference?)
    (outer : String) (message : MessageDescriptor) :
    (message.mapFields f).references outer = message.references outer := by
  induction message using nesting generalizing outer with
  | step message ih =>
    have hown := message.mapFields_name (f := f)
    cases hname : message.name with
    | none => rw [references_of_name_eq_none hname, references_of_name_eq_none (hown.trans hname)]
    | some name =>
      have hfields : (message.fields.map f).filterMap FieldDescriptor.reference? =
          message.fields.filterMap FieldDescriptor.reference? := by
        rw [List.filterMap_map]
        exact List.filterMap_congr fun field _ => hf field
      rw [references_of_name_eq_some hname, references_of_name_eq_some (hown.trans hname),
        mapFields_fields, hfields, mapFields_nested, filter_mapFields, List.flatMap_map]
      rw [List.flatMap_congr fun inner hinner => ih inner (List.mem_of_mem_filter hinner) _]

end MessageDescriptor

namespace FileSet

/-- A set declares the same. -/
theorem declarations_mapFields (set : FileSet) :
    (set.mapFields f).declarations = set.declarations := by
  rw [declarations, mapFields, List.flatMap_map]
  refine List.flatMap_congr fun file _ => ?_
  simp only [FileDescriptor.declarations, FileDescriptor.mapFields, List.flatMap_map]
  exact congrArg (· ++ _) (List.flatMap_congr fun message _ => message.declarations_mapFields ..)

theorem homes_mapFields (set : FileSet) : (set.mapFields f).homes = set.homes := by
  rw [homes, declarations_mapFields, homes]

theorem enumTables_mapFields (set : FileSet) : (set.mapFields f).enumTables = set.enumTables := by
  rw [enumTables, declarations_mapFields, enumTables]

/-- A set has files of the same names. -/
theorem isSome_find?_mapFields (set : FileSet) (name : String) :
    ((set.mapFields f).find? name).isSome = (set.find? name).isSome := by
  rw [find?, mapFields, List.find?_map, Option.isSome_map]
  rfl

/-- The cyclic fields of a set are the same when each field makes the same reference. -/
theorem cyclicFields_mapFields (hf : ∀ field, (f field).reference? = field.reference?)
    (set : FileSet) : (set.mapFields f).cyclicFields = set.cyclicFields := by
  have hreferences : (set.mapFields f).references = set.references := by
    rw [references, mapFields, List.flatMap_map]
    refine List.flatMap_congr fun file _ => ?_
    simp only [FileDescriptor.mapFields, List.flatMap_map]
    exact List.flatMap_congr fun message _ => message.references_mapFields hf _
  rw [cyclicFields, referenceGraph, hreferences]
  rfl

end FileSet

/-! ## Scopes -/

namespace Scope

variable (set : FileSet) (catalog : Catalog)

/-- A name is at home in the same place. -/
theorem home?_mapFields (name : String) :
    (Scope.of (set.mapFields f) catalog).home? name = (Scope.of set catalog).home? name := by
  show ((set.mapFields f).homes.find? name).or _ = (set.homes.find? name).or _
  rw [FileSet.homes_mapFields]
  rfl

/-- A name means the same enum. -/
theorem enum?_mapFields (name : String) :
    (Scope.of (set.mapFields f) catalog).enum? name = (Scope.of set catalog).enum? name := by
  show ((set.mapFields f).enumTables.find? name).or _ = (set.enumTables.find? name).or _
  rw [FileSet.enumTables_mapFields]
  rfl

/-- A declared enum has the same table. -/
theorem declaredEnum?_mapFields (d : Declaration) :
    (Scope.of (set.mapFields f) catalog).declaredEnum? d =
      (Scope.of set catalog).declaredEnum? d := by
  show d.enum?.bind (fun _ => (set.mapFields f).enumTables.find? d.name) = _
  rw [FileSet.enumTables_mapFields]
  rfl

/-- The same files are known. -/
theorem hasFile_mapFields (name : String) :
    (Scope.of (set.mapFields f) catalog).hasFile name = (Scope.of set catalog).hasFile name :=
  congrArg (· || _) (set.isSome_find?_mapFields name)

/-- A file has the same tables, or the same fault. -/
theorem tables_mapFields (file : FileDescriptor) :
    file.tables (Scope.of (set.mapFields f) catalog) = file.tables (Scope.of set catalog) := by
  refine FileDescriptor.tables_congr ?_ ?_ ?_
  · exact fun name _ => checkDependencies_congr (fun _ _ => hasFile_mapFields set catalog _) name
  · intro name _ message _ field _
    refine FieldDescriptor.content_congr (fun target _ => ?_) fun target _ _ => ?_
    · exact congrArg (Option.map _) (home?_mapFields set catalog target)
    · exact enum?_mapFields set catalog target
  · exact fun d _ => declaredEnum?_mapFields set catalog d

end Scope

end ProtoSchema
