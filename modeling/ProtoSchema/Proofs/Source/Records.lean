import ProtoSchema.Proofs.Resolve.NamedMessages
import ProtoSchema.Proofs.Source.Messages
import ProtoSchema.Proofs.Source.Naming
import ProtoSchema.Proofs.Table.Build

/-!
# Where records stand

The record of a message stands inside the modules of the messages around it.
These are the names that the way from the module of the file to the message goes
by (`Placed.IsRecordOf`).

Every record is that of a message with a full name
(`MessageDescriptor.exists_named_of_mem_records`).  Every message with a full
name has a record, unless it is a map entry of another message
(`MessageDescriptor.exists_record_of_mem_named`).
-/

namespace ProtoSchema

open Checked

/-- Whether a record is that of a message and stands where the way to the message
leads, inside the module of its file. -/
structure Placed.IsRecordOf (module package : String) (record : Placed RecordItem)
    (found : NamedMessage) : Prop where
  fullName : record.item.fullName = FullName.bare found.name
  location : record.location = module :: Naming.pathInFile found.name package
  /-- The names of the way can be read. -/
  readable : ∀ name ∈ Naming.pathInFile found.name package,
    (TypePath.plain? name).isSome = true

/-- The full names of the map entries inside a message. -/
def NamedMessage.entryNames (found : NamedMessage) : List String :=
  (found.message.nested.filter MessageDescriptor.isMapEntry).filterMap fun entry =>
    entry.name.map (FullName.inside (FullName.asOuter found.name))

theorem NamedMessage.mem_entryNames {found : NamedMessage} {name : String} :
    name ∈ found.entryNames ↔ ∃ entry ∈ found.message.nested, entry.isMapEntry = true ∧
      ∃ ownName, entry.name = some ownName ∧
        name = FullName.inside (FullName.asOuter found.name) ownName := by
  simp only [entryNames, List.mem_filterMap, List.mem_filter, Option.map_eq_some_iff, and_assoc]
  refine exists_congr fun entry => and_congr_right fun _ => and_congr_right fun _ => ?_
  exact exists_congr fun ownName => and_congr_right fun _ => eq_comm

namespace RenderedMessage

variable {scope : Scope} {file : String} {isProto3 : Bool} {depth : Nat} {outer : String}
  {message : MessageDescriptor} {rendered : RenderedMessage}

/-- The name of the record can be read as a part of a path. -/
theorem isSome_plain?_name (h : message.Renders scope file isProto3 depth outer rendered)
    (hname : rendered.name.mayBeDeclared = true) :
    (TypePath.plain? (Naming.typeName rendered.ownName)).isSome = true := by
  rw [Ident.mayBeDeclared, Ident.spelling_of_ofText? h.name] at hname
  exact Ident.isSome_plain?_of_isLegal hname

/-- So can the name of the module. -/
theorem isSome_plain?_inside (h : message.Renders scope file isProto3 depth outer rendered)
    (hname : rendered.name.mayBeDeclared = true) :
    (TypePath.plain? (Naming.fieldName rendered.ownName)).isSome = true := by
  refine Naming.isSome_plain?_escape (Option.isSome_iff_exists.mpr ⟨_, h.inside⟩) ?_
  intro hsingle
  rw [Ident.mayBeDeclared, Ident.spelling_of_ofText? h.name] at hname
  exact Ident.ne_of_isLegal hname (Naming.typeName_eq_of_fieldName_eq hsingle)

/-- The record of a message stands where the way to the message leads. -/
theorem isRecordOf_record (h : message.Renders scope file isProto3 depth outer rendered)
    (hname : rendered.name.mayBeDeclared = true) {package : String} {names : List String}
    (hsurrounds : Naming.Surrounds package names outer)
    (hreadable : ∀ name ∈ names, (TypePath.plain? (Naming.fieldName name)).isSome = true)
    (hidentifier : SchemaName.isIdentifier rendered.ownName = true) (module : String) :
    Placed.IsRecordOf module package
      ⟨module :: names.map Naming.fieldName, rendered.record outer⟩
      ⟨FullName.inside outer rendered.ownName, message⟩ := by
  have hpath := hsurrounds.pathInFile_inside hidentifier
  refine ⟨rfl, ?_, ?_⟩
  · rw [hpath, Placed.location, record, Ident.spelling_of_ofText? h.name, List.cons_append]
  · rw [hpath]
    intro name hmem
    rcases List.mem_append.mp hmem with hmem | hmem
    · obtain ⟨surrounding, hsurrounding, rfl⟩ := List.mem_map.mp hmem
      exact hreadable surrounding hsurrounding
    · rw [List.mem_singleton.mp hmem]
      exact isSome_plain?_name h hname

end RenderedMessage

namespace MessageDescriptor

variable {scope : Scope} {file : String} {isProto3 : Bool}

/-- Every record is that of a message with a full name. -/
theorem exists_named_of_mem_records {depth : Nat} {package outer module : String}
    {names : List String} {message : MessageDescriptor} {items : List Item}
    (h : message.items scope file isProto3 depth outer = .ok items)
    (hwritable : Item.areWritable items = true)
    (hsurrounds : Naming.Surrounds package names outer)
    (hreadable : ∀ name ∈ names, (TypePath.plain? (Naming.fieldName name)).isSome = true)
    (hidentifiers : ∀ inner ∈ message.preorder, ∀ name ∈ inner.name,
      SchemaName.isIdentifier name = true)
    {record : Placed RecordItem}
    (hrecord : record ∈
      Item.collectAll Item.ownRecords (module :: names.map Naming.fieldName) items) :
    ∃ found ∈ message.named outer, record.IsRecordOf module package found := by
  induction message using nesting generalizing depth outer names items with
  | step message ih =>
    obtain ⟨rendered, hrenders, rfl⟩ := exists_renders h
    obtain ⟨hname, hinner⟩ := rendered.areWritable_items outer hwritable
    have hidentifier := hidentifiers message (mem_preorder_self message) _ hrenders.ownName
    rw [rendered.collectAll_ownRecords] at hrecord
    rw [named_of_name_eq_some hrenders.ownName]
    rcases List.mem_cons.mp hrecord with rfl | hrecord
    · exact ⟨_, .head _, RenderedMessage.isRecordOf_record hrenders hname hsurrounds hreadable
        hidentifier module⟩
    · obtain ⟨innerItems, hinnerItems, hrecord⟩ := List.mem_flatMap.mp hrecord
      obtain ⟨inner, hmem, hrendered⟩ := exists_item_of_mapM_eq_ok hrenders.messages hinnerItems
      have hmem := List.mem_of_mem_filter hmem
      have haround : module :: names.map Naming.fieldName ++ [rendered.inside.spelling] =
          module :: (names ++ [rendered.ownName]).map Naming.fieldName := by
        rw [Ident.spelling_of_ofText? hrenders.inside, List.map_append, List.cons_append]
        rfl
      rw [haround] at hrecord
      have hreadable' : ∀ name ∈ names ++ [rendered.ownName],
          (TypePath.plain? (Naming.fieldName name)).isSome = true := by
        intro name hnames
        rcases List.mem_append.mp hnames with hnames | hnames
        · exact hreadable name hnames
        · rw [List.mem_singleton.mp hnames]
          exact RenderedMessage.isSome_plain?_inside hrenders hname
      obtain ⟨found, hfound, hstands⟩ := ih inner hmem hrendered (hinner innerItems hinnerItems)
        (hsurrounds.asOuter_inside hidentifier) hreadable'
        (fun other hother => hidentifiers other (mem_preorder_of_nested hmem hother)) hrecord
      exact ⟨found, .tail _ (List.mem_flatMap.mpr ⟨inner, hmem, hfound⟩), hstands⟩

/-- Every message with a full name has a record, or it is a map entry.  Map entries
have no messages inside. -/
theorem exists_record_of_mem_named {depth : Nat} {outer : String} {around : List String}
    {message : MessageDescriptor} {items : List Item}
    (h : message.items scope file isProto3 depth outer = .ok items)
    (hflat : ∀ owner ∈ message.named outer, ∀ entry ∈ owner.message.nested,
      entry.isMapEntry = true → entry.nested = [])
    {found : NamedMessage} (hfound : found ∈ message.named outer) :
    (∃ record ∈ Item.collectAll Item.ownRecords around items,
        record.item.fullName = FullName.bare found.name) ∨
      ∃ owner ∈ message.named outer, found.name ∈ owner.entryNames := by
  induction message using nesting generalizing depth outer around items with
  | step message ih =>
    obtain ⟨rendered, hrenders, rfl⟩ := exists_renders h
    rw [rendered.collectAll_ownRecords]
    rw [named_of_name_eq_some hrenders.ownName] at hfound hflat ⊢
    rcases List.mem_cons.mp hfound with rfl | hfound
    · exact Or.inl ⟨_, .head _, rfl⟩
    · obtain ⟨inner, hinner, hfound⟩ := List.mem_flatMap.mp hfound
      by_cases hentry : inner.isMapEntry = true
      · -- There is nothing inside a map entry, so what was found is the entry.
        refine Or.inr ⟨_, .head _, NamedMessage.mem_entryNames.mpr ⟨inner, hinner, hentry, ?_⟩⟩
        cases hname : inner.name with
        | none =>
          rw [named_of_name_eq_none hname] at hfound
          cases hfound
        | some ownName =>
          rw [named_of_name_eq_some hname, hflat _ (.head _) inner hinner hentry] at hfound
          rw [List.mem_singleton.mp hfound]
          exact ⟨ownName, rfl, rfl⟩
      · have hmem : inner ∈ message.nested.filter fun inner => !inner.isMapEntry :=
          List.mem_filter.mpr ⟨hinner, by simpa using hentry⟩
        obtain ⟨innerItems, hinnerItems, hrendered⟩ := exists_of_mapM_eq_ok hrenders.messages hmem
        have hdeeper : ∀ owner ∈ inner.named
            (FullName.asOuter (FullName.inside outer rendered.ownName)),
            owner ∈ message.nested.flatMap
              (named (FullName.asOuter (FullName.inside outer rendered.ownName))) :=
          fun owner howner => List.mem_flatMap.mpr ⟨inner, hinner, howner⟩
        rcases ih inner hinner hrendered
            (fun owner howner => hflat owner (.tail _ (hdeeper owner howner))) hfound with
          ⟨record, hrecord, hname⟩ | ⟨owner, howner, hname⟩
        · exact Or.inl ⟨record, .tail _ (List.mem_flatMap.mpr ⟨innerItems, hinnerItems, hrecord⟩),
            hname⟩
        · exact Or.inr ⟨owner, .tail _ (hdeeper owner howner), hname⟩

end MessageDescriptor

/-! ## Files -/

namespace FileDescriptor

/-- Where the parts of what is rendered for a file come from. -/
structure Renders (scope : Scope) (file : FileDescriptor) (rendered : RenderedFile) : Prop where
  package : rendered.package = file.packageName
  module : rendered.module = Naming.fileModule file.packageName (file.name.getD "")
  tables : ∃ tables, file.tables scope = .ok tables
  items : file.items scope (file.name.getD "") = .ok rendered.items

theorem renders_of_rendered {scope : Scope} {file : FileDescriptor} {rendered : RenderedFile}
    (h : file.rendered scope = .ok rendered) : file.Renders scope rendered := by
  obtain ⟨tables, htables, h⟩ := bind_eq_ok.mp h
  obtain ⟨items, hitems, h⟩ := bind_eq_ok.mp h
  obtain ⟨name, parts, hname, -, -, rfl⟩ := tables_eq_ok htables
  cases h
  refine ⟨rfl, ?_, ⟨_, htables⟩, ?_⟩
  · rw [hname]
    rfl
  · rw [hname]
    exact hitems

/-- The records of a file are those of its messages. -/
theorem exists_records_eq {scope : Scope} {file : FileDescriptor} {rendered : RenderedFile}
    (h : file.Renders scope rendered) :
    ∃ parts, file.messages.mapM (MessageDescriptor.items scope (file.name.getD "") file.isProto3 1
        file.typePrefix) = .ok parts ∧
      rendered.records = parts.flatMap (Item.collectAll Item.ownRecords [rendered.module]) ∧
      (Item.areWritable rendered.items = true →
        ∀ items ∈ parts, Item.areWritable items = true) := by
  obtain ⟨enums, -, hitems⟩ := bind_eq_ok.mp h.items
  obtain ⟨parts, hparts, hitems⟩ := bind_eq_ok.mp hitems
  have hitems : enums.map .enumeration ++ parts.flatten = rendered.items := Except.ok.inj hitems
  refine ⟨parts, hparts, ?_, ?_⟩
  · rw [RenderedFile.records, ← hitems, Item.collectAll_append,
      Item.collectAll_enums_eq_nil _ _ fun _ => rfl, List.nil_append, Item.collectAll_flatten]
  · intro hwritable
    rw [← hitems, Item.areWritable_append, Bool.and_eq_true] at hwritable
    exact Item.areWritable_flatten hwritable.2

/-- Every record of a file is that of a message with a full name. -/
theorem exists_named_of_mem_records {scope : Scope} {file : FileDescriptor}
    {rendered : RenderedFile} (h : file.Renders scope rendered)
    (hwritable : Item.areWritable rendered.items = true)
    (hpackage : SchemaName.isPackage file.packageName = true)
    (hidentifiers : ∀ message ∈ file.allMessages, ∀ name ∈ message.name,
      SchemaName.isIdentifier name = true)
    {record : Placed RecordItem} (hrecord : record ∈ rendered.records) :
    ∃ found ∈ file.named, record.IsRecordOf rendered.module file.packageName found := by
  obtain ⟨parts, hparts, hrecords, hinner⟩ := exists_records_eq h
  rw [hrecords] at hrecord
  obtain ⟨items, hitems, hrecord⟩ := List.mem_flatMap.mp hrecord
  obtain ⟨message, hmessage, hrendered⟩ := exists_item_of_mapM_eq_ok hparts hitems
  obtain ⟨found, hfound, hstands⟩ := MessageDescriptor.exists_named_of_mem_records hrendered
    (hinner hwritable items hitems) (Naming.surrounds_typePrefix hpackage)
    (fun name hname => nomatch hname)
    (fun inner hmem => hidentifiers inner (mem_allMessages.mpr ⟨message, hmessage, hmem⟩)) hrecord
  exact ⟨found, List.mem_flatMap.mpr ⟨message, hmessage, hfound⟩, hstands⟩

/-- Every message of a file with a full name has a record, or it is a map entry. -/
theorem exists_record_of_mem_named {scope : Scope} {file : FileDescriptor}
    {rendered : RenderedFile} (h : file.Renders scope rendered)
    (hflat : ∀ owner ∈ file.named, ∀ entry ∈ owner.message.nested,
      entry.isMapEntry = true → entry.nested = [])
    {found : NamedMessage} (hfound : found ∈ file.named) :
    (∃ record ∈ rendered.records, record.item.fullName = FullName.bare found.name) ∨
      ∃ owner ∈ file.named, found.name ∈ owner.entryNames := by
  obtain ⟨parts, hparts, hrecords, -⟩ := exists_records_eq h
  obtain ⟨message, hmessage, hfound⟩ := List.mem_flatMap.mp hfound
  obtain ⟨items, hitems, hrendered⟩ := exists_of_mapM_eq_ok hparts hmessage
  have hinside : ∀ owner ∈ message.named file.typePrefix, owner ∈ file.named :=
    fun owner howner => List.mem_flatMap.mpr ⟨message, hmessage, howner⟩
  rcases MessageDescriptor.exists_record_of_mem_named hrendered
      (fun owner howner => hflat owner (hinside owner howner)) hfound with
    ⟨record, hrecord, hname⟩ | ⟨owner, howner, hname⟩
  · rw [hrecords]
    exact Or.inl ⟨record, List.mem_flatMap.mpr ⟨items, hitems, hrecord⟩, hname⟩
  · exact Or.inr ⟨owner, hinside owner howner, hname⟩

end FileDescriptor

end ProtoSchema
