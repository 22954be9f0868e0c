import ProtoSchema.Proofs.Source.TypeSites
import ProtoSchema.Proofs.Table.Congruence

/-!
# Types that differ in place, in kind or in name

In a set whose names are kept apart (`FileSet.NamesApart`) no two types have one full
name, and no two oneofs of a message one name.  So the sites of any two of its types
differ in place, in kind or in name (`FileSet.NamesApart.pairwise_apart`).

The messages and the enums among the sites have the full names that the set declares,
map entries left out (`FileDescriptor.filterMap_fullName?`).  A oneof has no full name,
and is known by its message and its own name (`TypeSite.oneofKey?`).
-/

namespace ProtoSchema

open Checked

/-- Whether two sites differ in place, in kind or in name. -/
def TypeSite.Apart (first second : TypeSite) : Prop :=
  first.place = second.place → first.isOneof = second.isOneof → first.name ≠ second.name

/-- Whether the types of a set have names of the usual form, and no two types have one
full name and no two oneofs of a message one name. -/
structure FileSet.NamesApart (set : FileSet) : Prop where
  types : set.DeclaresOnce
  oneofs : ∀ file ∈ set.files, ∀ message ∈ file.allMessages,
    (message.oneofs.filterMap OneofDescriptor.name).Nodup
  messageNames : ∀ file ∈ set.files, ∀ message ∈ file.allMessages, ∀ name ∈ message.name,
    SchemaName.isIdentifier name = true
  enumNames : ∀ file ∈ set.files, ∀ enum ∈ file.allEnums, ∀ name ∈ enum.name,
    SchemaName.isIdentifier name = true

/-- Enums are no oneofs, and have their names. -/
theorem EnumDescriptor.exists_of_mem_typeSites {place : SchemaPlace} {enums : List EnumDescriptor}
    {site : TypeSite} (h : site ∈ enums.filterMap (typeSite? place)) :
    site.isOneof = false ∧ ∃ enum ∈ enums, enum.name = some site.name := by
  obtain ⟨enum, henum, h⟩ := List.mem_filterMap.mp h
  obtain ⟨name, hname, rfl⟩ := Option.map_eq_some_iff.mp h
  exact ⟨rfl, enum, henum, hname⟩

theorem SurroundedMessage.isOneof_of_mem_oneofSites {found : SurroundedMessage} {site : TypeSite}
    (h : site ∈ found.oneofSites) : site.isOneof = true := by
  obtain ⟨position, -, rfl⟩ := List.mem_map.mp h
  rfl

/-! ## Types -/

/-- The full name of a message or an enum. -/
def TypeSite.fullName? (site : TypeSite) : Option String :=
  if site.isOneof then none else some (FullName.inside site.place.outer site.name)

theorem EnumDescriptor.filterMap_fullName? (place : SchemaPlace) (enums : List EnumDescriptor) :
    (enums.filterMap (typeSite? place)).filterMap TypeSite.fullName? =
      enums.filterMap (fullName? place.outer) := by
  rw [List.filterMap_filterMap]
  refine List.filterMap_congr fun enum _ => ?_
  rw [typeSite?, fullName?]
  cases enum.name with
  | none => rfl
  | some name => rfl

/-- A message and the enums inside it have full names, and its oneofs have none. -/
theorem SurroundedMessage.filterMap_fullName? (found : SurroundedMessage) :
    found.typeSites.filterMap TypeSite.fullName? = found.named.typeNames := by
  have honeofs : found.oneofSites.filterMap TypeSite.fullName? = [] := by
    rw [oneofSites, List.filterMap_map]
    exact List.filterMap_eq_nil_iff.mpr fun _ _ => rfl
  rw [typeSites, List.filterMap_cons_some (by rfl), List.filterMap_append, honeofs,
    List.nil_append, EnumDescriptor.filterMap_fullName?, outer_inside]
  rfl

/-- The types of a file have the full names of its enums and of its messages. -/
theorem FileDescriptor.filterMap_fullName? (module : String) (file : FileDescriptor) :
    (file.typeSites module).filterMap TypeSite.fullName? =
      file.enums.filterMap (EnumDescriptor.fullName? file.typePrefix) ++
        file.withoutEntries.flatMap NamedMessage.typeNames := by
  rw [typeSites, List.filterMap_append, EnumDescriptor.filterMap_fullName?, outer_place,
    List.filterMap_flatMap, ← file.map_named_surrounded module, List.flatMap_map]
  exact congrArg _ (List.flatMap_congr fun found _ => found.filterMap_fullName?)

/-- No two types of a set have one full name. -/
theorem FileSet.DeclaresOnce.nodup_filterMap_fullName? {set : FileSet} (h : set.DeclaresOnce) :
    (set.typeSites.filterMap TypeSite.fullName?).Nodup := by
  refine h.nodup_typeNames.sublist ?_
  rw [typeSites, List.filterMap_flatMap]
  refine List.Sublist.flatMap_right _ fun file _ => ?_
  rw [FileDescriptor.filterMap_fullName?]
  exact (List.Sublist.refl _).append (file.withoutEntries_sublist.flatMap _)

/-! ## Oneofs -/

/-- What stands in front of the name of a oneof, and its name. -/
def TypeSite.oneofKey? (site : TypeSite) : Option (String × String) :=
  if site.isOneof then some (site.place.outer, site.name) else none

/-- The oneofs of a message that count, by the name of the message. -/
def NamedMessage.oneofKeys (found : NamedMessage) : List (String × String) :=
  found.message.realOneofs.map fun position =>
    (FullName.asOuter found.name, (found.message.oneofName? position).getD "")

theorem EnumDescriptor.filterMap_oneofKey? (place : SchemaPlace) (enums : List EnumDescriptor) :
    (enums.filterMap (typeSite? place)).filterMap TypeSite.oneofKey? = [] := by
  refine List.filterMap_eq_nil_iff.mpr fun site hsite => ?_
  rw [TypeSite.oneofKey?, (exists_of_mem_typeSites hsite).1]
  rfl

theorem SurroundedMessage.filterMap_oneofKey? (found : SurroundedMessage) :
    found.typeSites.filterMap TypeSite.oneofKey? = found.named.oneofKeys := by
  rw [typeSites, List.filterMap_cons_none (by rfl), List.filterMap_append,
    EnumDescriptor.filterMap_oneofKey?, List.append_nil, oneofSites, List.filterMap_map,
    NamedMessage.oneofKeys, ← found.outer_inside, ← List.filterMap_eq_map]
  rfl

theorem FileDescriptor.filterMap_oneofKey? (module : String) (file : FileDescriptor) :
    (file.typeSites module).filterMap TypeSite.oneofKey? =
      file.withoutEntries.flatMap NamedMessage.oneofKeys := by
  rw [typeSites, List.filterMap_append, EnumDescriptor.filterMap_oneofKey?, List.nil_append,
    List.filterMap_flatMap, ← file.map_named_surrounded module, List.flatMap_map]
  exact List.flatMap_congr fun found _ => found.filterMap_oneofKey?

/-- Oneofs that have names have different ones when those that are declared do. -/
theorem NamedMessage.nodup_oneofKeys {found : NamedMessage}
    (hnames : (found.message.oneofs.filterMap OneofDescriptor.name).Nodup)
    (hnamed : ∀ position ∈ found.message.realOneofs,
      ∃ name, found.message.oneofName? position = some name) : found.oneofKeys.Nodup := by
  have hdeclared := List.pairwise_iff_getElem.mp (List.pairwise_filterMap.mp hnames)
  have hascending : found.message.realOneofs.Pairwise (· < ·) :=
    List.pairwise_lt_range.sublist List.filter_sublist
  refine List.pairwise_map.mpr (hascending.imp_of_mem fun {a b} ha hb hlt heq => ?_)
  obtain ⟨first, hfirst⟩ := hnamed a ha
  obtain ⟨second, hsecond⟩ := hnamed b hb
  obtain ⟨oneof, honeof, hname⟩ := Option.bind_eq_some_iff.mp hfirst
  obtain ⟨other, hother, hname'⟩ := Option.bind_eq_some_iff.mp hsecond
  obtain ⟨hbound, rfl⟩ := List.getElem?_eq_some_iff.mp honeof
  obtain ⟨hbound', rfl⟩ := List.getElem?_eq_some_iff.mp hother
  rw [hfirst, hsecond] at heq
  exact hdeclared a b hbound hbound' hlt first hname second hname' (Prod.mk.inj heq).2

/-- The oneofs that count have names when the tables of their file were built. -/
theorem FileDescriptor.exists_oneofName_of_tables {scope : Scope} {file : FileDescriptor}
    {tables : FileTable} (h : file.tables scope = .ok tables) {message : MessageDescriptor}
    (hmessage : message ∈ file.allMessages) {position : Nat}
    (hposition : position ∈ message.realOneofs) :
    ∃ name, message.oneofName? position = some name := by
  obtain ⟨outer, name, table, -, htable⟩ := exists_messageTable_of_tables h hmessage
  obtain ⟨oneof, -, honeof⟩ := exists_of_mapM_eq_ok htable.oneofs hposition
  split at honeof
  · next found hfound => exact ⟨found, hfound⟩
  · cases honeof

/-- No two oneofs of a set are in one message and have one name. -/
theorem FileSet.NamesApart.nodup_filterMap_oneofKey? {set : FileSet} (h : set.NamesApart)
    (hnamed : ∀ file ∈ set.files, ∀ message ∈ file.allMessages,
      ∀ position ∈ message.realOneofs, ∃ name, message.oneofName? position = some name) :
    (set.typeSites.filterMap TypeSite.oneofKey?).Nodup := by
  have hkeys : set.typeSites.filterMap TypeSite.oneofKey? =
      set.withoutEntries.flatMap NamedMessage.oneofKeys := by
    rw [typeSites, List.filterMap_flatMap, withoutEntries, List.flatMap_assoc]
    exact List.flatMap_congr fun file _ => file.filterMap_oneofKey? _
  rw [hkeys, List.nodup_flatMap]
  constructor
  · intro found hfound
    obtain ⟨file, hfile, hfound⟩ := mem_named.mp (mem_named_of_mem_withoutEntries hfound)
    have hmessage := file.mem_allMessages_of_mem_named hfound
    exact found.nodup_oneofKeys (h.oneofs file hfile _ hmessage) (hnamed file hfile _ hmessage)
  · have hnames : (set.withoutEntries.map NamedMessage.name).Nodup :=
      h.types.nodup_names.sublist (set.withoutEntries_sublist.map _)
    refine (List.pairwise_map.mp hnames).imp fun {first second} hne key hfirst hsecond => ?_
    obtain ⟨_, -, rfl⟩ := List.mem_map.mp hfirst
    obtain ⟨_, -, heq⟩ := List.mem_map.mp hsecond
    exact hne ((String.append_left_inj _).mp (Prod.mk.inj heq).1).symm

/-! ## Sites -/

/-- The sites of the types of a set differ in place, in kind or in name. -/
theorem FileSet.NamesApart.pairwise_apart {set : FileSet} (h : set.NamesApart)
    (hnamed : ∀ file ∈ set.files, ∀ message ∈ file.allMessages,
      ∀ position ∈ message.realOneofs, ∃ name, message.oneofName? position = some name) :
    set.typeSites.Pairwise TypeSite.Apart := by
  have htypes := List.pairwise_filterMap.mp h.types.nodup_filterMap_fullName?
  have honeofs := List.pairwise_filterMap.mp (h.nodup_filterMap_oneofKey? hnamed)
  refine (htypes.and honeofs).imp fun {first second} hdiffers hplace hkind hname => ?_
  cases honeof : first.isOneof with
  | true =>
    have honeof' : second.isOneof = true := hkind.symm.trans honeof
    refine hdiffers.2 _ (if_pos honeof) _ (if_pos honeof') ?_
    rw [hplace, hname]
  | false =>
    have hno : ¬ first.isOneof = true := by rw [honeof]; exact Bool.false_ne_true
    have hno' : ¬ second.isOneof = true := hkind ▸ hno
    refine hdiffers.1 _ (if_neg hno) _ (if_neg hno') ?_
    rw [hplace, hname]

/-- The messages and the enums among the sites of a file have names of the usual form. -/
theorem FileSet.NamesApart.isIdentifier_of_mem_typeSites {set : FileSet} (h : set.NamesApart)
    {site : TypeSite} (hsite : site ∈ set.typeSites) (hkind : site.isOneof = false) :
    SchemaName.isIdentifier site.name = true := by
  obtain ⟨file, hfile, hsite⟩ := List.mem_flatMap.mp hsite
  rcases List.mem_append.mp hsite with hsite | hsite
  · obtain ⟨-, enum, henum, hname⟩ := EnumDescriptor.exists_of_mem_typeSites hsite
    exact h.enumNames file hfile enum (List.mem_append_left _ henum) _ hname
  · obtain ⟨found, hfound, hsite⟩ := List.mem_flatMap.mp hsite
    obtain ⟨hmessage, hname⟩ := FileDescriptor.mem_allMessages_of_mem_surrounded hfound
    rcases List.mem_cons.mp hsite with rfl | hsite
    · exact h.messageNames file hfile _ hmessage _ hname
    · rcases List.mem_append.mp hsite with hsite | hsite
      · rw [SurroundedMessage.isOneof_of_mem_oneofSites hsite] at hkind
        cases hkind
      · obtain ⟨-, enum, henum, hname⟩ := EnumDescriptor.exists_of_mem_typeSites hsite
        exact h.enumNames file hfile enum
          (List.mem_append_right _ (List.mem_flatMap.mpr ⟨_, hmessage, henum⟩)) _ hname

end ProtoSchema
