import Mathlib.Data.List.Flatten
import Mathlib.Data.List.Forall2
import ProtoSchema.Proofs.Collection.NameTable
import ProtoSchema.Proofs.Resolve.NamedMessages
import ProtoSchema.Resolve.Reference

/-!
# The messages of the graph of references

A map entry inside a message takes no part in the graph of references, and nothing
inside it does.  `FileSet.withoutEntries` lists the other messages of a set, with
their full names.  These are the messages of the graph
(`FileSet.references_eq_map`).  In a set that has no two messages of one full
name, each of them refers to what its own fields refer to
(`FileSet.find?_referenceGraph`).
-/

namespace ProtoSchema

/-! ## Messages that are no map entries -/

mutual

/-- A message and those inside it, with their full names.  Map entries inside a
message are left out. -/
def MessageDescriptor.withoutEntries (outer : String) : MessageDescriptor → List NamedMessage
  | { name := none, .. } => []
  | message@{ name := some ownName, nested, .. } =>
    ⟨FullName.inside outer ownName, message⟩ ::
      withoutEntriesInside (FullName.asOuter (FullName.inside outer ownName)) nested
termination_by structural message => message

/-- The messages inside another and those inside them, map entries left out. -/
def MessageDescriptor.withoutEntriesInside (outer : String) :
    List MessageDescriptor → List NamedMessage
  | [] => []
  | message :: rest =>
    (if message.isMapEntry then [] else message.withoutEntries outer) ++
      withoutEntriesInside outer rest
termination_by structural messages => messages

end

/-- The messages of a file, map entries inside others left out. -/
def FileDescriptor.withoutEntries (file : FileDescriptor) : List NamedMessage :=
  file.messages.flatMap (MessageDescriptor.withoutEntries file.typePrefix)

/-- The messages of a set, map entries inside others left out. -/
def FileSet.withoutEntries (set : FileSet) : List NamedMessage :=
  set.files.flatMap FileDescriptor.withoutEntries

namespace MessageDescriptor

theorem withoutEntriesInside_eq_flatMap (outer : String) (messages : List MessageDescriptor) :
    withoutEntriesInside outer messages =
      (messages.filter fun message => !message.isMapEntry).flatMap (withoutEntries outer) :=
  eq_flatMap_of_entriesLeftOut rfl (fun _ _ => rfl) messages

theorem withoutEntries_of_name_eq_none {outer : String} {message : MessageDescriptor}
    (h : message.name = none) : message.withoutEntries outer = [] := by
  cases message
  cases h
  rfl

theorem withoutEntries_of_name_eq_some {outer ownName : String} {message : MessageDescriptor}
    (h : message.name = some ownName) :
    message.withoutEntries outer =
      ⟨FullName.inside outer ownName, message⟩ ::
        (message.nested.filter fun inner => !inner.isMapEntry).flatMap
          (withoutEntries (FullName.asOuter (FullName.inside outer ownName))) := by
  cases message
  cases h
  rw [withoutEntries, withoutEntriesInside_eq_flatMap]

/-- These are some of all the messages. -/
theorem withoutEntries_sublist (outer : String) (message : MessageDescriptor) :
    (message.withoutEntries outer).Sublist (message.named outer) := by
  induction message using nesting generalizing outer with
  | step message ih =>
    cases hname : message.name with
    | none =>
      rw [withoutEntries_of_name_eq_none hname, named_of_name_eq_none hname]
    | some ownName =>
      rw [withoutEntries_of_name_eq_some hname, named_of_name_eq_some hname]
      refine .cons_cons _ ((List.filter_sublist.flatMap _).trans ?_)
      exact List.Sublist.flatMap_right _ fun inner hinner => ih inner hinner _

end MessageDescriptor

theorem FileDescriptor.withoutEntries_sublist (file : FileDescriptor) :
    file.withoutEntries.Sublist file.named :=
  List.Sublist.flatMap_right _ fun message _ => message.withoutEntries_sublist _

theorem FileSet.withoutEntries_sublist (set : FileSet) :
    set.withoutEntries.Sublist set.named :=
  List.Sublist.flatMap_right _ fun file _ => file.withoutEntries_sublist

theorem FileDescriptor.mem_named_of_mem_withoutEntries {file : FileDescriptor}
    {found : NamedMessage} (h : found ∈ file.withoutEntries) : found ∈ file.named :=
  file.withoutEntries_sublist.subset h

theorem FileSet.mem_named_of_mem_withoutEntries {set : FileSet} {found : NamedMessage}
    (h : found ∈ set.withoutEntries) : found ∈ set.named :=
  set.withoutEntries_sublist.subset h

/-! ## Their references -/

/-- What the fields of a message refer to. -/
def NamedMessage.references (found : NamedMessage) : List Reference :=
  found.message.fields.filterMap FieldDescriptor.reference?

/-- How a message stands in the graph. -/
def NamedMessage.graphEntry (found : NamedMessage) : String × List Reference :=
  (found.name, found.references)

namespace MessageDescriptor

theorem referencesInside_eq_flatMap (outer : String) (messages : List MessageDescriptor) :
    referencesInside outer messages =
      (messages.filter fun message => !message.isMapEntry).flatMap (references outer) :=
  eq_flatMap_of_entriesLeftOut rfl (fun _ _ => rfl) messages

theorem references_of_name_eq_none {outer : String} {message : MessageDescriptor}
    (h : message.name = none) : message.references outer = [] := by
  cases message
  cases h
  rfl

theorem references_of_name_eq_some {outer ownName : String} {message : MessageDescriptor}
    (h : message.name = some ownName) :
    message.references outer =
      (FullName.inside outer ownName, message.fields.filterMap FieldDescriptor.reference?) ::
        (message.nested.filter fun inner => !inner.isMapEntry).flatMap
          (references (FullName.asOuter (FullName.inside outer ownName))) := by
  cases message
  cases h
  rw [references, referencesInside_eq_flatMap]

theorem references_eq_map (outer : String) (message : MessageDescriptor) :
    message.references outer = (message.withoutEntries outer).map NamedMessage.graphEntry := by
  induction message using nesting generalizing outer with
  | step message ih =>
    cases hname : message.name with
    | none =>
      rw [withoutEntries_of_name_eq_none hname, references_of_name_eq_none hname]
      rfl
    | some ownName =>
      rw [references_of_name_eq_some hname, withoutEntries_of_name_eq_some hname, List.map_cons,
        List.map_flatMap]
      refine congrArg _ (List.flatMap_congr fun inner hinner => ?_)
      exact ih inner (List.mem_of_mem_filter hinner) _

end MessageDescriptor

namespace FileSet

variable {set : FileSet}

/-- Whether no two messages of a set have one full name. -/
def NamesMessagesOnce (set : FileSet) : Prop := (set.named.map NamedMessage.name).Nodup

theorem references_eq_map (set : FileSet) :
    set.references = set.withoutEntries.map NamedMessage.graphEntry := by
  rw [references, withoutEntries, List.map_flatMap]
  refine List.flatMap_congr fun file _ => ?_
  rw [FileDescriptor.withoutEntries, List.map_flatMap]
  exact List.flatMap_congr fun message _ => message.references_eq_map _

theorem referenceGraph_eq_insertAll (set : FileSet) :
    set.referenceGraph =
      NameTable.empty.insertAll (set.withoutEntries.map NamedMessage.graphEntry) := by
  rw [← references_eq_map]
  rfl

/-- Of two messages with one name in two sets the one in the second set counts. -/
theorem find?_referenceGraph_append (first second : FileSet) (name : String) :
    (first ++ second).referenceGraph.find? name =
      (second.referenceGraph.find? name).or (first.referenceGraph.find? name) := by
  rw [referenceGraph_eq_insertAll, withoutEntries, files_append, List.flatMap_append,
    List.map_append, NameTable.insertAll_append, NameTable.find?_insertAll_eq_or,
    ← withoutEntries, ← withoutEntries, ← referenceGraph_eq_insertAll,
    ← referenceGraph_eq_insertAll]

/-- References in the graph are those of a message of the set. -/
theorem exists_of_find?_referenceGraph {name : String} {references : List Reference}
    (h : set.referenceGraph.find? name = some references) :
    ∃ found ∈ set.withoutEntries, found.name = name ∧ found.references = references := by
  rw [referenceGraph_eq_insertAll] at h
  rcases NameTable.find?_insertAll_cases h with hmem | hnone
  · obtain ⟨found, hfound, heq⟩ := List.mem_map.mp hmem
    obtain ⟨hname, hreferences⟩ := Prod.mk.inj heq
    exact ⟨found, hfound, hname, hreferences⟩
  · cases hnone

/-- Every message that is no map entry is in the graph. -/
theorem isSome_find?_referenceGraph {found : NamedMessage} (h : found ∈ set.withoutEntries) :
    (set.referenceGraph.find? found.name).isSome = true := by
  rw [referenceGraph_eq_insertAll, NameTable.isSome_find?_insertAll]
  exact Or.inl (List.mem_map.mpr ⟨_, List.mem_map_of_mem h, rfl⟩)

/-- A message refers to what its fields refer to. -/
theorem find?_referenceGraph (hnames : set.NamesMessagesOnce) {found : NamedMessage}
    (hfound : found ∈ set.withoutEntries) :
    set.referenceGraph.find? found.name = some found.references := by
  rw [referenceGraph_eq_insertAll]
  refine NameTable.find?_insertAll_of_unique (List.mem_map_of_mem hfound) ?_
  intro references hreferences
  obtain ⟨other, hother, heq⟩ := List.mem_map.mp hreferences
  obtain ⟨hname, rfl⟩ := Prod.mk.inj heq
  have hsame : other = found := List.inj_on_of_nodup_map hnames
    (mem_named_of_mem_withoutEntries hother) (mem_named_of_mem_withoutEntries hfound) hname
  rw [hsame]

end FileSet

end ProtoSchema
