import ProtoSchema.Proofs.Resolve.Reachable
import ProtoSchema.Proofs.Resolve.References

/-!
# The cyclic fields of a set

A message of a set refers to what its own fields hold once (`FileSet.RefersBy`).  The
cyclic fields of the set are those that lead back to their message
(`FileSet.mem_cyclicFields_iff_leadsBack`).  So nothing depends on the order in which the
messages are put into the graph, or on the order in which they are searched from.
-/

namespace ProtoSchema

/-- Whether a field with a name holds a message, and no list of them. -/
structure FieldDescriptor.HoldsOnce (field : FieldDescriptor) (name target : String) : Prop where
  name : field.name = some name
  target : field.typeName = some target
  kind : field.typeKind = some .message ∨ field.typeKind = some .group
  once : field.labelKind ≠ .repeated

/-- A field makes a reference to the message that it holds. -/
theorem FieldDescriptor.reference?_eq_some_iff {field : FieldDescriptor} {reference : Reference} :
    field.reference? = some reference ↔ field.HoldsOnce reference.field reference.target := by
  unfold reference?
  constructor
  · intro h
    split at h
    · next hkind =>
      obtain ⟨hkind, honce⟩ := Bool.and_eq_true_iff.mp hkind
      have hkind := (Bool.or_eq_true_iff.mp hkind).imp beq_iff_eq.mp beq_iff_eq.mp
      split at h
      · next hname htarget =>
        cases h
        exact ⟨hname, htarget, hkind, bne_iff_ne.mp honce⟩
      · cases h
    · cases h
  · intro h
    have hkind : (field.typeKind == some .message || field.typeKind == some .group) = true :=
      Bool.or_eq_true_iff.mpr (h.kind.imp beq_iff_eq.mpr beq_iff_eq.mpr)
    rw [hkind, bne_iff_ne.mpr h.once, Bool.and_true, if_pos rfl, h.name, h.target]

namespace FileSet

variable {set : FileSet}

/-- Whether a message of a set, map entries left out, refers to another by a field. -/
def RefersBy (set : FileSet) (source field target : String) : Prop :=
  ∃ found ∈ set.withoutEntries, found.name = source ∧
    ∃ descriptor ∈ found.message.fields, descriptor.HoldsOnce field target

/-- Whether a name leads to another, by any number of fields. -/
def LeadsTo (set : FileSet) : String → String → Prop :=
  Relation.ReflTransGen fun source target => ∃ field, set.RefersBy source field target

/-- A message with a full name of its own stands in the graph with the references that its
fields make. -/
theorem hasReference_iff (hnames : set.NamesMessagesOnce) {source : String}
    {reference : Reference} :
    set.referenceGraph.HasReference source reference ↔
      set.RefersBy source reference.field reference.target := by
  constructor
  · rintro ⟨references, hfound, hreference⟩
    obtain ⟨found, hmem, hname, rfl⟩ := exists_of_find?_referenceGraph hfound
    obtain ⟨field, hfield, heq⟩ := List.mem_filterMap.mp hreference
    exact ⟨found, hmem, hname, field, hfield, FieldDescriptor.reference?_eq_some_iff.mp heq⟩
  · rintro ⟨found, hmem, rfl, field, hfield, hholds⟩
    refine ⟨found.references, find?_referenceGraph hnames hmem, ?_⟩
    exact List.mem_filterMap.mpr ⟨field, hfield, FieldDescriptor.reference?_eq_some_iff.mpr hholds⟩

theorem refers_iff (hnames : set.NamesMessagesOnce) {source target : String} :
    set.referenceGraph.Refers source target ↔ ∃ field, set.RefersBy source field target := by
  constructor
  · rintro ⟨references, hfound, reference, hreference, rfl⟩
    exact ⟨reference.field, (hasReference_iff hnames).mp ⟨references, hfound, hreference⟩⟩
  · rintro ⟨field, hrefers⟩
    have hreference : set.referenceGraph.HasReference source ⟨field, target⟩ :=
      (hasReference_iff hnames).mpr hrefers
    exact hreference.refers

/-- The messages of a set make one graph in whatever order they are put in. -/
theorem insertAll_of_perm (hnames : set.NamesMessagesOnce)
    {visited : List (String × List Reference)} (h : visited.Perm set.references) :
    NameTable.empty.insertAll visited = set.referenceGraph := by
  rw [referenceGraph_eq_insertAll, ← references_eq_map]
  refine (NameTable.insertAll_perm _ h.symm fun name a b ha hb => ?_).symm
  rw [references_eq_map] at ha hb
  obtain ⟨first, hfirst, ha⟩ := List.mem_map.mp ha
  obtain ⟨second, hsecond, hb⟩ := List.mem_map.mp hb
  obtain ⟨rfl, rfl⟩ := Prod.mk.inj ha
  obtain ⟨hname, rfl⟩ := Prod.mk.inj hb
  rw [List.inj_on_of_nodup_map hnames (mem_named_of_mem_withoutEntries hsecond)
    (mem_named_of_mem_withoutEntries hfirst) hname]

/-- The cyclic fields of a set are those that refer to something which leads back to their
message.  They are the same in whatever order the messages are put into the graph, and in
whatever order they are searched from. -/
theorem mem_cyclicFields_iff_leadsBack (hnames : set.NamesMessagesOnce) :
    (∀ message field, ⟨message, field⟩ ∈ set.cyclicFields ↔
      ∃ target, set.RefersBy message field target ∧ set.LeadsTo target message) ∧
    ∀ visited : List (String × List Reference), visited.Perm set.references →
      ∀ starts : List String, starts.Perm (NameTable.empty.insertAll visited).names →
        ∀ found,
          found ∈ ReferenceGraph.cyclicFieldsFrom (NameTable.empty.insertAll visited) starts ↔
            found ∈ set.cyclicFields := by
  have hrefers : set.referenceGraph.Refers =
      fun source target => ∃ field, set.RefersBy source field target := by
    funext source target
    exact propext (refers_iff hnames)
  constructor
  · intro message field
    rw [cyclicFields, ReferenceGraph.mem_cyclicFields_iff, hrefers]
    exact exists_congr fun target => and_congr_left' (hasReference_iff hnames)
  · intro visited hvisited starts hstarts found
    rw [insertAll_of_perm hnames hvisited] at hstarts ⊢
    rw [cyclicFields, ReferenceGraph.cyclicFields, ReferenceGraph.mem_cyclicFieldsFrom_iff,
      ReferenceGraph.mem_cyclicFieldsFrom_iff]
    exact exists_congr fun start => and_congr_left' hstarts.mem_iff

/-- Messages on several circles.  `A` holds itself, and `B` by two fields.  `B` holds `A`
and a group, which holds `B`.  Another field of `A` refers to nothing in the set.  `C` comes
back to itself by a map entry and by a list only, so it is on no circle. -/
theorem mem_cyclicFields_circles :
    let holds (name : String) (type : Int32) (target : String) : FieldDescriptor :=
      { name := some name, number := some 1, type := some type, typeName := some target }
    let set : FileSet := ⟨[
      { name := some "circles.proto", package := some "c"
        messages := [
          { name := some "A"
            fields := [holds "self" 11 ".c.A", holds "b" 11 ".c.B", holds "other" 11 ".c.B",
              holds "lost" 11 ".c.Lost", holds "c" 11 ".c.C"] },
          { name := some "B"
            fields := [holds "group" 10 ".c.B.Group", holds "a" 11 ".c.A"]
            nested := [{ name := some "Group", fields := [holds "back" 11 ".c.B"] }] },
          { name := some "C"
            fields := [holds "entry" 11 ".c.C.Entry",
              { name := some "list", number := some 2, label := some 3, type := some 11
                typeName := some ".c.C" }]
            nested := [{ name := some "Entry", fields := [holds "value" 11 ".c.C"]
                         options := some ⟨some true⟩ }] }] }]⟩
    set.cyclicFields = [⟨".c.B", "group"⟩, ⟨".c.A", "other"⟩, ⟨".c.A", "b"⟩,
        ⟨".c.B.Group", "back"⟩, ⟨".c.B", "a"⟩, ⟨".c.A", "self"⟩] ∧
      (∀ message field, ⟨message, field⟩ ∈ set.cyclicFields ↔
        ∃ target, set.RefersBy message field target ∧ set.LeadsTo target message) ∧
      ∀ found,
        found ∈ ReferenceGraph.cyclicFieldsFrom (NameTable.empty.insertAll set.references.reverse)
          (NameTable.empty.insertAll set.references.reverse).names.reverse ↔
        found ∈ set.cyclicFields := by
  intro holds set
  have hnames : set.NamesMessagesOnce :=
    (by decide +kernel : (set.named.map NamedMessage.name).Nodup)
  have h := mem_cyclicFields_iff_leadsBack hnames
  refine ⟨by decide +kernel, h.1, ?_⟩
  exact h.2 _ (List.reverse_perm _) _ (List.reverse_perm _)

end FileSet

end ProtoSchema
