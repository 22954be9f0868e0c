import Mathlib.Logic.Relation
import ProtoSchema.Proofs.Collection.NameTable
import ProtoSchema.Resolve.Reference

/-!
# What the searches in a graph find

A search from a message finds the fields that refer to the message, of all messages that
it leads to (`ReferenceGraph.mem_walk_iff`).  It finds nothing else, since it follows
references only (`closes_of_mem_walk`).  It goes past no message that is on its way
already, and misses nothing by that.  Where references lead to a message at all, they
lead there without coming back to where they started (`pathOff_cons`), and so from one
message to the next off the way so far (`mem_walk_of_comesTo`).

The searches from all messages together find exactly the fields whose message is reached
from the message that they refer to (`mem_cyclicFields_iff`, `isCyclic_iff`).  References
that lead back to a message stay in a part of the graph that the rest does not refer to,
so such a part tells on its own which of its fields are cyclic (`Ahead.isCyclic_eq`).
-/

namespace ProtoSchema

namespace ReferenceGraph

variable {graph : ReferenceGraph}

/-- Whether a message of a graph refers to a name. -/
def Refers (graph : ReferenceGraph) (source target : String) : Prop :=
  ∃ references, graph.find? source = some references ∧
    ∃ reference ∈ references, reference.target = target

/-- Whether a name is that of a message of a graph. -/
def Has (graph : ReferenceGraph) (name : String) : Prop := (graph.find? name).isSome = true

theorem Refers.has {source target : String} (h : graph.Refers source target) :
    graph.Has source := by
  obtain ⟨references, hfound, -⟩ := h
  exact Option.isSome_iff_exists.mpr ⟨references, hfound⟩

/-- Whether a message of a graph has a reference. -/
def HasReference (graph : ReferenceGraph) (message : String) (reference : Reference) : Prop :=
  ∃ references, graph.find? message = some references ∧ reference ∈ references

theorem HasReference.has {message : String} {reference : Reference}
    (h : graph.HasReference message reference) : graph.Has message := by
  obtain ⟨references, hfound, -⟩ := h
  exact Option.isSome_iff_exists.mpr ⟨references, hfound⟩

theorem HasReference.refers {message : String} {reference : Reference}
    (h : graph.HasReference message reference) : graph.Refers message reference.target := by
  obtain ⟨references, hfound, hreference⟩ := h
  exact ⟨references, hfound, reference, hreference, rfl⟩

/-- What leads to a message of the graph is in the graph. -/
theorem has_of_path {source target : String} (h : Relation.ReflTransGen graph.Refers source target)
    (hhas : graph.Has target) : graph.Has source := by
  rcases Relation.ReflTransGen.cases_head h with rfl | ⟨next, hrefers, -⟩
  · exact hhas
  · exact hrefers.has

/-- Whether a field refers to the start of a search, and its message is one that the
start leads to. -/
structure Closes (graph : ReferenceGraph) (start : String) (found : CyclicField) : Prop where
  reached : Relation.ReflTransGen graph.Refers start found.message
  reference : graph.HasReference found.message ⟨found.field, start⟩

/-! ## One reference at a time -/

section Walk

variable {start : String} {way : List String} {message : String} {reference : Reference}
  {rest : List Reference} {found : List CyclicField}

theorem walk_nil : graph.walk start way message [] found = found := by rw [walk, List.foldl_nil]

/-- A reference to the start is noted. -/
theorem walk_back (hback : reference.target = start) :
    graph.walk start way message (reference :: rest) found =
      graph.walk start way message rest (found.insert ⟨message, reference.field⟩) := by
  rw [walk, List.foldl_cons, if_pos hback, ← walk]

/-- A reference to another message on the way is passed over. -/
theorem walk_old (hback : reference.target ≠ start) (hold : reference.target ∈ way) :
    graph.walk start way message (reference :: rest) found =
      graph.walk start way message rest found := by
  rw [walk, List.foldl_cons, if_neg hback, dif_pos (List.contains_iff_mem.mpr hold), ← walk]

/-- A reference to nothing in the graph is passed over. -/
theorem walk_none (hback : reference.target ≠ start) (hnew : reference.target ∉ way)
    (hnone : graph.find? reference.target = none) :
    graph.walk start way message (reference :: rest) found =
      graph.walk start way message rest found := by
  rw [walk, List.foldl_cons, if_neg hback, dif_neg fun h => hnew (List.contains_iff_mem.mp h),
    ← walk]
  split
  · rfl
  · next hsome => rw [hnone] at hsome; cases hsome

/-- Any other reference is followed further before the rest. -/
theorem walk_some (hback : reference.target ≠ start) (hnew : reference.target ∉ way)
    {references : List Reference} (hfound : graph.find? reference.target = some references) :
    graph.walk start way message (reference :: rest) found =
      graph.walk start way message rest
        (graph.walk start (reference.target :: way) reference.target references found) := by
  rw [walk, List.foldl_cons, if_neg hback, dif_neg fun h => hnew (List.contains_iff_mem.mp h),
    ← walk]
  split
  · next hnone => rw [hfound] at hnone; cases hnone
  · next others hsome =>
    rw [hfound] at hsome
    cases hsome
    rfl

end Walk

/-- What holds of a search holds when it is kept by every step: of the references that are
left to follow there are fewer, or of the messages that are not on the way. -/
theorem walk_induction (graph : ReferenceGraph) (start : String)
    {motive : List String → String → List Reference → List CyclicField → Prop}
    (nil : ∀ way message found, motive way message [] found)
    (back : ∀ way message reference rest found, reference.target = start →
      motive way message rest (found.insert ⟨message, reference.field⟩) →
      motive way message (reference :: rest) found)
    (old : ∀ way message reference rest found, reference.target ≠ start →
      reference.target ∈ way → motive way message rest found →
      motive way message (reference :: rest) found)
    (none : ∀ way message reference rest found, reference.target ≠ start →
      reference.target ∉ way → graph.find? reference.target = none →
      motive way message rest found → motive way message (reference :: rest) found)
    (some : ∀ way message reference rest found, reference.target ≠ start →
      reference.target ∉ way → ∀ references, graph.find? reference.target = some references →
      motive (reference.target :: way) reference.target references found →
      motive way message rest
        (graph.walk start (reference.target :: way) reference.target references found) →
      motive way message (reference :: rest) found)
    (way : List String) (message : String) (references : List Reference)
    (found : List CyclicField) : motive way message references found := by
  induction hoff : graph.offWay way using Nat.strongRecOn
    generalizing way message references found with
  | ind off ihOff =>
    induction references generalizing found with
    | nil => exact nil way message found
    | cons reference rest ih =>
      by_cases hback : reference.target = start
      · exact back _ _ _ _ _ hback (ih _)
      · by_cases hold : reference.target ∈ way
        · exact old _ _ _ _ _ hback hold (ih _)
        · cases hfound : graph.find? reference.target with
          | none => exact none _ _ _ _ _ hback hold hfound (ih _)
          | some references =>
            have hless : graph.offWay (reference.target :: way) < off := by
              rw [← hoff]
              exact offWay_cons_lt hfound (by simpa using hold)
            exact some _ _ _ _ _ hback hold references hfound (ihOff _ hless _ _ _ _ rfl) (ih _)

/-! ## Nothing else is found -/

/-- A search notes fields that refer to its start. -/
theorem closes_of_mem_walk {start : String} {way : List String} {message : String}
    {references : List Reference} {found : List CyclicField}
    (hreached : Relation.ReflTransGen graph.Refers start message)
    (hreferences : ∀ reference ∈ references, graph.HasReference message reference)
    {field : CyclicField} (h : field ∈ graph.walk start way message references found) :
    field ∈ found ∨ graph.Closes start field := by
  induction way, message, references, found using walk_induction graph start with
  | nil way message found =>
    rw [walk_nil] at h
    exact Or.inl h
  | back way message reference rest found hback ih =>
    rw [walk_back hback] at h
    rcases ih hreached (fun other hother => hreferences other (.tail _ hother)) h with
      hmem | hcloses
    · rcases List.mem_insert_iff.mp hmem with rfl | hmem
      · have hhead := hreferences reference (.head _)
        subst hback
        exact Or.inr ⟨hreached, hhead⟩
      · exact Or.inl hmem
    · exact Or.inr hcloses
  | old way message reference rest found hback hold ih =>
    rw [walk_old hback hold] at h
    exact ih hreached (fun other hother => hreferences other (.tail _ hother)) h
  | none way message reference rest found hback hnew hnone ih =>
    rw [walk_none hback hnew hnone] at h
    exact ih hreached (fun other hother => hreferences other (.tail _ hother)) h
  | some way message reference rest found hback hnew references hfound ihInner ihRest =>
    rw [walk_some hback hnew hfound] at h
    rcases ihRest hreached (fun other hother => hreferences other (.tail _ hother)) h with
      hmem | hcloses
    · have hhead := hreferences reference (.head _)
      exact ihInner (hreached.tail hhead.refers)
        (fun other hother => ⟨references, hfound, hother⟩) hmem
    · exact Or.inr hcloses

/-! ## Everything else is found -/

/-- What was found stays. -/
theorem mem_walk_of_mem {start : String} {way : List String} {message : String}
    {references : List Reference} {found : List CyclicField} {field : CyclicField}
    (h : field ∈ found) : field ∈ graph.walk start way message references found := by
  induction way, message, references, found using walk_induction graph start with
  | nil way message found =>
    rw [walk_nil]
    exact h
  | back way message reference rest found hback ih =>
    rw [walk_back hback]
    exact ih (List.mem_insert_of_mem h)
  | old way message reference rest found hback hold ih =>
    rw [walk_old hback hold]
    exact ih h
  | none way message reference rest found hback hnew hnone ih =>
    rw [walk_none hback hnew hnone]
    exact ih h
  | some way message reference rest found hback hnew references hfound ihInner ihRest =>
    rw [walk_some hback hnew hfound]
    exact ihRest (ihInner h)

/-- Whether a message refers to a name that is not on a way. -/
def RefersOff (graph : ReferenceGraph) (way : List String) (source target : String) : Prop :=
  graph.Refers source target ∧ target ∉ way

theorem path_of_pathOff {way : List String} {source target : String}
    (h : Relation.ReflTransGen (graph.RefersOff way) source target) :
    Relation.ReflTransGen graph.Refers source target :=
  Relation.ReflTransGen.mono (fun _ _ => And.left) _ _ h

/-- Where references lead from a message, they lead without coming back to it.  What was
followed before the last time at the message is left out. -/
theorem pathOff_cons {way : List String} {source target : String}
    (h : Relation.ReflTransGen (graph.RefersOff way) source target) :
    Relation.ReflTransGen (graph.RefersOff (source :: way)) source target := by
  induction h with
  | refl => exact .refl
  | @tail middle next _ hrefers ih =>
    by_cases hback : next = source
    · rw [hback]
    · exact ih.tail ⟨hrefers.1, by simpa [hback] using hrefers.2⟩

/-- Whether a search that still has some references of a message to follow comes to a
field: it is one of these, or it is reached by one of these off the way. -/
def ComesTo (graph : ReferenceGraph) (start : String) (way : List String) (message : String)
    (references : List Reference) (field : CyclicField) : Prop :=
  (field.message = message ∧ ⟨field.field, start⟩ ∈ references) ∨
    ∃ reference ∈ references, reference.target ∉ way ∧
      Relation.ReflTransGen (graph.RefersOff way) reference.target field.message

/-- The first of several references is the field itself, or it leads on to it, or the search
comes to the field by a later one. -/
theorem ComesTo.cases_cons {start : String} {way : List String} {message : String}
    {reference : Reference} {rest : List Reference} {field : CyclicField}
    (h : graph.ComesTo start way message (reference :: rest) field) :
    (field.message = message ∧ reference = ⟨field.field, start⟩) ∨
      (reference.target ∉ way ∧
        Relation.ReflTransGen (graph.RefersOff way) reference.target field.message) ∨
      graph.ComesTo start way message rest field := by
  rcases h with ⟨hmessage, hreference⟩ | ⟨other, hother, hpath⟩
  · rcases List.mem_cons.mp hreference with heq | hreference
    · exact Or.inl ⟨hmessage, heq.symm⟩
    · exact Or.inr (Or.inr (Or.inl ⟨hmessage, hreference⟩))
  · rcases List.mem_cons.mp hother with rfl | hother
    · exact Or.inr (Or.inl hpath)
    · exact Or.inr (Or.inr (Or.inr ⟨other, hother, hpath⟩))

/-- A search comes to the fields that refer to its start, as far as their messages are
reached off the way. -/
theorem comesTo_of_pathOff {start : String} {way : List String} {message : String}
    {references : List Reference} (hfound : graph.find? message = some references)
    {field : CyclicField} (hfield : graph.HasReference field.message ⟨field.field, start⟩)
    (hpath : Relation.ReflTransGen (graph.RefersOff way) message field.message) :
    graph.ComesTo start way message references field := by
  rcases Relation.ReflTransGen.cases_head hpath with heq | ⟨next, hrefers, hpath⟩
  · obtain ⟨others, hothers, hreference⟩ := hfield
    rw [← heq, hfound] at hothers
    cases hothers
    exact Or.inl ⟨heq.symm, hreference⟩
  · obtain ⟨⟨others, hothers, reference, hreference, rfl⟩, hnew⟩ := hrefers
    rw [hfound] at hothers
    cases hothers
    exact Or.inr ⟨reference, hreference, hnew, hpath⟩

/-- A search finds the fields that it comes to. -/
theorem mem_walk_of_comesTo {start : String} {way : List String} {message : String}
    {references : List Reference} {found : List CyclicField} (hstart : start ∈ way)
    {field : CyclicField} (hfield : graph.HasReference field.message ⟨field.field, start⟩)
    (h : graph.ComesTo start way message references field) :
    field ∈ graph.walk start way message references found := by
  induction way, message, references, found using walk_induction graph start with
  | nil way message found =>
    rcases h with ⟨-, hreference⟩ | ⟨reference, hreference, -⟩
    · cases hreference
    · cases hreference
  | back way message reference rest found hback ih =>
    rw [walk_back hback]
    rcases h.cases_cons with ⟨rfl, rfl⟩ | ⟨hnew, -⟩ | hrest
    · exact mem_walk_of_mem (List.mem_insert_self ..)
    · exact absurd (hback ▸ hstart) hnew
    · exact ih hstart hrest
  | old way message reference rest found hback hold ih =>
    rw [walk_old hback hold]
    rcases h.cases_cons with ⟨-, rfl⟩ | ⟨hnew, -⟩ | hrest
    · exact absurd rfl hback
    · exact absurd hold hnew
    · exact ih hstart hrest
  | none way message reference rest found hback hnew hnone ih =>
    rw [walk_none hback hnew hnone]
    rcases h.cases_cons with ⟨-, rfl⟩ | ⟨-, hpath⟩ | hrest
    · exact absurd rfl hback
    · -- A name that is not in the graph leads nowhere.
      have hhas := has_of_path (path_of_pathOff hpath) hfield.has
      rw [Has, hnone] at hhas
      cases hhas
    · exact ih hstart hrest
  | some way message reference rest found hback hnew references hfound ihInner ihRest =>
    rw [walk_some hback hnew hfound]
    rcases h.cases_cons with ⟨-, rfl⟩ | ⟨-, hpath⟩ | hrest
    · exact absurd rfl hback
    · refine mem_walk_of_mem (ihInner (.tail _ hstart) ?_)
      exact comesTo_of_pathOff hfound hfield (pathOff_cons hpath)
    · exact ihRest hstart hrest

/-! ## What is found -/

/-- A search from a message finds the fields that refer to it, of all messages that it
leads to. -/
theorem mem_walk_iff {start : String} {found : List CyclicField} {field : CyclicField} :
    field ∈ graph.walk start [start] start ((graph.find? start).getD []) found ↔
      field ∈ found ∨ graph.Closes start field := by
  constructor
  · refine closes_of_mem_walk .refl fun reference hreference => ?_
    cases hfound : graph.find? start with
    | none =>
      rw [hfound] at hreference
      cases hreference
    | some references =>
      rw [hfound] at hreference
      exact ⟨references, hfound, hreference⟩
  · rintro (hmem | ⟨hreached, hfield⟩)
    · exact mem_walk_of_mem hmem
    · obtain ⟨references, hfound⟩ :=
        Option.isSome_iff_exists.mp (has_of_path hreached hfield.has)
      rw [hfound, Option.getD_some]
      have hpath : Relation.ReflTransGen (graph.RefersOff []) start field.message :=
        Relation.ReflTransGen.mono (fun _ _ h => ⟨h, List.not_mem_nil⟩) _ _ hreached
      exact mem_walk_of_comesTo (.head _) hfield
        (comesTo_of_pathOff hfound hfield (pathOff_cons hpath))

/-- Searches from some messages find the fields that refer to one of these, of all
messages that it leads to. -/
theorem mem_cyclicFieldsFrom_iff {starts : List String} {field : CyclicField} :
    field ∈ graph.cyclicFieldsFrom starts ↔ ∃ start ∈ starts, graph.Closes start field := by
  have hfold : ∀ found : List CyclicField,
      field ∈ starts.foldl (fun found start =>
          graph.walk start [start] start ((graph.find? start).getD []) found) found ↔
        field ∈ found ∨ ∃ start ∈ starts, graph.Closes start field := by
    induction starts with
    | nil => simp
    | cons start starts ih =>
      intro found
      rw [List.foldl_cons, ih, mem_walk_iff, or_assoc]
      simp only [List.mem_cons, exists_eq_or_imp]
  rw [cyclicFieldsFrom, hfold]
  exact or_iff_right List.not_mem_nil

/-- The cyclic fields are those whose message is reached from the message that they refer
to. -/
theorem mem_cyclicFields_iff {field : CyclicField} :
    field ∈ graph.cyclicFields ↔
      ∃ target, graph.HasReference field.message ⟨field.field, target⟩ ∧
        Relation.ReflTransGen graph.Refers target field.message := by
  rw [cyclicFields, mem_cyclicFieldsFrom_iff]
  constructor
  · rintro ⟨start, -, hreached, hfield⟩
    exact ⟨start, hfield, hreached⟩
  · rintro ⟨start, hfield, hreached⟩
    exact ⟨start, NameTable.mem_names_iff.mpr (has_of_path hreached hfield.has), hreached, hfield⟩

/-- A field is cyclic when references lead from the message it refers to back to
the message that declares it. -/
theorem isCyclic_iff {message field : String} :
    graph.isCyclic message field = true ↔
      ∃ references, graph.find? message = some references ∧
        ∃ reference ∈ references, reference.field = field ∧
          Relation.ReflTransGen graph.Refers reference.target message := by
  rw [isCyclic, List.contains_iff_mem, mem_cyclicFields_iff]
  constructor
  · rintro ⟨target, ⟨references, hfound, hreference⟩, hpath⟩
    exact ⟨references, hfound, ⟨field, target⟩, hreference, rfl, hpath⟩
  · rintro ⟨references, hfound, reference, hreference, rfl, hpath⟩
    exact ⟨reference.target, ⟨references, hfound, hreference⟩, hpath⟩

/-! ## Parts of a graph -/

/-- Whether a graph is the part of another that comes before the rest of it: the part may
refer to the rest, and the rest does not refer to the part. -/
structure Ahead (part whole : ReferenceGraph) : Prop where
  /-- The messages of the part are in the whole, with their references. -/
  find : ∀ name references, part.find? name = some references →
    whole.find? name = some references
  /-- Only the part refers to the part. -/
  refers : ∀ source target, whole.Refers source target → part.Has target → part.Has source

namespace Ahead

variable {part whole : ReferenceGraph}

theorem refers_whole (h : part.Ahead whole) {source target : String}
    (hrefers : part.Refers source target) : whole.Refers source target := by
  obtain ⟨references, hfound, hreference⟩ := hrefers
  exact ⟨references, h.find source references hfound, hreference⟩

theorem refers_part (h : part.Ahead whole) {source target : String}
    (hrefers : whole.Refers source target) (hhas : part.Has source) :
    part.Refers source target := by
  obtain ⟨references, hfound⟩ := Option.isSome_iff_exists.mp hhas
  obtain ⟨others, hothers, hreference⟩ := hrefers
  rw [h.find source references hfound] at hothers
  cases hothers
  exact ⟨references, hfound, hreference⟩

/-- References that lead to a message of the part never leave the part.  They are followed
from their end, for only the end is known to be in the part. -/
theorem path_part (h : part.Ahead whole) {start name : String}
    (hpath : Relation.ReflTransGen whole.Refers start name) (hhas : part.Has name) :
    Relation.ReflTransGen part.Refers start name := by
  have hstays : part.Has start ∧ Relation.ReflTransGen part.Refers start name := by
    induction hpath using Relation.ReflTransGen.head_induction_on with
    | refl => exact ⟨hhas, .refl⟩
    | head hrefers _ ih =>
      have hsource := h.refers _ _ hrefers ih.1
      exact ⟨hsource, .head (h.refers_part hrefers hsource) ih.2⟩
  exact hstays.2

/-- A field of a message of the part is cyclic in the part when it is in the whole. -/
theorem isCyclic_eq (h : part.Ahead whole) {message : String} (hhas : part.Has message)
    (field : String) : whole.isCyclic message field = part.isCyclic message field := by
  obtain ⟨references, hfound⟩ := Option.isSome_iff_exists.mp hhas
  have hwhole := h.find message references hfound
  rw [Bool.eq_iff_iff, isCyclic_iff, isCyclic_iff]
  constructor
  · rintro ⟨others, hothers, reference, hreference, hfield, hpath⟩
    rw [hwhole] at hothers
    cases hothers
    exact ⟨references, hfound, reference, hreference, hfield, h.path_part hpath hhas⟩
  · rintro ⟨others, hothers, reference, hreference, hfield, hpath⟩
    exact ⟨others, h.find message others hothers, reference, hreference, hfield,
      Relation.ReflTransGen.mono (fun _ _ => h.refers_whole) _ _ hpath⟩

end Ahead

end ReferenceGraph

end ProtoSchema
