import ProtoSchema.Collection.Ascending
import ProtoSchema.Descriptor.Basic
import ProtoSchema.Text.FullName

/-!
# References and cycles

A message *refers* to another by a field that holds it once.  A repeated field
holds a list, which has a size of its own, so it does not count, and neither do
the map entries declared inside a message.

A field is *cyclic* when the message it refers to leads back, by any number of
references, to the message that declares the field.  A message laid out by value
would then have to contain itself.

The cyclic fields are found by searches, one from each message.  A search goes on
as long as it does not come back to a message on its own way, and notes the fields
that refer to the message it started from.  With every step further
(`ReferenceGraph.walk`) a message of the graph is put onto the way, of which there
are finitely many.
-/

namespace ProtoSchema

/-- A reference from a message to another. -/
structure Reference where
  /-- The name of the field that refers. -/
  field : String
  /-- The name of the message referred to, as it is written. -/
  target : String
deriving DecidableEq, Repr

/-- The references of each message, by its full name with a dot in front. -/
abbrev ReferenceGraph := NameTable (List Reference)

/-! ## The graph of a set -/

/-- The reference that a field makes, if it makes one. -/
def FieldDescriptor.reference? (field : FieldDescriptor) : Option Reference :=
  if (field.typeKind == some .message || field.typeKind == some .group) &&
      field.labelKind != .repeated then
    match field.name, field.typeName with
    | some name, some target => some ⟨name, target⟩
    | _, _ => none
  else none

mutual

/-- The references of a message and of those inside it.  Below a message
without a name nothing is collected. -/
def MessageDescriptor.references (outer : String) :
    MessageDescriptor → List (String × List Reference)
  | { name := none, .. } => []
  | { name := some name, fields, nested, .. } =>
    let fullName := FullName.inside outer name
    (fullName, fields.filterMap FieldDescriptor.reference?) ::
      MessageDescriptor.referencesInside (FullName.asOuter fullName) nested
termination_by structural message => message

/-- The references of the messages inside another, map entries left out. -/
def MessageDescriptor.referencesInside (outer : String) :
    List MessageDescriptor → List (String × List Reference)
  | [] => []
  | message :: rest =>
    (if message.isMapEntry then [] else message.references outer) ++ referencesInside outer rest
termination_by structural messages => messages

end

/-- The references of every message of a set, file by file. -/
def FileSet.references (set : FileSet) : List (String × List Reference) :=
  set.files.flatMap fun file =>
    file.messages.flatMap fun message => message.references file.typePrefix

/-- The graph of a set.  Of two messages with one name the last counts. -/
def FileSet.referenceGraph (set : FileSet) : ReferenceGraph :=
  set.references.foldl (fun graph (name, references) => graph.insert name references) .empty

/-! ## Cyclic fields -/

/-- A field that leads back to the message that declares it. -/
structure CyclicField where
  /-- The full name of the message, with a dot in front. -/
  message : String
  /-- The name of the field. -/
  field : String
deriving DecidableEq, Repr

namespace ReferenceGraph

/-- How many messages of a graph are not on a way. -/
def offWay (graph : ReferenceGraph) (way : List String) : Nat :=
  graph.entries.countP fun entry => !way.contains entry.1

/-- A message that is put onto a way counts once. -/
theorem offWay_cons_lt {graph : ReferenceGraph} {way : List String} {name : String}
    {references : List Reference} (hfound : graph.find? name = some references)
    (hnew : way.contains name = false) : graph.offWay (name :: way) < graph.offWay way := by
  unfold offWay
  have hfound' : Ascending.find? name graph.entries = some references := hfound
  generalize graph.entries = entries at hfound'
  have hle : ∀ l : List (String × List Reference),
      l.countP (fun entry => !(name :: way).contains entry.1) ≤
        l.countP (fun entry => !way.contains entry.1) := fun l =>
    List.countP_mono_left fun entry _ h => by
      simp only [List.contains_cons, Bool.not_or, Bool.and_eq_true] at h
      exact h.2
  induction entries with
  | nil => simp [Ascending.find?] at hfound'
  | cons entry rest ih =>
    obtain ⟨key, value⟩ := entry
    rw [Ascending.find?] at hfound'
    have hrest := hle rest
    simp only [List.countP_cons]
    split at hfound'
    · next he =>
      subst he
      rw [if_neg (by simp), if_pos (by simpa using hnew)]
      omega
    · next hne =>
      have := ih hfound'
      have hkey : ((name :: way).contains key) = way.contains key := by
        simp only [List.contains_cons, Bool.or_eq_right_iff_imp, beq_iff_eq]
        exact fun h => absurd h.symm hne
      simp only [hkey]
      omega

/-- Follows the references of a message, which stands at the end of a way from the
start of the search.  A reference to the start is noted among the fields that were
found so far.  One to another message on the way is passed over, and any other one
is followed further. -/
def walk (graph : ReferenceGraph) (start : String) (way : List String) (message : String)
    (references : List Reference) (found : List CyclicField) : List CyclicField :=
  references.foldl
    (fun found reference =>
      if reference.target = start then found.insert ⟨message, reference.field⟩
      else if _new : way.contains reference.target then found
      else
        match _next : graph.find? reference.target with
        | none => found
        | some references =>
          walk graph start (reference.target :: way) reference.target references found)
    found
termination_by graph.offWay way
decreasing_by exact offWay_cons_lt _next (by simpa using _new)

/-- The cyclic fields that are found when one message after the other is searched
from. -/
def cyclicFieldsFrom (graph : ReferenceGraph) (starts : List String) : List CyclicField :=
  starts.foldl
    (fun found start => graph.walk start [start] start ((graph.find? start).getD []) found) []

/-- The cyclic fields of a graph. -/
def cyclicFields (graph : ReferenceGraph) : List CyclicField := graph.cyclicFieldsFrom graph.names

/-- Whether a field of a message is cyclic. -/
def isCyclic (graph : ReferenceGraph) (message field : String) : Bool :=
  graph.cyclicFields.contains ⟨message, field⟩

end ReferenceGraph

/-- The cyclic fields of a set. -/
def FileSet.cyclicFields (set : FileSet) : List CyclicField := set.referenceGraph.cyclicFields

end ProtoSchema
