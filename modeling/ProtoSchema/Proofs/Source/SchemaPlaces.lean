import ProtoSchema.Proofs.Resolve.References
import ProtoSchema.Source.Naming

/-!
# Places in a schema

A type is declared beside the other types of a file, or inside a message.  Its
`SchemaPlace` is the package and the module of the file and the names of the messages
around it.  What stands in front of its full name follows from the place, and so do
the modules that it is rendered into.

`FileDescriptor.surrounded` lists the messages of a file in their places, map entries
inside others left out.  These are the messages of `FileDescriptor.withoutEntries`.
-/

namespace ProtoSchema

/-- Where types are declared: in a file, or inside messages of it. -/
@[ext]
structure SchemaPlace where
  /-- The package of the file. -/
  package : String
  /-- The module of the file. -/
  module : String
  /-- The names of the messages around it, the outermost first. -/
  around : List String := []
deriving DecidableEq, Repr

namespace SchemaPlace

/-- The inside of a message that is declared in a place. -/
def inside (place : SchemaPlace) (name : String) : SchemaPlace :=
  { place with around := place.around ++ [name] }

/-- What stands in front of the names that are declared in a place. -/
def outer (place : SchemaPlace) : String :=
  place.around.foldl (fun outer name => FullName.asOuter (FullName.inside outer name))
    (FileDescriptor.typePrefix { package := some place.package })

/-- The modules around what is rendered for a place. -/
def modules (place : SchemaPlace) : List String :=
  place.module :: place.around.map Naming.fieldName

theorem outer_inside (place : SchemaPlace) (name : String) :
    (place.inside name).outer = FullName.asOuter (FullName.inside place.outer name) :=
  List.foldl_concat ..

theorem modules_inside (place : SchemaPlace) (name : String) :
    (place.inside name).modules = place.modules ++ [Naming.fieldName name] :=
  congrArg (place.module :: ·) List.map_append

end SchemaPlace

/-- A message that has a name, in its place. -/
structure SurroundedMessage where
  /-- The place. -/
  place : SchemaPlace
  /-- The name. -/
  name : String
  /-- The message. -/
  message : MessageDescriptor

namespace SurroundedMessage

/-- The message with its full name. -/
def named (found : SurroundedMessage) : NamedMessage :=
  ⟨FullName.inside found.place.outer found.name, found.message⟩

/-- The inside of the message. -/
def inside (found : SurroundedMessage) : SchemaPlace := found.place.inside found.name

theorem outer_inside (found : SurroundedMessage) :
    found.inside.outer = FullName.asOuter found.named.name :=
  found.place.outer_inside found.name

end SurroundedMessage

mutual

/-- A message and those inside it, in their places.  Map entries inside a message are
left out. -/
def MessageDescriptor.surrounded (place : SchemaPlace) :
    MessageDescriptor → List SurroundedMessage
  | { name := none, .. } => []
  | message@{ name := some ownName, nested, .. } =>
    ⟨place, ownName, message⟩ :: surroundedInside (place.inside ownName) nested
termination_by structural message => message

/-- The messages inside another and those inside them, map entries left out. -/
def MessageDescriptor.surroundedInside (place : SchemaPlace) :
    List MessageDescriptor → List SurroundedMessage
  | [] => []
  | message :: rest =>
    (if message.isMapEntry then [] else message.surrounded place) ++ surroundedInside place rest
termination_by structural messages => messages

end

namespace FileDescriptor

/-- The place of the types of a file. -/
def place (file : FileDescriptor) (module : String) : SchemaPlace where
  package := file.packageName
  module

/-- The messages of a file in their places, map entries inside others left out. -/
def surrounded (file : FileDescriptor) (module : String) : List SurroundedMessage :=
  file.messages.flatMap (MessageDescriptor.surrounded (file.place module))

theorem outer_place (file : FileDescriptor) (module : String) :
    (file.place module).outer = file.typePrefix := rfl

end FileDescriptor

namespace MessageDescriptor

theorem surroundedInside_eq_flatMap (place : SchemaPlace) (messages : List MessageDescriptor) :
    surroundedInside place messages =
      (messages.filter fun message => !message.isMapEntry).flatMap (surrounded place) :=
  eq_flatMap_of_entriesLeftOut rfl (fun _ _ => rfl) messages

theorem surrounded_of_name_eq_none {place : SchemaPlace} {message : MessageDescriptor}
    (h : message.name = none) : message.surrounded place = [] := by
  cases message
  cases h
  rfl

theorem surrounded_of_name_eq_some {place : SchemaPlace} {ownName : String}
    {message : MessageDescriptor} (h : message.name = some ownName) :
    message.surrounded place =
      ⟨place, ownName, message⟩ ::
        (message.nested.filter fun inner => !inner.isMapEntry).flatMap
          (surrounded (place.inside ownName)) := by
  cases message
  cases h
  rw [surrounded, surroundedInside_eq_flatMap]

/-- These are the messages that are no map entries. -/
theorem map_named_surrounded (place : SchemaPlace) (message : MessageDescriptor) :
    (message.surrounded place).map SurroundedMessage.named =
      message.withoutEntries place.outer := by
  induction message using nesting generalizing place with
  | step message ih =>
    cases hname : message.name with
    | none =>
      rw [surrounded_of_name_eq_none hname, withoutEntries_of_name_eq_none hname]
      rfl
    | some ownName =>
      rw [surrounded_of_name_eq_some hname, withoutEntries_of_name_eq_some hname, List.map_cons,
        List.map_flatMap, ← SchemaPlace.outer_inside]
      refine congrArg _ (List.flatMap_congr fun inner hinner => ?_)
      exact ih inner (List.mem_of_mem_filter hinner) _

/-- A message has the name that it is listed with. -/
theorem name_of_mem_surrounded {place : SchemaPlace} {message : MessageDescriptor}
    {found : SurroundedMessage} (h : found ∈ message.surrounded place) :
    found.message.name = some found.name := by
  induction message using nesting generalizing place with
  | step message ih =>
    cases hname : message.name with
    | none =>
      rw [surrounded_of_name_eq_none hname] at h
      cases h
    | some ownName =>
      rw [surrounded_of_name_eq_some hname] at h
      rcases List.mem_cons.mp h with rfl | h
      · exact hname
      · obtain ⟨inner, hinner, h⟩ := List.mem_flatMap.mp h
        exact ih inner (List.mem_of_mem_filter hinner) h

end MessageDescriptor

theorem FileDescriptor.map_named_surrounded (file : FileDescriptor) (module : String) :
    (file.surrounded module).map SurroundedMessage.named = file.withoutEntries := by
  rw [surrounded, List.map_flatMap, withoutEntries, ← file.outer_place module]
  exact List.flatMap_congr fun message _ => message.map_named_surrounded _

theorem FileDescriptor.mem_allMessages_of_mem_surrounded {file : FileDescriptor} {module : String}
    {found : SurroundedMessage} (h : found ∈ file.surrounded module) :
    found.message ∈ file.allMessages ∧ found.message.name = some found.name := by
  have hnamed := List.mem_map_of_mem (f := SurroundedMessage.named) h
  rw [file.map_named_surrounded] at hnamed
  obtain ⟨message, -, h⟩ := List.mem_flatMap.mp h
  exact ⟨file.mem_allMessages_of_mem_named (mem_named_of_mem_withoutEntries hnamed),
    MessageDescriptor.name_of_mem_surrounded h⟩

end ProtoSchema
