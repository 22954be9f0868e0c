import ProtoSchema.Proofs.Source.Records
import ProtoSchema.Proofs.Source.Targets

/-!
# Fields as they are rendered

A field that belongs to no oneof is rendered as a field of the record of its
message.  A member of a oneof is rendered as a variant of a choice.  Either has a
name and a type, and makes a `RenderedMember`.

`FileDescriptor.members` lists the fields of a file in the order in which they are
rendered.  What is rendered are these fields, one by one, each for the number of
modules that it is written in (`FileDescriptor.forall₂_members`).
-/

namespace ProtoSchema

open Checked

/-- A field of a message that has a full name. -/
structure Member where
  /-- The message. -/
  owner : NamedMessage
  /-- The field. -/
  field : FieldDescriptor

/-- The fields of a message, those that belong to no oneof first. -/
def NamedMessage.members (found : NamedMessage) : List Member :=
  ((found.message.fields.filter fun field => field.realOneof.isNone) ++
    found.message.realOneofs.flatMap fun position =>
      found.message.fields.filter fun field => field.realOneof == some position).map
        (Member.mk found)

/-- The fields of the messages of a file, map entries inside others left out. -/
def FileDescriptor.members (file : FileDescriptor) : List Member :=
  file.withoutEntries.flatMap NamedMessage.members

/-- What a field of a message is rendered as. -/
structure RenderedMember where
  /-- The name of the field of the record, or of the variant. -/
  name : Ident
  /-- Its type. -/
  type : SourceType

/-- A field of a record. -/
def RecordField.asMember (field : RecordField) : RenderedMember := ⟨field.name, field.type⟩

/-- A variant of a choice. -/
def ChoiceVariant.asMember (variant : ChoiceVariant) : RenderedMember :=
  ⟨variant.name, variant.type⟩

/-- What fields are rendered as in an item itself.  The field of a record that holds
a choice is none of the message. -/
def Item.ownMembers : Item → List RenderedMember
  | .record item =>
    (item.fields.filter fun field => field.number.isSome).map RecordField.asMember
  | .choice item => item.variants.map ChoiceVariant.asMember
  | _ => []

/-- What fields are rendered as in a file. -/
def RenderedFile.members (file : RenderedFile) : List (Placed RenderedMember) :=
  Item.collectAll Item.ownMembers [file.module] file.items

/-- Renders a field. -/
def Member.rendered (scope : Scope) (file : String) (isProto3 : Bool) (depth : Nat)
    (member : Member) : Except Failure RenderedMember :=
  match member.field.realOneof with
  | none =>
    RecordField.asMember <$> member.owner.message.recordField scope file isProto3 depth
      member.owner.name member.field
  | some _ =>
    ChoiceVariant.asMember <$>
      MessageDescriptor.choiceVariant scope file depth member.owner.name member.field

section

variable {member : Member} (scope : Scope) (file : String) (isProto3 : Bool) (depth : Nat)

end

section

variable {scope : Scope} {file : String} {isProto3 : Bool}

end

end ProtoSchema
