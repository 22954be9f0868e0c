import ProtoSchema.Proofs.Descriptor.RecordOrder

/-!
# What is in a descriptor

The *outline* of a descriptor lists what is present in it: one part for a number or a truth
value, one for a text, and one for a message inside, with its own outline.  An absent field
and an empty list have no part.

Three measures are read off an outline.  Its weight counts two for each part at any depth,
and for a text its size in UTF-8 besides.  So there are at most half as many parts as it
weighs, and a part inside another inside another, and so on, is at most half as deep
(`Outline.two_mul_le_weightOf`).
-/

namespace ProtoSchema

/-! ## Outlines -/

/-- A part of a descriptor. -/
inductive Outline where
  /-- A number or a truth value. -/
  | scalar
  /-- Text that has so many bytes in UTF-8. -/
  | text (size : Nat)
  /-- A message inside, with its parts. -/
  | message (parts : List Outline)

namespace Outline

mutual

/-- Two for the part itself, and what is in it. -/
def weight : Outline → Nat
  | scalar => 2
  | text size => 2 + size
  | message parts => 2 + weightOf parts
termination_by structural part => part

/-- The weight of some parts. -/
def weightOf : List Outline → Nat
  | [] => 0
  | part :: rest => part.weight + weightOf rest
termination_by structural parts => parts

end

mutual

/-- The number of parts in a part, itself included. -/
def count : Outline → Nat
  | scalar | text _ => 1
  | message parts => 1 + countOf parts
termination_by structural part => part

/-- The number of parts at any depth. -/
def countOf : List Outline → Nat
  | [] => 0
  | part :: rest => part.count + countOf rest
termination_by structural parts => parts

end

mutual

/-- How many parts lie in one another, this one being the outermost. -/
def depth : Outline → Nat
  | scalar | text _ => 1
  | message parts => 1 + depthOf parts
termination_by structural part => part

/-- The depth of the deepest of some parts. -/
def depthOf : List Outline → Nat
  | [] => 0
  | part :: rest => max part.depth (depthOf rest)
termination_by structural parts => parts

end

mutual

/-- Every part has its weight, and so has every level. -/
theorem two_mul_le_weight : (part : Outline) →
    2 * part.count ≤ part.weight ∧ 2 * part.depth ≤ part.weight
  | scalar => by simp [count, depth, weight]
  | text size => by simp [count, depth, weight]
  | message parts => by
    obtain ⟨hcount, hdepth⟩ := two_mul_le_weightOf parts
    simp [count, depth, weight]
    omega
termination_by structural part => part

theorem two_mul_le_weightOf : (parts : List Outline) →
    2 * countOf parts ≤ weightOf parts ∧ 2 * depthOf parts ≤ weightOf parts
  | [] => by simp [countOf, depthOf]
  | part :: rest => by
    obtain ⟨hcount, hdepth⟩ := two_mul_le_weight part
    obtain ⟨hrest, hdeepest⟩ := two_mul_le_weightOf rest
    simp [countOf, depthOf, weightOf]
    omega
termination_by structural parts => parts

end

/-! ## Parts of fields -/

/-- The part of a number or a truth value. -/
def ofScalar {α : Type} (value : Option α) : List Outline := value.toList.map fun _ => scalar

/-- The parts of texts. -/
def ofTexts (texts : List String) : List Outline := texts.map fun text => .text text.utf8ByteSize

/-- The parts of messages inside, given what is in each. -/
def ofMessages {α : Type} (parts : α → List Outline) (values : List α) : List Outline :=
  values.map fun value => message (parts value)

variable {α : Type}

@[simp] theorem weightOf_nil : weightOf [] = 0 := rfl

@[simp] theorem weightOf_append (first second : List Outline) :
    weightOf (first ++ second) = weightOf first + weightOf second := by
  induction first with
  | nil => simp
  | cons part rest ih =>
    simp [weightOf, ih]
    omega

@[simp] theorem weightOf_ofScalar_some (value : α) : weightOf (ofScalar (some value)) = 2 := rfl

@[simp] theorem weightOf_ofTexts_singleton (text : String) :
    weightOf (ofTexts [text]) = 2 + text.utf8ByteSize := rfl

@[simp] theorem weightOf_ofMessages_singleton (parts : α → List Outline) (value : α) :
    weightOf (ofMessages parts [value]) = 2 + weightOf (parts value) := rfl

@[simp] theorem ofTexts_append (first second : List String) :
    ofTexts (first ++ second) = ofTexts first ++ ofTexts second :=
  List.map_append

@[simp] theorem ofMessages_append (parts : α → List Outline) (first second : List α) :
    ofMessages parts (first ++ second) = ofMessages parts first ++ ofMessages parts second :=
  List.map_append

end Outline

open Outline (ofScalar ofTexts ofMessages)

/-! ## Parts of descriptors -/

/-- What is in a value of an enum. -/
@[simp]
def EnumValueDescriptor.parts (value : EnumValueDescriptor) : List Outline :=
  ofTexts value.name.toList ++ ofScalar value.number

/-- What is in an enum. -/
@[simp]
def EnumDescriptor.parts (enum : EnumDescriptor) : List Outline :=
  ofTexts enum.name.toList ++ ofMessages EnumValueDescriptor.parts enum.values

/-- What is in a field. -/
@[simp]
def FieldDescriptor.parts (field : FieldDescriptor) : List Outline :=
  ofTexts field.name.toList ++ ofScalar field.number ++ ofScalar field.label ++
    ofScalar field.type ++ ofTexts field.typeName.toList ++ ofTexts field.defaultText.toList ++
    ofScalar field.oneofIndex ++ ofTexts field.jsonName.toList ++ ofScalar field.proto3Optional

/-- What is in a oneof. -/
@[simp]
def OneofDescriptor.parts (oneof : OneofDescriptor) : List Outline :=
  ofTexts oneof.name.toList

/-- What is in the options of a message. -/
@[simp]
def MessageOptions.parts (options : MessageOptions) : List Outline :=
  ofScalar options.mapEntry

mutual

/-- What is in a message. -/
def MessageDescriptor.parts : MessageDescriptor → List Outline
  | { name, fields, nested, enums, options, oneofs } =>
    ofTexts name.toList ++ ofMessages FieldDescriptor.parts fields ++
      MessageDescriptor.partsInside nested ++ ofMessages EnumDescriptor.parts enums ++
      ofMessages MessageOptions.parts options.toList ++ ofMessages OneofDescriptor.parts oneofs
termination_by structural message => message

/-- The parts of the messages inside another. -/
def MessageDescriptor.partsInside : List MessageDescriptor → List Outline
  | [] => []
  | message :: rest => .message message.parts :: partsInside rest
termination_by structural messages => messages

end

theorem MessageDescriptor.partsInside_eq (nested : List MessageDescriptor) :
    partsInside nested = ofMessages parts nested := by
  induction nested with
  | nil => rfl
  | cons message rest ih => simp [partsInside, ih, ofMessages]

@[simp] theorem MessageDescriptor.parts_eq (message : MessageDescriptor) :
    message.parts = ofTexts message.name.toList ++
      ofMessages FieldDescriptor.parts message.fields ++
      ofMessages MessageDescriptor.parts message.nested ++
      ofMessages EnumDescriptor.parts message.enums ++
      ofMessages MessageOptions.parts message.options.toList ++
      ofMessages OneofDescriptor.parts message.oneofs := by
  cases message
  simp [parts, partsInside_eq]

/-- What is in a file. -/
@[simp]
def FileDescriptor.parts (file : FileDescriptor) : List Outline :=
  ofTexts file.name.toList ++ ofTexts file.package.toList ++ ofTexts file.dependencies ++
    ofMessages MessageDescriptor.parts file.messages ++
    ofMessages EnumDescriptor.parts file.enums ++ ofTexts file.dialect.toList

/-- What is in a set of files. -/
@[simp]
def FileSet.parts (set : FileSet) : List Outline := ofMessages FileDescriptor.parts set.files

namespace DescriptorKind

/-- What is in a descriptor. -/
@[simp]
def parts : (kind : DescriptorKind) → kind.Value → List Outline
  | set => FileSet.parts
  | file => FileDescriptor.parts
  | message => MessageDescriptor.parts
  | field => FieldDescriptor.parts
  | enum => EnumDescriptor.parts
  | enumValue => EnumValueDescriptor.parts
  | oneof => OneofDescriptor.parts
  | options => MessageOptions.parts

/-- What a descriptor weighs. -/
@[simp]
def weight (kind : DescriptorKind) (d : kind.Value) : Nat := Outline.weightOf (kind.parts d)

/-- Nothing is in a descriptor that nothing was read into. -/
theorem weight_blank (kind : DescriptorKind) : kind.weight kind.blank = 0 := by
  cases kind <;> rfl

end DescriptorKind

end ProtoSchema
