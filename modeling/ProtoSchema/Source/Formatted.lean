import ProtoSchema.Source.Item
import ProtoSchema.Source.Quoted
import ProtoSchema.Text.Layout

/-!
# Source in lines

Source is laid out with one item under the other.  Every attribute, field,
variant, constant and arm has a line of its own, indented by the braces around
it.  A line that is too long is broken inside its outermost brackets first.

An attribute that only documents is written as a comment.  A comma follows every
variant.
-/

namespace ProtoSchema.Formatted

open Layout (Piece body block enclosed level)

/-! ## Types -/

/-- A name as one word. -/
def name (name : TypeName) : String :=
  (if name.absolute then "::" else "") ++ "::".intercalate name.parts

/-- A type. -/
def type : SourceType → List Piece :=
  SourceType.write {
    alone := fun head => [.word (name head)]
    applied := fun head arguments => .word (name head) :: enclosed "<" ">" arguments
    path := fun way => way.spelling.pieces }

/-- A name with one argument that is a name as well. -/
def applied (head : TypeName) (argument : String) : List Piece :=
  .word (name head) :: enclosed "<" ">" [[.word argument]]

/-- A number, with its sign. -/
def number (n : Int32) : String := toString n.toInt

/-! ## Lines -/

/-- A line of one word. -/
def line (text : String) : List Piece := [.word text]

/-- The attribute that derives some traits. -/
def derive (traits : List String) : List Piece :=
  line ("#[derive(" ++ ", ".intercalate traits ++ ")]")

/-- A function and its body, of one line or none.  Its arguments are broken like
items in brackets, but its result stays close to them. -/
def function (header : String) (arguments : List (List Piece)) (result : List Piece)
    (lines : List (List Piece)) : List Piece :=
  let list :=
    match arguments with
    | [] => []
    | arguments =>
      [.gap { fixed := true }, .group 0 true (.gap {} :: Layout.items arguments)]
  block
    (.word (header ++ "(") :: list ++
      [.word ")", .group (-level) true (.word " -> " :: result), .word " "])
    lines

/-- The implementation of a trait for a type. -/
def implementation (trait : List Piece) (type : String) (lines : List (List Piece)) :
    List Piece :=
  block
    [.group (-level) false
      (.word "impl " :: trait ++ [.gap { blanks := 1 }, .word ("for " ++ type)]),
      .word " "]
    lines

/-- An arm of a match.  A result that does not fit is put into braces. -/
def arm (pattern : String) (result : List Piece) : List Piece :=
  [.group 0 false
    [.word (pattern ++ " => "), .gap { fixed := true },
      .group level true
        (.gap { atEnd := some '\x7b' } :: result ++
          [.gap { shift := -level, atStart := "\x7d", joined := some ',' }])]]

/-! ## Items -/

/-- A field of a record, under its comment. -/
def field (field : RecordField) : List (List Piece) :=
  (field.number.map fun n => line s!"/// Field number {number n}.").toList ++
    [.word s!"pub {field.name.spelling}: " :: type field.type ++ [.word ","]]

/-- A record. -/
def record (item : RecordItem) : List (List Piece) :=
  [derive ["Debug", "Clone", "PartialEq", "Default"],
    block (line s!"pub struct {item.name.spelling} ") (item.fields.flatMap field),
    block (line s!"impl {item.name.spelling} ")
      [line "/// Fully-qualified protobuf name of this message.",
        line s!"pub const FULL_NAME: &'static str = {Quoted.encode item.fullName};"]]

/-- A choice. -/
def choice (item : ChoiceItem) : List (List Piece) :=
  [derive ["Debug", "Clone", "PartialEq"],
    block (line s!"pub enum {item.name.spelling} ")
      (item.variants.map fun variant =>
        .word variant.name.spelling :: enclosed "(" ")" [type variant.type] ++ [.word ","])]

/-- A second name for a variant. -/
def secondName (other : EnumAlias) : List Piece :=
  line s!"pub const {other.name.spelling}: Self = Self::{other.target.spelling};"

/-- The arm of a match that leads from a number to its variant. -/
def variantArm (variant : EnumVariant) : List Piece :=
  arm (number variant.number)
    (.word (name (TypeName.option.member "Some")) ::
      enclosed "(" ")" [line (name (TypeName.self.member variant.name.spelling))])

/-- The function that finds the variant with a number. -/
def ofNumber (item : EnumItem) : List Piece :=
  function "pub fn from_i32" [line "value: i32"] (applied .option "Self")
    [block (line "match value ")
      (item.variants.map variantArm ++ [arm "_" (line (name (TypeName.option.member "None")))])]

/-- An enumeration. -/
def enumeration (item : EnumItem) : List (List Piece) :=
  let own := item.name.spelling
  [derive ["Debug", "Clone", "Copy", "PartialEq", "Eq", "Hash"],
    line "#[repr(i32)]",
    block (line s!"pub enum {own} ")
      (item.variants.map fun variant =>
        line s!"{variant.name.spelling} = {number variant.number},"),
    line "#[allow(non_upper_case_globals)]",
    block (line s!"impl {own} ")
      (item.aliases.map secondName ++
        [line "/// The variant with this number, if any.", ofNumber item]),
    implementation (applied (.standard ["convert", "From"]) own) "i32"
      [function "fn from" [line s!"value: {own}"] (line "Self") [line "value as i32"]],
    implementation (line (name (.standard ["default", "Default"]))) own
      [function "fn default" [] (line "Self")
        [line (name (TypeName.self.member item.first.name.spelling))]]]

mutual

/-- The lines of an item. -/
def item : Item → List (List Piece)
  | .record item => record item
  | .choice item => choice item
  | .enumeration item => enumeration item
  | .module name inside => [block (line s!"pub mod {name.spelling} ") (items inside)]
termination_by structural item => item

/-- The lines of several items. -/
def items : List Item → List (List Piece)
  | [] => []
  | first :: rest => item first ++ items rest
termination_by structural items => items

end

/-- The text of several items. -/
def render (list : List Item) : String := Layout.render (items list)

end ProtoSchema.Formatted
