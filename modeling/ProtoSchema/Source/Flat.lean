import ProtoSchema.Source.Item
import ProtoSchema.Source.Quoted

/-!
# Source on one line

Source is written on one line as its words with one blank between them.  A
parenthesis or a square bracket is not a word of its own.  It stands close to
what is inside, while braces keep a blank on either side.

Nothing follows the last variant of an enum.  A comma follows every field and
every arm of a match.
-/

namespace ProtoSchema.Flat

/-! ## Words -/

/-- The words of a name. -/
def name (name : TypeName) : List String :=
  (if name.absolute then ["::"] else []) ++ name.parts.intersperse "::"

/-- The words of a type. -/
def type : SourceType → List String :=
  SourceType.write {
    alone := name
    applied := fun head arguments => name head ++ ["<"] ++ separated "," arguments ++ [">"]
    path := fun way => way.spelling.words }

/-- The words of a number. -/
def number (n : Int32) : List String :=
  if n < 0 then ["-", toString n.toInt.natAbs] else [toString n.toInt]

/-! ## Attributes -/

/-- The words of an attribute. -/
def tag (words : List String) : List String := ["#", brackets words]

/-- The attribute that derives some traits. -/
def derive (traits : List String) : List String :=
  tag ["derive", parens (traits.intersperse ",")]

/-- A documenting comment that goes with every item of its kind. -/
def doc (text : String) : List String := tag ["doc", "=", "r\" " ++ text ++ "\""]

/-- The documenting comment of a field. -/
def fieldDoc : Option Int32 → List String
  | some n => tag ["doc", "=", Quoted.encode s!" Field number {n.toInt}."]
  | none => []

/-! ## Items -/

/-- A function and its body. -/
def function (visibility : List String) (called : String) (arguments result body : List String) :
    List String :=
  visibility ++ ["fn", called, parens arguments, "->"] ++ result ++ [braces body]

/-- The implementation of a trait. -/
def implementation (trait type : List String) (body : List String) : List String :=
  "impl" :: trait ++ "for" :: type ++ [braces body]

/-- A field of a record. -/
def field (field : RecordField) : List String :=
  fieldDoc field.number ++ ["pub", field.name.spelling, ":"] ++ type field.type ++ [","]

/-- A record. -/
def record (item : RecordItem) : List String :=
  derive ["Debug", "Clone", "PartialEq", "Default"] ++
    ["pub", "struct", item.name.spelling, braces (item.fields.flatMap field)] ++
    ["impl", item.name.spelling,
      braces (doc "Fully-qualified protobuf name of this message." ++
        ["pub", "const", "FULL_NAME", ":", "&", "'static", "str", "=",
          Quoted.encode item.fullName, ";"])]

/-- A choice. -/
def choice (item : ChoiceItem) : List String :=
  derive ["Debug", "Clone", "PartialEq"] ++
    ["pub", "enum", item.name.spelling,
      braces (separated "," (item.variants.map fun variant =>
        [variant.name.spelling, parens (type variant.type)]))]

/-- A second name for a variant. -/
def secondName (other : EnumAlias) : List String :=
  ["pub", "const", other.name.spelling, ":", "Self", "="] ++
    name (TypeName.self.member other.target.spelling) ++ [";"]

/-- The arm of a match that leads from a number to its variant. -/
def arm (variant : EnumVariant) : List String :=
  number variant.number ++ ["=>"] ++ name (TypeName.option.member "Some") ++
    [parens (name (TypeName.self.member variant.name.spelling)), ","]

/-- The function that finds the variant with a number. -/
def ofNumber (item : EnumItem) : List String :=
  doc "The variant with this number, if any." ++
    function ["pub"] "from_i32" ["value", ":", "i32"] (name .option ++ ["<", "Self", ">"])
      ["match", "value",
        braces (item.variants.flatMap arm ++
          ["_", "=>"] ++ name (TypeName.option.member "None") ++ [","])]

/-- An enumeration. -/
def enumeration (item : EnumItem) : List String :=
  let own := item.name.spelling
  derive ["Debug", "Clone", "Copy", "PartialEq", "Eq", "Hash"] ++
    tag ["repr", "(i32)"] ++
    ["pub", "enum", own,
      braces (separated "," (item.variants.map fun variant =>
        [variant.name.spelling, "="] ++ number variant.number))] ++
    tag ["allow", "(non_upper_case_globals)"] ++
    ["impl", own, braces (item.aliases.flatMap secondName ++ ofNumber item)] ++
    implementation (name (.standard ["convert", "From"]) ++ ["<", own, ">"]) ["i32"]
      (function [] "from" ["value", ":", own] ["Self"] ["value", "as", "i32"]) ++
    implementation (name (.standard ["default", "Default"])) [own]
      (function [] "default" [] ["Self"] (name (TypeName.self.member item.first.name.spelling)))

mutual

/-- The words of an item. -/
def item : Item → List String
  | .record item => record item
  | .choice item => choice item
  | .enumeration item => enumeration item
  | .module name inside => ["pub", "mod", name.spelling, braces (items inside)]
termination_by structural item => item

/-- The words of several items. -/
def items : List Item → List String
  | [] => []
  | first :: rest => item first ++ items rest
termination_by structural items => items

end

/-- The text of several items. -/
def render (list : List Item) : String := spaced (items list)

end ProtoSchema.Flat
