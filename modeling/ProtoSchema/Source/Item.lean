import ProtoSchema.Source.Spelling

/-!
# Items of source text

The types of a schema are rendered as the items of a source file.  A message
becomes a *record*, a oneof becomes a *choice* with one variant per member, and
an enum becomes an *enumeration*.  What is declared inside a message stands in a
*module* named after the message.

An item holds what is particular to it.  The attributes, the constants and the
conversions that go with every item of its kind are added when it is written.
-/

namespace ProtoSchema

/-! ## Types -/

/-- A type of a field or of a variant. -/
inductive SourceType where
  /-- A type of the language, by its name. -/
  | builtin (name : String)
  | text
  | bytes
  /-- A rendered type, by the way to it. -/
  | path (path : TypePath)
  | optional (item : SourceType)
  | list (item : SourceType)
  /-- A type behind a pointer. -/
  | boxed (item : SourceType)
  | map (key value : SourceType)
deriving Repr, Inhabited

/-- The name of a type, or of a variant, as a path. -/
structure TypeName where
  /-- Whether the path starts at the root of all libraries. -/
  absolute : Bool := false
  /-- The parts of the path. -/
  parts : List String
deriving DecidableEq, Repr, Inhabited

namespace TypeName

/-- A name of the standard library. -/
def standard (parts : List String) : TypeName := ⟨true, "std" :: parts⟩

/-- The type of a value that may be absent. -/
def option : TypeName := standard ["option", "Option"]

/-- The type of a list. -/
def vec : TypeName := standard ["vec", "Vec"]

/-- The type of a value behind a pointer. -/
def box : TypeName := standard ["boxed", "Box"]

/-- The type of a map. -/
def hashMap : TypeName := standard ["collections", "HashMap"]

/-- The type of text. -/
def string : TypeName := standard ["string", "String"]

/-- A part of the name of a variant or of a member. -/
def member (name : TypeName) (part : String) : TypeName :=
  { name with parts := name.parts ++ [part] }

/-- The enum that the surrounding declaration is about. -/
def self : TypeName := { parts := ["Self"] }

end TypeName

/-- How types are written: a name alone, a name with arguments, and the way to a
rendered type. -/
structure TypeWriter (α : Type) where
  /-- A name alone. -/
  alone : TypeName → α
  /-- A name with arguments. -/
  applied : TypeName → List α → α
  /-- The way to a rendered type. -/
  path : TypePath → α

/-- Writes a type. -/
def SourceType.write {α : Type} (writer : TypeWriter α) : SourceType → α
  | builtin name => writer.alone { parts := [name] }
  | text => writer.alone .string
  | bytes => writer.applied .vec [writer.alone { parts := ["u8"] }]
  | path way => writer.path way
  | optional item => writer.applied .option [item.write writer]
  | list item => writer.applied .vec [item.write writer]
  | boxed item => writer.applied .box [item.write writer]
  | map key value => writer.applied .hashMap [key.write writer, value.write writer]

/-- Whether a type can be laid out in lines. -/
def SourceType.hasLines : SourceType → Bool
  | path way => way.hasLines
  | optional item | list item | boxed item => item.hasLines
  | map key value => key.hasLines && value.hasLines
  | _ => true

/-! ## Items -/

/-- A field of a record. -/
structure RecordField where
  /-- The number of the field of the message.  The field for a oneof has none. -/
  number : Option Int32
  /-- Its name. -/
  name : Ident
  /-- Its type. -/
  type : SourceType
deriving Repr, Inhabited

/-- What a message is rendered as. -/
structure RecordItem where
  /-- Its name. -/
  name : Ident
  /-- The full name of the message. -/
  fullName : String
  /-- The fields: those of the message, then one for each oneof. -/
  fields : List RecordField
deriving Repr, Inhabited

/-- A variant of a choice. -/
structure ChoiceVariant where
  /-- Its name. -/
  name : Ident
  /-- The type of what it holds. -/
  type : SourceType
deriving Repr, Inhabited

/-- What a oneof is rendered as. -/
structure ChoiceItem where
  /-- Its name. -/
  name : Ident
  /-- A variant for each member. -/
  variants : List ChoiceVariant
deriving Repr, Inhabited

/-- A variant of an enumeration. -/
structure EnumVariant where
  /-- Its name. -/
  name : Ident
  /-- Its number. -/
  number : Int32
deriving DecidableEq, Repr, Inhabited

/-- A second name for a variant. -/
structure EnumAlias where
  /-- The second name. -/
  name : Ident
  /-- The name of the variant. -/
  target : Ident
deriving DecidableEq, Repr, Inhabited

/-- What an enum is rendered as.  The first variant is the default. -/
structure EnumItem where
  /-- Its name. -/
  name : Ident
  /-- The first variant. -/
  first : EnumVariant
  /-- The variants after the first. -/
  others : List EnumVariant := []
  /-- The values whose number was taken. -/
  aliases : List EnumAlias := []
deriving DecidableEq, Repr, Inhabited

namespace EnumItem

/-- The variants, in the order of declaration. -/
def variants (item : EnumItem) : List EnumVariant := item.first :: item.others

/-- The first variant with a number. -/
def variantOf? (item : EnumItem) (number : Int32) : Option EnumVariant :=
  item.variants.find? fun variant => variant.number == number

/-- Adds a value.  If its number is taken it becomes a second name. -/
def add (item : EnumItem) (value : EnumVariant) : EnumItem :=
  match item.variantOf? value.number with
  | some variant => { item with aliases := item.aliases ++ [⟨value.name, variant.name⟩] }
  | none => { item with others := item.others ++ [value] }

/-- The enumeration of some values. -/
def ofValues (name : Ident) (first : EnumVariant) (rest : List EnumVariant) : EnumItem :=
  rest.foldl add { name, first }

end EnumItem

/-- An item of a source file. -/
inductive Item where
  | record (item : RecordItem)
  | choice (item : ChoiceItem)
  | enumeration (item : EnumItem)
  | module (name : Ident) (items : List Item)
deriving Repr, Inhabited

/-! ## What can be written

The types of fields and variants are not looked at here.  The way to a message was read as
a path when it was made, that to a choice goes by the names of a module and an item, which
are looked at where these are declared, and all other names in types are fixed. -/

/-- Whether a name may be declared.  It must be an identifier, and a reserved word
must be raw. -/
def Ident.mayBeDeclared (ident : Ident) : Bool := isLegal ident.spelling

/-- Whether a name may stand where a thing may also be left without one, which a
single underscore does. -/
def Ident.mayBeOpen (ident : Ident) : Bool := ident.mayBeDeclared || ident.spelling == "_"

/-- Whether the names in a record may stand there. -/
def RecordItem.isWritable (item : RecordItem) : Bool :=
  item.name.mayBeDeclared && item.fields.all fun field => field.name.mayBeOpen

/-- Whether the names in a choice may stand there. -/
def ChoiceItem.isWritable (item : ChoiceItem) : Bool :=
  item.name.mayBeDeclared && item.variants.all fun variant => variant.name.mayBeDeclared

/-- Whether a second name may be that of a constant, and stands for a name that a
variant may have. -/
def EnumAlias.isWritable (second : EnumAlias) : Bool :=
  second.name.mayBeOpen && second.target.mayBeDeclared

/-- Whether the names in an enumeration may stand there. -/
def EnumItem.isWritable (item : EnumItem) : Bool :=
  item.name.mayBeDeclared && (item.variants.all fun variant => variant.name.mayBeDeclared) &&
    item.aliases.all EnumAlias.isWritable

mutual

/-- Whether all names in an item and in those inside it may stand there. -/
def Item.isWritable : Item → Bool
  | .record item => item.isWritable
  | .choice item => item.isWritable
  | .enumeration item => item.isWritable
  | .module name items => name.mayBeDeclared && Item.areWritable items
termination_by structural item => item

/-- Whether all names in several items may stand there. -/
def Item.areWritable : List Item → Bool
  | [] => true
  | item :: rest => item.isWritable && areWritable rest
termination_by structural items => items

end

mutual

/-- Whether an item can be laid out in lines. -/
def Item.hasLines : Item → Bool
  | .record item => item.fields.all fun field => field.type.hasLines
  | .choice item => item.variants.all fun variant => variant.type.hasLines
  | .enumeration _ => true
  | .module _ items => Item.haveLines items
termination_by structural item => item

/-- Whether several items can be laid out in lines. -/
def Item.haveLines : List Item → Bool
  | [] => true
  | item :: rest => item.hasLines && haveLines rest
termination_by structural items => items

end

end ProtoSchema
