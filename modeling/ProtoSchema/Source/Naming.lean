import ProtoSchema.Host.Path
import ProtoSchema.Source.Ident
import ProtoSchema.Text.FullName
import ProtoSchema.Text.Words

/-!
# Names in source text

Types keep the names they have in the schema.  Fields and modules are written in
snake case, and the variants of enums and oneofs in Pascal case.  A name that
would be a reserved word is written raw, or gets an underscore at its end where
a raw name is not possible.

The types of a file are rendered into a module named after its package, with
underscores for the dots.  A file without a package has a module named after the
file.  What is declared inside a message is rendered into a module named after
the message.
-/

namespace ProtoSchema.Naming

/-- A name that is no bare reserved word. -/
def escape (name : String) : String :=
  if Ident.neverRaw.contains name then name ++ "_"
  else if Ident.reservedWords.contains name then "r#" ++ name
  else name

/-- The name of a type. -/
def typeName (name : String) : String := escape name

/-- The name of a field or of a module. -/
def fieldName (name : String) : String := escape (String.ofList (Words.snake name.toList))

/-- The name of a variant before it is checked: the Pascal case, or a stand-in
for a name of underscores only. -/
def pascalName (name : String) : List Char :=
  match Words.pascal name.toList with
  | [] => "Value".toList
  | chars => chars

/-- The name of a variant, or of the enum of a oneof.  One that would start with
a digit gets an underscore in front. -/
def variantName (name : String) : String :=
  let pascal := pascalName name
  if pascal.head?.any Char.isDigit then String.ofList ('_' :: pascal)
  else typeName (String.ofList pascal)

/-- The module that the types of a file are rendered into. -/
def fileModule (package file : String) : String :=
  if package != "" then Text.replace (· == '.') '_' package
  else
    let stem := (Path.fileStem file).getD "unknown"
    fieldName (Text.replace (fun c => c == '-' || c == '.') '_' stem)

/-- The number of names in a package. -/
def packageDepth (package : String) : Nat :=
  if package == "" then 0 else (Text.pieces '.' package).length

/-- The way from the module of a file to a type declared in it: the module of
each message around the type, and the type. -/
def pathInFile (fullName package : String) : List String :=
  match ((Text.pieces '.' (FullName.bare fullName)).drop (packageDepth package)).reverse with
  | last :: around => around.reverse.map fieldName ++ [typeName last]
  | [] => [typeName (((Text.pieces '.' fullName).getLast?).getD "")]

/-- The way to a type from a module `depth` levels below the root that the
modules of all files share. -/
def pathFrom (depth : Nat) (fullName package file : String) : List String :=
  List.replicate depth "super" ++ fileModule package file :: pathInFile fullName package

end ProtoSchema.Naming
