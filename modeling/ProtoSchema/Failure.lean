import ProtoSchema.Wire.Error

/-!
# What can go wrong

Every operation of the library that can fail answers with a `Failure`.  A
failure says what was wrong with the input, and `Failure.message` puts it into
words.
-/

namespace ProtoSchema

/-- What is missing from a descriptor, or is wrong in it. -/
inductive DescriptorFault where
  /-- A file has no name. -/
  | unnamedFile
  /-- A message has no name. -/
  | unnamedMessage (file : String)
  /-- A field has no name. -/
  | unnamedField (file : String)
  /-- A field has no number, or one that is not positive. -/
  | badNumber (field file : String)
  /-- A field has no type, or one that does not exist. -/
  | unknownType (field file : String) (number : Int32)
  /-- A field refers to a message or an enum without saying which. -/
  | missingReference (field file : String)
  /-- The default of a field cannot be read. -/
  | badDefault (field file text : String)
  /-- A oneof has no name. -/
  | unnamedOneof (message : String)
  /-- An enum has no name. -/
  | unnamedEnum (file : String)
  /-- A value of an enum lacks its name or its number. -/
  | incompleteValue (enum file : String)
  /-- An enum has no values. -/
  | emptyEnum (enum file : String)
  /-- A map entry lacks the field for its keys or the one for its values. -/
  | incompleteMapEntry (entry file : String)
deriving DecidableEq, Repr, Inhabited

/-- The wording of a fault. -/
def DescriptorFault.message : DescriptorFault → String
  | unnamedFile => "file descriptor without a name"
  | unnamedMessage file => s!"unnamed message in '{file}'"
  | unnamedField file => s!"unnamed field in '{file}'"
  | badNumber field file => s!"field '{field}' in '{file}' has no valid number"
  | unknownType field file number => s!"field '{field}' in '{file}' has unknown type {number}"
  | missingReference field file => s!"field '{field}' in '{file}' references a type but names none"
  | badDefault field file text => s!"field '{field}' in '{file}' has unparseable default '{text}'"
  | unnamedOneof message => s!"unnamed oneof in '{message}'"
  | unnamedEnum file => s!"unnamed enum in '{file}'"
  | incompleteValue enum file => s!"enum '{enum}' in '{file}' has an incomplete value"
  | emptyEnum enum file => s!"enum '{enum}' in '{file}' has no values"
  | incompleteMapEntry entry file => s!"map entry '{entry}' in '{file}' lacks key or value"

/-- Why the host refused to open a file or to start a program. -/
inductive HostFault where
  | notFound
  | denied
  /-- A file stands where a directory is needed. -/
  | notDirectory
  /-- A file is executable and no program. -/
  | notProgram
  /-- A program is run by another one, which is run by another one, and so on. -/
  | tooManyLevels
  /-- A path, or one name in it, is longer than the host allows. -/
  | nameTooLong
  /-- An argument is longer than the host allows. -/
  | argumentTooLong
  /-- A path holds the character zero, which ends it for the host. -/
  | zeroInPath
  /-- A command or an argument holds the character zero. -/
  | zeroInArgument
deriving DecidableEq, Repr, Inhabited

/-- The wording of a refusal. -/
def HostFault.message : HostFault → String
  | notFound => "No such file or directory (os error 2)"
  | denied => "Permission denied (os error 13)"
  | notDirectory => "Not a directory (os error 20)"
  | notProgram => "Exec format error (os error 8)"
  | tooManyLevels => "Too many levels of symbolic links (os error 40)"
  | nameTooLong => "File name too long (os error 36)"
  | argumentTooLong => "Argument list too long (os error 7)"
  | zeroInPath => "file name contained an unexpected NUL byte"
  | zeroInArgument => "nul byte found in provided data"

/-- How running the schema compiler failed. -/
inductive CompilerFault where
  /-- No executable file answers to the command. -/
  | notExecutable (command : String)
  /-- The compiler ran and reported failure. -/
  | exited (status : Nat) (printed : String)
  /-- The compiler could not be started. -/
  | notStarted (program : String) (fault : HostFault)
deriving DecidableEq, Repr, Inhabited

namespace CompilerFault

/-- The wording of a fault.  A compiler that ran is quoted by its status alone. -/
def message : CompilerFault → String
  | notExecutable command => s!"could not find executable: {command}"
  | exited status _ => s!"{status}"
  | notStarted program fault => s!"failed to launch '{program}': {fault.message}"

/-- The exit status, if the compiler ran. -/
def status? : CompilerFault → Option Nat
  | exited status _ => some status
  | _ => none

/-- What the compiler printed, if it ran. -/
def printed? : CompilerFault → Option String
  | exited _ printed => some printed
  | _ => none

end CompilerFault

/-- Why an operation failed. -/
inductive Failure where
  /-- There is nothing to compile. -/
  | noInputs
  /-- The schema compiler failed. -/
  | compiler (fault : CompilerFault)
  /-- An encoded set of files is damaged. -/
  | decode (fault : DecodeError)
  /-- A file imports one that is nowhere to be found. -/
  | unresolvedDependency (file dependency : String)
  /-- A field refers to a type that is nowhere to be found. -/
  | unresolvedType (file typeName : String)
  /-- A descriptor is incomplete. -/
  | descriptor (fault : DescriptorFault)
  /-- No message of this name is loaded. -/
  | unknownMessage (name : String)
  /-- A message has no field of this name. -/
  | unknownField (message field : String)
  /-- A value does not fit a field. -/
  | mismatch (field expected found : String)
  /-- A field that holds a message is not set, and has no default to show. -/
  | noDefault (field message : String)
  /-- The path to a type cannot be written in source text. -/
  | badTypePath (path : String)
  /-- A name may not stand where the source text needs one. -/
  | reservedName
  /-- A name is not an identifier. -/
  | notIdentifier (text : String)
  /-- Source text cannot be laid out in lines. -/
  | noLayout
  /-- The host refused. -/
  | host (fault : HostFault)
deriving DecidableEq, Repr, Inhabited

/-- The wording of a failure. -/
def Failure.message : Failure → String
  | noInputs => "invalid argument: at least one input file is required"
  | compiler fault => fault.message
  | decode fault => s!"failed to decode FileDescriptorSet: {fault.message}"
  | unresolvedDependency file dependency =>
    s!"unresolved dependency: '{file}' imports '{dependency}'"
  | unresolvedType file typeName => s!"unresolved type '{typeName}' referenced from '{file}'"
  | descriptor fault => s!"invalid descriptor: {fault.message}"
  | unknownMessage name => s!"unknown message type '{name}'"
  | unknownField message field => s!"message '{message}' has no field '{field}'"
  | mismatch field expected found =>
    s!"type mismatch for field '{field}': expected {expected}, found {found}"
  | noDefault field message =>
    s!"invalid argument: message field '{field}' of '{message}' is unset and has no default"
  | badTypePath path => s!"failed to parse generated code: invalid type path '{path}'"
  | reservedName => "failed to parse generated code"
  | notIdentifier text => s!"'{text}' is not an identifier"
  | noLayout => "source text has no layout in lines"
  | host fault => s!"IO error: {fault.message}"

end ProtoSchema
