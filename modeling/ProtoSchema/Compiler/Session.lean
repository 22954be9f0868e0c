import ProtoSchema.Catalog.Load
import ProtoSchema.Compiler.Command
import ProtoSchema.Descriptor.Decode
import ProtoSchema.Source.Modules

/-!
# Compiler sessions

A `Compiler` holds what is common to several compilations: the command, the
directories for imports, and what else the command is told.  Schema files are
compiled into a set of descriptors in a temporary directory, and the set is
decoded, loaded into a catalog, or rendered as source.

When a set is wanted, imports are looked for in the directories of the session
and then in those of the inputs.  A schema that is given as text is written to a
file in a temporary directory of its own.
-/

namespace ProtoSchema

/-- The command for a compiler when nothing else is said.  The surroundings may
name another one. -/
def defaultCommand (surroundings : Option String) : String :=
  match surroundings with
  | none | some "" => "protoc"
  | some command => command

/-- How schema files are compiled. -/
structure Compiler where
  /-- The command. -/
  command : String
  /-- The directories that imports are looked for in. -/
  includeDirs : List String := []
  /-- Further arguments. -/
  extraArgs : List String := []
  /-- Whether a compiled set holds the imports as well. -/
  includeImports : Bool := true
  /-- How source is written. -/
  style : SourceStyle := .formatted
deriving Repr, Inhabited

namespace Compiler

/-! ## The search path -/

/-- Items without those that are like an earlier one. -/
def firstOnly (alike : String → String → Bool) : List String → List String
  | [] => []
  | item :: rest => item :: (firstOnly alike rest).filter fun other => !alike item other

/-- The directory of a file. -/
def directoryOf (input : String) : String :=
  match Path.parent input with
  | none | some "" => "."
  | some parent => parent

/-- The directories that imports of some inputs are looked for in. -/
def searchDirs (compiler : Compiler) (inputs : List String) : List String :=
  firstOnly Path.same (compiler.includeDirs ++ inputs.map directoryOf)

/-! ## Compiling -/

/-- The request to compile some files. -/
def request (compiler : Compiler) (output : String) (inputs dirs : List String) :
    Except Failure CompileRequest :=
  (CompileRequest.of output inputs).map fun request =>
    { request with
      includeDirs := dirs
      extraArgs := compiler.extraArgs
      includeImports := compiler.includeImports }

/-- Compiles some files into an output file.  Only the directories of the
session are searched. -/
def compile (compiler : Compiler) (output : String) (inputs : List String) : HostAction Unit := do
  (← compiler.request output inputs compiler.includeDirs).run compiler.command

/-- The name of the output file in a temporary directory. -/
def outputName : String := "descriptor_set.pb"

/-- Compiles some files into a set. -/
def compileToSet (compiler : Compiler) (inputs : List String) : HostAction FileSet :=
  HostAction.withTemporary fun directory => do
    let output := Path.join directory outputName
    (← compiler.request output inputs (compiler.searchDirs inputs)).run compiler.command
    let bytes ← HostAction.read output
    (FileSet.decode bytes).mapError Failure.decode

/-- The name of the file for a schema that is given as text. -/
def schemaName : String := "schema.proto"

/-- Writes a schema into a temporary directory, for an action of the session
that searches this directory too. -/
def withSchema {α : Type} (compiler : Compiler) (schema : String)
    (action : Compiler → List String → HostAction α) : HostAction α :=
  HostAction.withTemporary fun directory => do
    let input := Path.join directory schemaName
    HostAction.write input schema.toUTF8.toList
    action { compiler with includeDirs := compiler.includeDirs ++ [directory] } [input]

/-! ## Using what was compiled -/

/-- Compiles some files and loads them into a catalog. -/
def load (compiler : Compiler) (catalog : Catalog) (inputs : List String) :
    HostAction Loaded := do
  catalog.load (← compiler.compileToSet inputs)

/-- Compiles a schema and loads it into a catalog. -/
def loadText (compiler : Compiler) (catalog : Catalog) (schema : String) : HostAction Loaded :=
  compiler.withSchema schema fun compiler inputs => compiler.load catalog inputs

/-- Compiles some files and writes the source for them. -/
def generate (compiler : Compiler) (loaded : Catalog) (inputs : List String) :
    HostAction SourceDirectory := do
  let set ← compiler.compileToSet inputs
  writeModules (← Scope.generate (.of set loaded) compiler.style)

/-! ## Asking for the compiler -/

/-- The version of the compiler, if there is one. -/
def version? (compiler : Compiler) : HostAction (Option String) :=
  HostAction.version? compiler.command

/-- Whether there is a compiler, and its version will do. -/
def isAvailable (compiler : Compiler) : HostAction Bool :=
  return (← compiler.version?).any Version.isEnough

end Compiler

end ProtoSchema
