import ProtoSchema.Host.Tree
import ProtoSchema.Source.Generate

/-!
# Source files

The files of one package share a module, which is written to a file of its own.
A module holds the source of its files in order, each under a comment with the
name of the file.  One more file declares all modules.

A file is named after its module, which may be a raw name.  The name of a module
comes from the schema, so two modules can meet in one file, or a module in the
file for all modules.  The text that is written last stays.
-/

namespace ProtoSchema

/-- The source that belongs into each module, by the name of the module. -/
abbrev SourceModules := NameTable String

namespace SourceModules

/-- The source of a file under a comment with its name. -/
def entry (file : GeneratedFile) : String := s!"// {file.tables.file}\n{file.source}"

/-- Puts the source of a file into its module. -/
def add (modules : SourceModules) (file : GeneratedFile) : SourceModules :=
  let before :=
    match modules.find? file.module with
    | none | some "" => ""
    | some text => text ++ "\n"
  modules.insert file.module (before ++ entry file)

/-- The modules of several files. -/
def ofFiles (files : List GeneratedFile) : SourceModules := files.foldl add .empty

end SourceModules

/-! ## Writing -/

/-- A name without the marks of a raw name in front. -/
def dropRawMarks : List Char → List Char
  | 'r' :: '#' :: rest => dropRawMarks rest
  | chars => chars

/-- The name of the file that a module is written to. -/
def moduleFile (module : String) : String := String.ofList (dropRawMarks module.toList) ++ ".rs"

/-- The name of the file that declares all modules. -/
def rootFile : String := "mod.rs"

/-- The files that were written into a directory. -/
structure SourceDirectory where
  /-- The names of the files, in the order in which they were written. -/
  written : List String := []
  /-- The text of each file. -/
  texts : NameTable String := .empty
deriving Inhabited

namespace SourceDirectory

/-- The location of a directory for source files. -/
def location : Location := ["source"]

/-- Why a file of a name cannot be written into a directory for source files,
which holds no further directories. -/
def fault? (name : String) : Option HostFault :=
  let tree : Tree := { directories := [location] }
  match tree.write location (Path.join location.path name) [] with
  | .ok _ => none
  | .error fault => some fault

/-- Writes a file. -/
def write (directory : SourceDirectory) (name text : String) : Except Failure SourceDirectory :=
  match fault? name with
  | some fault => .error (.host fault)
  | none =>
    .ok { written := directory.written ++ [name], texts := directory.texts.insert name text }

/-- Writes a file for each module, and the file that declares them. -/
def ofModules (modules : SourceModules) : Except Failure SourceDirectory := do
  let directory ← modules.entries.foldlM
    (fun (directory : SourceDirectory) (module, text) =>
      directory.write (moduleFile module) text)
    {}
  directory.write rootFile (String.join (modules.names.map fun module => s!"pub mod {module};\n"))

/-- The written files and the texts they have in the end. -/
def files (directory : SourceDirectory) : List (String × String) :=
  directory.written.filterMap fun name =>
    (directory.texts.find? name).map fun text => (name, text)

end SourceDirectory

/-- Writes generated files, one module each. -/
def writeModules (files : List GeneratedFile) : Except Failure SourceDirectory :=
  SourceDirectory.ofModules (.ofFiles files)

end ProtoSchema
