import ProtoSchema.Host.Path
import ProtoSchema.Host.Program

/-!
# Files and directories

A *location* is the list of names that leads from the top of all directories to
a file or a directory.  A `Tree` knows the files by their locations.  A
directory is there when it was made or when something lies below it.  Some
directories are there on every host, and nothing can be written into them.

A path is followed from a directory, one component after the other.  Whatever is
not the last component must be a directory, and so must the last one when a
slash follows it.  A path and each name in it are of limited length.
-/

namespace ProtoSchema

/-- The names that lead to a file or a directory. -/
abbrev Location := List String

/-- The path of a location. -/
def Location.path (location : Location) : String := "/" ++ "/".intercalate location

/-- A file. -/
structure HostFile where
  /-- Its bytes. -/
  bytes : List UInt8 := []
  /-- Whether somebody may run it. -/
  executable : Bool := false
  /-- Whether its owner may run it. -/
  runnable : Bool := executable
  /-- How it answers, when it is a compiler. -/
  compiler : Option CompilerAnswers := none
deriving DecidableEq, Repr, Inhabited

/-- The text of a file, if its bytes are text. -/
def HostFile.text? (file : HostFile) : Option String := String.fromUTF8? ⟨file.bytes.toArray⟩

/-- The program that a file is. -/
def HostFile.program (file : HostFile) : Except HostFault Program :=
  match file.compiler, file.text?.bind Script.ofText? with
  | some answers, _ => .ok (.compiler answers)
  | none, some script => .ok (.script script)
  | none, none => .error .notProgram

/-- What stands at a location. -/
inductive Node where
  | directory
  | file (file : HostFile)
  /-- A file that holds nothing, whatever is written to it. -/
  | device
deriving Repr, Inhabited

/-- The files and directories of a host. -/
structure Tree where
  /-- The directories that were made. -/
  directories : List Location := []
  /-- The files. -/
  files : List (Location × HostFile) := []
deriving Repr, Inhabited

namespace Tree

/-! ## What is there on every host -/

/-- The directories of the system. -/
def systemDirectories : List Location :=
  [["bin"], ["dev"], ["etc"], ["home"], ["lib"], ["root"], ["sys"], ["usr", "bin"],
    ["usr", "lib"], ["var", "lib"]]

/-- The location of the device that holds nothing. -/
def nullDevice : Location := ["dev", "null"]

/-! ## Limits -/

/-- The bytes that a name may have. -/
def nameLimit : Nat := 255

/-- The bytes that a path may have. -/
def pathLimit : Nat := 4095

/-- The bytes of the name that a component of a path asks for. -/
def nameLength : Path.Component → Nat
  | .entry name => name.utf8ByteSize
  | _ => 0

/-- Why a path leads nowhere, whatever the files are. -/
def pathFault? (path : String) : Option HostFault :=
  if path.toList.contains '\x00' then some .zeroInPath
  else if path.isEmpty then some .notFound
  else if pathLimit < path.utf8ByteSize then some .nameTooLong
  else none

/-! ## Looking -/

/-- The file at a location. -/
def file? (tree : Tree) (location : Location) : Option HostFile := tree.files.lookup location

/-- What is at a location that is no directory. -/
def leaf? (tree : Tree) (location : Location) : Option Node :=
  if location == nullDevice then some .device else (tree.file? location).map .file

/-- Whether a directory is at a location. -/
def isDirectory (tree : Tree) (location : Location) : Bool :=
  location.isEmpty || systemDirectories.any location.isPrefixOf ||
    tree.directories.any location.isPrefixOf ||
    tree.files.any fun (other, _) => location.isPrefixOf other && location != other

/-- Whether files may be written into a directory: it was made, or lies in one
that was. -/
def isOpen (tree : Tree) (location : Location) : Bool :=
  tree.directories.any fun made => made.isPrefixOf location

/-- The names of what lies directly in a directory. -/
def entries (tree : Tree) (location : Location) : List String :=
  ((tree.directories ++ tree.files.map Prod.fst).filterMap fun other =>
    if location.isPrefixOf other then (other.drop location.length).head? else none).eraseDups

/-- The location that a component leads to from a directory. -/
def step (location : Location) : Path.Component → Location
  | .root => []
  | .here => location
  | .up => location.dropLast
  | .entry name => location ++ [name]

/-- Follows components from a directory. -/
def walk (tree : Tree) (location : Location) :
    List Path.Component → Except HostFault (Location × Node)
  | [] => .ok (location, .directory)
  | component :: rest =>
    let next := step location component
    if nameLimit < nameLength component then .error .nameTooLong
    else if tree.isDirectory next then walk tree next rest
    else
      match tree.leaf? next, rest with
      | some node, [] => .ok (next, node)
      | some _, _ => .error .notDirectory
      | none, _ => .error .notFound

/-- Whether a path can only lead to a directory. -/
def asksDirectory (path : String) : Bool :=
  match Path.reversedParts path with
  | last :: _ :: _ => last == "" || last == "."
  | _ => false

/-- Follows a path from a directory. -/
def find (tree : Tree) (start : Location) (path : String) :
    Except HostFault (Location × Node) :=
  match pathFault? path with
  | some fault => .error fault
  | none =>
    match tree.walk start (Path.components path) with
    | .ok (location, .directory) => .ok (location, .directory)
    | .ok (location, leaf) =>
      if asksDirectory path then .error .notDirectory else .ok (location, leaf)
    | .error fault => .error fault

/-! ## Changing -/

/-- Puts a file at a location. -/
def put (tree : Tree) (location : Location) (file : HostFile) : Tree :=
  { tree with
    files := (location, file) :: tree.files.filter fun (other, _) => other != location }

/-- Makes a directory. -/
def makeDirectory (tree : Tree) (location : Location) : Tree :=
  { tree with directories := location :: tree.directories }

/-- Removes a directory and everything in it. -/
def remove (tree : Tree) (location : Location) : Tree where
  directories := tree.directories.filter fun other => !location.isPrefixOf other
  files := tree.files.filter fun (other, _) => !location.isPrefixOf other

/-- Writes a file of a name into a directory. -/
def writeInto (tree : Tree) (directory : Location) (name : String) (bytes : List UInt8) :
    Except HostFault Tree :=
  let location := directory ++ [name]
  if nameLimit < name.utf8ByteSize then .error .nameTooLong
  else if location == nullDevice then .ok tree
  else if !tree.isOpen directory then .error .denied
  else
    let file := (tree.file? location).getD {}
    .ok (tree.put location { file with bytes })

/-- The path of the directory that a file is written into. -/
def directoryPath (path : String) : String :=
  match Path.parent path with
  | none | some "" => "."
  | some parent => parent

/-- Writes a file at the end of a path, whose directory must be there. -/
def write (tree : Tree) (start : Location) (path : String) (bytes : List UInt8) :
    Except HostFault Tree :=
  match pathFault? path, Path.fileName path with
  | some fault, _ => .error fault
  | none, none => .error .notFound
  | none, some name =>
    match tree.find start (directoryPath path) with
    | .ok (location, .directory) => tree.writeInto location name bytes
    | .ok _ => .error .notDirectory
    | .error fault => .error fault

end Tree

end ProtoSchema
