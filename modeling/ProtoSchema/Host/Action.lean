import ProtoSchema.Host.Tree

/-!
# Actions on a host

A `Host` is what an operation can see and change outside of the library: the
files, the directory that paths start at, and the places where programs are
looked for.  It keeps a record of the compilers that were run.

An action may fail, and the changes it made before remain.  A temporary
directory is removed whether the action that uses it fails or not.
-/

namespace ProtoSchema

/-- A run of a compiler. -/
structure CompilerRun where
  /-- The arguments. -/
  arguments : List String
  /-- The text of the last input, if it was a file. -/
  input : Option String
deriving DecidableEq, Repr, Inhabited

/-- The surroundings of an operation. -/
structure Host where
  /-- The files and directories. -/
  tree : Tree := {}
  /-- The directory that relative paths start at. -/
  current : Location := []
  /-- The directory for temporary directories. -/
  temporary : Location := ["tmp"]
  /-- The directory of the user. -/
  home : String := "/root"
  /-- The directories that programs are looked for in. -/
  searchPath : List String := []
  /-- How many temporary directories were made. -/
  made : Nat := 0
  /-- The compilers that were run, the last one first. -/
  runs : List CompilerRun := []
deriving Repr, Inhabited

/-- An operation that may change the host and may fail. -/
abbrev HostAction := ExceptT Failure (StateM Host)

namespace Host

/-! ## Files -/

/-- What a path leads to. -/
def find (host : Host) (path : String) : Except HostFault (Location × Node) :=
  host.tree.find host.current path

/-- The bytes of a file. -/
def read (host : Host) (path : String) : Except HostFault (List UInt8) :=
  match host.find path with
  | .ok (_, .file file) => .ok file.bytes
  | .ok (_, .device) => .ok []
  | .ok (_, .directory) => .error .denied
  | .error fault => .error fault

/-- The text of a file, if the path leads to a file and the file holds text. -/
def text? (host : Host) (path : String) : Option String :=
  match host.find path with
  | .ok (_, .file file) => file.text?
  | _ => none

/-! ## Programs -/

/-- The location of a file that somebody may run. -/
def executable? (host : Host) (path : String) : Option Location :=
  match host.find path with
  | .ok (location, .file file) => if file.executable then some location else none
  | _ => none

/-- Whether a path leads to a file that its owner may run. -/
def isRunnable (host : Host) (path : String) : Bool :=
  match host.find path with
  | .ok (_, .file file) => file.runnable
  | _ => false

/-- Runs a compiler.  A file that cannot be written is not written. -/
def runCompiler (host : Host) (answers : CompilerAnswers) (arguments : List String) :
    Outcome × Host :=
  let input := (CompilerAnswers.lastInput? arguments).bind host.text?
  let tree :=
    match answers.written? arguments with
    | some (path, bytes) => (host.tree.write host.current path bytes).toOption.getD host.tree
    | none => host.tree
  (answers.run arguments, { host with tree, runs := ⟨arguments, input⟩ :: host.runs })

/-- The program that a path leads to. -/
def program (host : Host) (path : String) : Except HostFault Program :=
  match host.find path with
  | .error fault => .error fault
  | .ok (_, .directory) | .ok (_, .device) => .error .denied
  | .ok (_, .file file) => if file.runnable then file.program else .error .denied

/-- How many interpreters are started for one script, one for the other. -/
def interpreterLimit : Nat := 5

/-- Runs the program that a path leads to.  For a script that is its interpreter,
which gets the path of the script.  At most `n` interpreters are started. -/
def runFileUpTo (host : Host) :
    Nat → String → List String → Except HostFault (Outcome × Host)
  | 0, path, arguments => do
    match ← host.program path with
    | .compiler answers => return host.runCompiler answers arguments
    | .script _ => throw .tooManyLevels
  | n + 1, path, arguments => do
    match ← host.program path with
    | .compiler answers => return host.runCompiler answers arguments
    | .script script =>
      if script.isForShell then return (script.run, host)
      else runFileUpTo host n script.interpreter (script.argument.toList ++ path :: arguments)

/-- Runs the program that a path leads to. -/
def runFile (host : Host) (path : String) (arguments : List String) :
    Except HostFault (Outcome × Host) :=
  host.runFileUpTo interpreterLimit path arguments

/-- Runs the first program of a name in some directories.  A directory in which
there is none is passed over, and so is a file that may not be run.  When
nothing else is found such a file is the reason for the failure. -/
def runFirst (host : Host) (name : String) (arguments : List String) :
    List String → Except HostFault (Outcome × Host)
  | [] => .error .notFound
  | directory :: rest =>
    match host.runFile (Path.join directory name) arguments with
    | .error .notFound | .error .notDirectory => host.runFirst name arguments rest
    | .error .denied =>
      match host.runFirst name arguments rest with
      | .error .notFound => .error .denied
      | answer => answer
    | answer => answer

/-- The bytes that an argument may have. -/
def argumentLimit : Nat := 131071

/-- Why no program can be started with a command and some arguments. -/
def argumentFault? (command : String) (arguments : List String) : Option HostFault :=
  if (command :: arguments).any fun text => text.toList.contains '\x00' then some .zeroInArgument
  else if arguments.any fun text => argumentLimit < text.utf8ByteSize then some .argumentTooLong
  else none

/-- Runs a command.  One with a slash is a path, and any other is looked for in
the search path. -/
def run (host : Host) (command : String) (arguments : List String) :
    Except HostFault (Outcome × Host) :=
  if let some fault := argumentFault? command arguments then .error fault
  else if command.toList.contains '/' then host.runFile command arguments
  else if command.isEmpty then .error .notFound
  else host.runFirst command arguments host.searchPath

/-! ## Temporary directories -/

/-- The name of a temporary directory, which ends in six digits. -/
def temporaryName (n : Nat) : String :=
  let digits := Nat.toDigits 10 n
  "schema" ++ String.ofList (List.replicate (6 - digits.length) '0' ++ digits)

/-- Makes a temporary directory. -/
def makeTemporary (host : Host) : Location × Host :=
  let location := host.temporary ++ [temporaryName host.made]
  (location, { host with tree := host.tree.makeDirectory location, made := host.made + 1 })

/-- Removes a directory. -/
def remove (host : Host) (location : Location) : Host :=
  { host with tree := host.tree.remove location }

end Host

namespace HostAction

/-- Fails for a reason that the host gave. -/
def refuse {α : Type} : Except HostFault α → HostAction α
  | .ok a => pure a
  | .error fault => throw (.host fault)

/-- Reads a file. -/
def read (path : String) : HostAction (List UInt8) := do
  refuse ((← get).read path)

/-- Writes a file. -/
def write (path : String) (bytes : List UInt8) : HostAction Unit := do
  let host ← get
  let tree ← refuse (host.tree.write host.current path bytes)
  set { host with tree }

/-- Starts a command and waits for its end. -/
def start (command : String) (arguments : List String) :
    HostAction (Except HostFault Outcome) := do
  match (← get).run command arguments with
  | .ok (outcome, host) =>
    set host
    return .ok outcome
  | .error fault => return .error fault

/-- Makes a temporary directory for an action, which gets its path, and removes
it afterwards. -/
def withTemporary {α : Type} (action : String → HostAction α) : HostAction α :=
  ExceptT.mk fun host =>
    let (location, host) := host.makeTemporary
    let (answer, host) := (ExceptT.run (action location.path)) host
    (answer, Host.remove host location)

end HostAction

end ProtoSchema
