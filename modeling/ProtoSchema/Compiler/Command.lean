import ProtoSchema.Compiler.Request
import ProtoSchema.Host.Action

/-!
# Running a compiler

The command for a compiler is a path, or the name of a program in the search
path.  Before a request is run its command is *located*: a path to an executable
file stands for that file, and a plain name is then looked for in the search
path.  A compiler that cannot be located is not started.

A compiler is asked for its version without being located first.  So a name
alone is looked for in the search path only, and a compiler that is not there
has no version.
-/

namespace ProtoSchema

/-! ## Locating -/

namespace Host

/-- A directory of the search path.  A tilde in front stands for the directory of
the user. -/
def searched (host : Host) (directory : String) : String :=
  match Path.parts directory with
  | "~" :: rest => Path.join host.home ("/".intercalate rest)
  | _ => directory

/-- The first file of a name in some directories that may be run. -/
def locateIn (host : Host) (name : String) (directories : List String) : Option String :=
  (directories.map fun directory => Path.join (host.searched directory) name).find?
    host.isRunnable

/-- The path of the executable file that a command stands for. -/
def locate (host : Host) (command : String) : Except Failure String :=
  match host.executable? command with
  | some location => .ok location.path
  | none =>
    let found :=
      if (Path.components command).length ≤ 1 then host.locateIn command host.searchPath
      else none
    match found with
    | some path => .ok path
    | none => .error (.compiler (.notExecutable command))

end Host

/-! ## Requests -/

/-- Runs a request. -/
def CompileRequest.run (request : CompileRequest) (command : String) : HostAction Unit := do
  let program ← (← get).locate command
  match ← HostAction.start program request.arguments with
  | .error fault => throw (.compiler (.notStarted program fault))
  | .ok outcome =>
    match outcome.fault? with
    | some fault => throw (.compiler fault)
    | none => pure ()

/-! ## Versions -/

namespace Version

/-- The characters of a version. -/
def isPart (c : Char) : Bool := c.isDigit || c == '.'

/-- The first run of digits and dots in a text. -/
def find? (text : String) : Option String :=
  match (text.toList.dropWhile fun c => !isPart c).takeWhile isPart with
  | [] => none
  | chars => some (String.ofList chars)

/-- The oldest version that will do. -/
def least : String := "2.2"

/-- Whether a version will do.  Versions are compared as texts. -/
def isEnough (version : String) : Bool := !decide (version < least)

end Version

/-- The version that a compiler reports, if there is such a compiler and it
reports one. -/
def HostAction.version? (command : String) : HostAction (Option String) := do
  match ← HostAction.start command ["--version"] with
  | .ok outcome => return Version.find? outcome.printed
  | .error .notFound => return none
  | .error fault => throw (.compiler (.notStarted command fault))

end ProtoSchema
