import ProtoSchema.Text.Split

/-!
# Paths

A path is text whose parts are separated by slashes.  A slash in front makes it
*absolute*.  Empty parts mean nothing, and neither does a part that is one dot,
except at the start of a path that is not absolute.  Two paths are the same
when their components are.

`parent` and `fileStem` work on the text, so what they return is a piece of it.
-/

namespace ProtoSchema.Path

/-- What one part of a path asks for. -/
inductive Component where
  /-- The top of all directories. -/
  | root
  /-- The directory one is in. -/
  | here
  /-- The directory above. -/
  | up
  /-- A file or directory by its name. -/
  | entry (name : String)
deriving DecidableEq, Repr, Inhabited

/-- The text between the slashes of a path. -/
def parts (path : String) : List String := Text.pieces '/' path

/-- The parts of a path, in reverse.  The last one is the text before the first
slash. -/
def reversedParts (path : String) : List String := (parts path).reverse

/-- Whether a path starts at the root. -/
def isAbsolute (path : String) : Bool := path.toList.head? == some '/'

/-- The component that a part after the first one stands for, if any. -/
def component? (part : String) : Option Component :=
  match part with
  | "" | "." => none
  | ".." => some .up
  | name => some (.entry name)

/-- The components of a path, from the top. -/
def components (path : String) : List Component :=
  match parts path with
  | [] => []
  | first :: rest =>
    let start :=
      if isAbsolute path then [.root]
      else if first == "." then [.here]
      else (component? first).toList
    start ++ rest.filterMap component?

/-- Whether two paths have the same components. -/
def same (a b : String) : Bool := components a == components b

/-- Drops the parts at the end that mean nothing.  The first part of a path,
the last one here, always stays. -/
def dropIdle : List String → List String
  | part :: first :: rest =>
    if (component? part).isNone then dropIdle (first :: rest) else part :: first :: rest
  | parts => parts

/-- The path that parts in reverse make. -/
def ofReversed (parts : List String) : String :=
  match parts with
  | [""] => "/"
  | parts => "/".intercalate parts.reverse

/-- A path without its last component.  The root has no parent, and neither has
the empty path. -/
def parent (path : String) : Option String :=
  match dropIdle (reversedParts path) with
  | [] => none
  | [part] => if part == "" then none else some ""
  | _ :: rest => some (ofReversed (dropIdle rest))

/-- The name of the file that a path leads to, when its last component is a
name. -/
def fileName (path : String) : Option String :=
  match (components path).getLast? with
  | some (.entry name) => some name
  | _ => none

/-- A name up to its last dot.  A dot in front is not an ending. -/
def stem (name : String) : String :=
  let chars := name.toList
  let before := ((chars.reverse.dropWhile fun c => c != '.').drop 1).reverse
  if before.isEmpty then name else String.ofList before

/-- The name of the file that a path leads to, up to its last dot. -/
def fileStem (path : String) : Option String := (fileName path).map stem

/-- A path inside a directory.  A path that is absolute stands for itself. -/
def join (directory path : String) : String :=
  if isAbsolute path then path
  else if directory.isEmpty ∨ directory.toList.getLast? = some '/' then directory ++ path
  else directory ++ "/" ++ path

/-- The paths in a list, which has colons between them. -/
def list (paths : String) : List String := Text.pieces ':' paths

end ProtoSchema.Path
